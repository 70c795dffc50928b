import TypedSteps.Builtin
import TypedSteps.Proofs.Regex.Reading

/-!
# The patterns of the built-in types are read

Every built-in pattern can stand in a group, where it is read as on its own. What it is
read as is written down here as an expression, type by type.

* `digits`, `run_digits` — counted digits, of which dates are made;
* `dateLevel`, `run_date` — the pattern of dates, read part by part;
* `Builtin.regex`, `regex_bodyLevel` — the expressions of the built-in patterns;
* `embeds_builtin` — they can stand in groups.
-/

namespace TypedSteps

open Unicode (CharSet)

-- ---------------------------------------------------------------------------
-- Counted digits
-- ---------------------------------------------------------------------------

/-- An ASCII digit. -/
def digit : Regex :=
  .chars (.ofRange 0x30 0x39) false

/-- The given number of ASCII digits. -/
def digits (n : Nat) : Regex :=
  .rep digit n (some n) true

/-- The pattern of a number of digits. -/
def digitsPattern (n : Nat) : List Char :=
  ['[', '0', '-', '9', ']', '{', n.digitChar, '}']

theorem bounds_unmarked {c : Char} (h : c ≠ '?') (n taken : Nat) (rest : List Char) :
    Bounds.close {} n (some n) taken (c :: rest) = .ok (⟨n, some n, false⟩, taken) := by
  rw [Bounds.close]
  simp only [Option.any_some, Nat.lt_irrefl, decide_false, Bool.false_eq_true, if_false]
  split
  next heq => exact absurd (List.cons.inj heq).1 h
  next => rfl

/-- Counted digits are read as such unless a question mark follows. -/
theorem run_digits {n : Nat} (hn : n = 2 ∨ n = 4) {c : Char} (hc : c ≠ '?') (level : Level)
    (frames : List Frame) (names : List (Option String)) (rest : List Char) :
    (Reading.outside level frames names).run 0 (digitsPattern n ++ c :: rest) =
      (Reading.outside (level.push (digits n) 2) frames names).run 0 (c :: rest) := by
  have hBounds : readBounds {} (n.digitChar :: '}' :: c :: rest) =
      .ok (⟨n, some n, false⟩, 2) := by
    have hClose : readBounds {} (n.digitChar :: '}' :: c :: rest) =
        Bounds.close {} n (some n) 2 (c :: rest) := by
      rcases hn with rfl | rfl <;> rfl
    rw [hClose, bounds_unmarked hc]
  have hStep : (Reading.outside (level.push digit 1) frames names).stepOutside '{'
      (n.digitChar :: '}' :: c :: rest) =
        .ok (Reading.outside (level.push (digits n) 2) frames names, 2) := by
    have hRead : readBounds (Reading.outside (level.push digit 1) frames names).flags
        (n.digitChar :: '}' :: c :: rest) = .ok (⟨n, some n, false⟩, 2) := hBounds
    simp only [Reading.stepOutside, hRead]
    rcases hn with rfl | rfl <;> rfl
  show (Reading.outside (level.push digit 1) frames names).run 0
    ('{' :: n.digitChar :: '}' :: c :: rest) = _
  rw [Reading.run_of_stepOutside hStep]
  rfl

-- ---------------------------------------------------------------------------
-- Dates
-- ---------------------------------------------------------------------------

/-- The pattern of a time of day. -/
def timePattern : List Char :=
  digitsPattern 2 ++ ':' :: digitsPattern 2 ++ ':' :: digitsPattern 2

/-- The pattern of dates, put together from its parts. -/
def datePattern : List Char :=
  digitsPattern 4 ++ '-' :: digitsPattern 2 ++ '-' :: digitsPattern 2 ++
    '(' :: '?' :: ':' :: 'T' :: timePattern ++ 'Z' :: '?' :: ')' :: '?' :: '|' ::
      digitsPattern 2 ++ '/' :: digitsPattern 2 ++ '/' :: digitsPattern 4 ++
        '(' :: '?' :: ':' :: ' ' :: timePattern ++ [')', '?']

theorem toList_pattern_date : Builtin.date.pattern.toList = datePattern := by
  decide +kernel

/-- The level after three numbers with a separator between them. -/
def Level.pushNumbers (level : Level) (a b c : Nat) (sep : Char) : Level :=
  ((((level.push (digits a) 2).push (.char sep) 0).push (digits b) 2).push (.char sep) 0).push
    (digits c) 2

/-- The level after a group that may be missing. -/
def Level.pushOptional (level body : Level) : Level :=
  level.push (body.close.regex.repeated 0 (some 1) true) (body.close.depth + 2)

/-- The level after the pattern of dates. -/
def dateLevel : Level :=
  let clock := Level.empty.push (.char 'T') 0
  let zoned := (clock.pushNumbers 2 2 2 ':').push (.rep (.char 'Z') 0 (some 1) true) 1
  let dashed := (Level.empty.pushNumbers 4 2 2 '-').pushOptional zoned
  let clock := (Level.empty.push (.char ' ') 0).pushNumbers 2 2 2 ':'
  (dashed.nextBranch.pushNumbers 2 2 4 '/').pushOptional clock

/-- Three numbers with a separator between them are read as such unless a question mark
follows. -/
theorem run_numbers {a b c : Nat} (ha : a = 2 ∨ a = 4) (hb : b = 2 ∨ b = 4) (hc : c = 2 ∨ c = 4)
    {sep : Char} (hSep : sep ∉ Reading.operators) {d : Char} (hd : d ≠ '?') (level : Level)
    (frames : List Frame) (names : List (Option String)) (rest : List Char) :
    (Reading.outside level frames names).run 0
        (digitsPattern a ++ sep :: (digitsPattern b ++ sep :: (digitsPattern c ++ d :: rest))) =
      (Reading.outside (level.pushNumbers a b c sep) frames names).run 0 (d :: rest) := by
  have hMark : sep ≠ '?' := by
    rintro rfl
    exact hSep (by decide)
  rw [run_digits ha hMark, Reading.run_ordinary hSep, run_digits hb hMark,
    Reading.run_ordinary hSep, run_digits hc hd]
  rfl

theorem run_openPlain (level : Level) (frames : List Frame) (names : List (Option String))
    (rest : List Char) :
    (Reading.outside level frames names).run 0 ('(' :: '?' :: ':' :: rest) =
      (Reading.outside .empty (⟨level, none, {}⟩ :: frames) names).run 0 rest := rfl

/-- The end of a group that may be missing. -/
theorem run_closeOptional (level outer : Level) (frames : List Frame)
    (names : List (Option String)) {rest : List Char} (h : rest.head? ≠ some '?') :
    (Reading.outside level (⟨outer, none, {}⟩ :: frames) names).run 0 (')' :: '?' :: rest) =
      (Reading.outside (outer.pushOptional level) frames names).run 0 rest := by
  have hMark : (rest.head? == some '?') = false := beq_false_of_ne h
  have hStep : (Reading.outside (outer.push level.close.regex (level.close.depth + 1)) frames
      names).stepOutside '?' rest =
        .ok (Reading.outside (outer.pushOptional level) frames names, 0) := by
    show Reading.repeatUncounted (Reading.outside (outer.push level.close.regex
      (level.close.depth + 1)) frames names) 0 (some 1) rest = _
    rw [Reading.repeatUncounted, hMark]
    rfl
  exact Reading.run_of_stepOutside hStep

/-- The pattern of dates is read part by part. -/
theorem run_date {rest : List Char} (h : rest.head? ≠ some '?') (frames : List Frame)
    (names : List (Option String)) :
    (Reading.outside .empty frames names).run 0 (datePattern ++ rest) =
      (Reading.outside dateLevel frames names).run 0 rest := by
  have hZone (level : Level) (frames : List Frame) (rest : List Char) :
      (Reading.outside level frames names).run 0 ('Z' :: '?' :: ')' :: rest) =
        (Reading.outside (level.push (.rep (.char 'Z') 0 (some 1) true) 1) frames names).run 0
          (')' :: rest) := rfl
  have hBar (level : Level) (rest : List Char) :
      (Reading.outside level frames names).run 0 ('|' :: rest) =
        (Reading.outside level.nextBranch frames names).run 0 rest := rfl
  simp only [datePattern, timePattern, List.append_assoc, List.cons_append, List.nil_append]
  rw [run_numbers (.inr rfl) (.inl rfl) (.inl rfl) (by decide) (by decide), run_openPlain,
    Reading.run_ordinary (by decide),
    run_numbers (.inl rfl) (.inl rfl) (.inl rfl) (by decide) (by decide), hZone,
    run_closeOptional _ _ _ _ (by simp), hBar,
    run_numbers (.inl rfl) (.inl rfl) (.inr rfl) (by decide) (by decide), run_openPlain,
    Reading.run_ordinary (by decide),
    run_numbers (.inl rfl) (.inl rfl) (.inl rfl) (by decide) (by decide),
    run_closeOptional _ _ _ _ h]
  rfl

theorem bodyLevel_date : bodyLevel Builtin.date.pattern = dateLevel := by
  refine bodyLevel_of_run ?_
  have hEnd : ([] : List Char).head? ≠ some '?' := by simp
  have hDate := run_date hEnd [] []
  rwa [List.append_nil, Reading.run_nil, ← toList_pattern_date] at hDate

-- ---------------------------------------------------------------------------
-- All types
-- ---------------------------------------------------------------------------

/-- The time of day that may follow a date after the character `c`. -/
def clockRegex (c : Char) (zone : List Regex) : Regex :=
  .rep (.ofFactors (.char c :: digits 2 :: .char ':' :: digits 2 :: .char ':' :: digits 2 :: zone))
    0 (some 1) true

/-- The expression of the texts that a built-in type stands for. -/
def Builtin.regex : Builtin → Regex
  | string =>
    .alt
      (.ofFactors [.char '"', .rep (.chars (CharSet.ofChar '"').complement false) 0 none true,
        .char '"'])
      (.ofFactors [.char '\'', .rep (.chars (CharSet.ofChar '\'').complement false) 0 none true,
        .char '\''])
  | number => .rep digit 1 none true
  | float =>
    .ofFactors [.rep (.chars (.mk [(0x2B, 0x2B), (0x2D, 0x2D)]) false) 0 (some 1) true,
      .rep digit 0 none true, .char '.', .rep digit 1 none true]
  | boolean =>
    .ofFactors [.look (.word .boundary true),
      .alt (.ofFactors ("true".toList.map .char)) (.ofFactors ("false".toList.map .char)),
      .look (.word .boundary true)]
  | word => .rep (.chars Unicode.whiteSpace.complement false) 1 none true
  | char => .chars (CharSet.ofChar '\n').complement false
  | email =>
    let label : Regex := .rep (.chars (.mk [(0x2D, 0x2D), (0x30, 0x39), (0x41, 0x5A),
      (0x61, 0x7A)]) false) 1 none true
    .ofFactors [.rep (.chars (.mk [(0x2E, 0x2E), (0x30, 0x39), (0x41, 0x5A), (0x61, 0x7A)]) false)
      1 none true, .char '@', label, .rep (.ofFactors [.char '.', label]) 1 none true]
  | list =>
    let item : Regex := .rep (.chars (CharSet.ofChar ',').complement false) 1 none true
    .ofFactors [item, .rep (.ofFactors [.char ',', item]) 0 none true]
  | date =>
    .alt
      (.ofFactors [digits 4, .char '-', digits 2, .char '-', digits 2,
        clockRegex 'T' [.rep (.char 'Z') 0 (some 1) true]])
      (.ofFactors [digits 2, .char '/', digits 2, .char '/', digits 4, clockRegex ' ' []])

/-- A built-in pattern is read as the expression of its type. -/
theorem regex_bodyLevel (b : Builtin) : (bodyLevel b.pattern).close.regex = b.regex := by
  cases b with
  | date =>
    rw [bodyLevel_date]
    decide +kernel
  | string | number | float | boolean | word | char | email | list => decide +kernel

/-- The built-in patterns can stand in groups. -/
theorem embeds_builtin (b : Builtin) : Embeds b.pattern where
  run frames names rest := by
    cases b with
    | date =>
      rw [bodyLevel_date, toList_pattern_date]
      exact run_date (by simp) frames names
    | string | number | float | boolean | word | char | email | list => rfl
  depth := by
    cases b with
    | date =>
      rw [bodyLevel_date]
      decide +kernel
    | string | number | float | boolean | word | char | email | list => decide +kernel

end TypedSteps
