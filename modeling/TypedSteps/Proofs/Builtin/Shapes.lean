import TypedSteps.Proofs.Builtin.Reading

/-!
# The texts of the built-in types

Which texts a built-in type stands for, said without patterns, and that the expressions
of the types match just those.

* `Run`, `Digits`, `Numbers`, `Quoted` — the parts that texts are made of;
* `Builtin.Shape`, `Builtin.Admits` — the texts of a type, and where they may stand;
* `spells_shape` — all types but one look at nothing but the text itself;
* `meaning_builtin` — the expression of a type matches the texts that it admits.
-/

namespace TypedSteps

open Unicode (CharSet)

-- ---------------------------------------------------------------------------
-- Texts
-- ---------------------------------------------------------------------------

/-- A text that is not empty and whose characters have the property `p`. -/
def Run (p : Char → Bool) (v : List Char) : Prop :=
  v ≠ [] ∧ ∀ c ∈ v, p c = true

/-- The given number of ASCII digits. -/
def Digits (n : Nat) (v : List Char) : Prop :=
  v.length = n ∧ ∀ c ∈ v, c.isDigit = true

/-- Three numbers of the given lengths with a separator between them. -/
def Numbers (a b c : Nat) (sep : Char) (v : List Char) : Prop :=
  ∃ x y z, v = x ++ sep :: y ++ sep :: z ∧ Digits a x ∧ Digits b y ∧ Digits c z

/-- A text between two quotes that does not hold the quote itself. -/
def Quoted (quote : Char) (v : List Char) : Prop :=
  ∃ inner, v = quote :: inner ++ [quote] ∧ quote ∉ inner

/-- The texts that a built-in type stands for. -/
def Builtin.Shape : Builtin → List Char → Prop
  | string, v => Quoted '"' v ∨ Quoted '\'' v
  | number, v => Run Char.isDigit v
  | float, v =>
    ∃ sign whole fraction, v = sign ++ whole ++ '.' :: fraction ∧
      (sign = [] ∨ sign = ['+'] ∨ sign = ['-']) ∧
      (∀ c ∈ whole, c.isDigit = true) ∧ Run Char.isDigit fraction
  | boolean, v => v = "true".toList ∨ v = "false".toList
  | word, v => Run (fun c => !Unicode.isWhiteSpace c) v
  | char, v => ∃ c, v = [c] ∧ c ≠ '\n'
  | email, v =>
    ∃ user labels, v = user ++ '@' :: ['.'].intercalate labels ∧
      Run (fun c => c.isAlphanum || c == '.') user ∧ 2 ≤ labels.length ∧
      ∀ label ∈ labels, Run (fun c => c.isAlphanum || c == '-') label
  | list, v =>
    ∃ items, v = [','].intercalate items ∧ 1 ≤ items.length ∧
      ∀ item ∈ items, Run (· != ',') item
  | date, v =>
    ∃ day clock, v = day ++ clock ∧
      ((Numbers 4 2 2 '-' day ∧ (clock = [] ∨
          ∃ time zone, clock = 'T' :: time ++ zone ∧ Numbers 2 2 2 ':' time ∧
            (zone = [] ∨ zone = ['Z']))) ∨
        (Numbers 2 2 4 '/' day ∧ (clock = [] ∨
          ∃ time, clock = ' ' :: time ∧ Numbers 2 2 2 ':' time)))

/-- No word character stands right before or after a place. -/
def FreeOfWords (before after : List Char) : Prop :=
  (∀ c, before.getLast? = some c → Unicode.isWordCharacter c = false) ∧
    ∀ c, after.head? = some c → Unicode.isWordCharacter c = false

/-- Whether a text may stand for a built-in type between two others. Only truth values
look at their neighbours. -/
def Builtin.Admits (b : Builtin) (before v after : List Char) : Prop :=
  b.Shape v ∧ (b = .boolean → FreeOfWords before after)

-- ---------------------------------------------------------------------------
-- Classes
-- ---------------------------------------------------------------------------

theorem contains_digits : (CharSet.ofRange 0x30 0x39).contains = Char.isDigit := by
  funext c
  rw [Bool.eq_iff_iff, CharSet.contains_ofRange]
  simp only [Char.isDigit, Bool.and_eq_true, decide_eq_true_eq]
  rfl

theorem contains_complement_ofChar (c : Char) (h : (CharSet.ofChar c).Ordered) :
    (CharSet.ofChar c).complement.contains = (· != c) := by
  funext d
  rw [Bool.eq_iff_iff, CharSet.contains_complement h, CharSet.contains_ofChar, bne_iff_ne,
    beq_iff_eq]

theorem contains_complement_whiteSpace :
    Unicode.whiteSpace.complement.contains = fun c => !Unicode.isWhiteSpace c := by
  funext c
  have hOrdered : Unicode.whiteSpace.Ordered := by decide
  rw [Bool.eq_iff_iff, CharSet.contains_complement hOrdered, Bool.not_eq_true']
  exact Bool.eq_false_iff.symm

/-- Letters and digits by their code points. -/
theorem isAlphanum_iff (c : Char) :
    c.isAlphanum = true ↔ (0x30 ≤ c.toNat ∧ c.toNat ≤ 0x39) ∨ (0x41 ≤ c.toNat ∧ c.toNat ≤ 0x5A) ∨
      (0x61 ≤ c.toNat ∧ c.toNat ≤ 0x7A) := by
  have hCases : c.isAlphanum = ((decide ('A'.val ≤ c.val ∧ c.val ≤ 'Z'.val) ||
      (decide ('a'.val ≤ c.val) && decide (c.val ≤ 'z'.val))) ||
      (decide ('0'.val ≤ c.val) && decide (c.val ≤ '9'.val))) := rfl
  simp only [hCases, Bool.or_eq_true, Bool.and_eq_true, decide_eq_true_eq, UInt32.le_iff_toNat_le]
  rw [or_comm]
  rfl

theorem inRange_char {c d : Char} : CharSet.InRange d.toNat (c.toNat, c.toNat) ↔ d = c := by
  have hSame : (CharSet.ofChar c).contains d = true ↔ CharSet.InRange d.toNat (c.toNat, c.toNat) :=
    CharSet.contains_ofRange
  rw [← hSame, CharSet.contains_ofChar, beq_iff_eq]

/-- ASCII letters and digits and one character more. -/
theorem contains_alphanum_or (c : Char) :
    CharSet.contains (.mk [(c.toNat, c.toNat), (0x30, 0x39), (0x41, 0x5A), (0x61, 0x7A)]) =
      fun d => d.isAlphanum || d == c := by
  funext d
  rw [Bool.eq_iff_iff, CharSet.contains_iff, CharSet.covers_cons, CharSet.covers_cons,
    CharSet.covers_cons, CharSet.covers_cons, or_iff_left (CharSet.covers_nil _), Bool.or_eq_true,
    isAlphanum_iff, inRange_char, beq_iff_eq]
  exact or_comm

/-- Two characters. -/
theorem contains_pair (c c' : Char) :
    CharSet.contains (.mk [(c.toNat, c.toNat), (c'.toNat, c'.toNat)]) =
      fun d => d == c || d == c' := by
  funext d
  rw [Bool.eq_iff_iff, CharSet.contains_iff, CharSet.covers_cons, CharSet.covers_cons,
    or_iff_left (CharSet.covers_nil _), inRange_char, inRange_char, Bool.or_eq_true, beq_iff_eq,
    beq_iff_eq]

-- ---------------------------------------------------------------------------
-- Parts
-- ---------------------------------------------------------------------------

section Parts

variable {text : Array Char} {P Q : Meaning} {L M : List Char → Prop}

/-- A literal character in front of a language. -/
theorem Spells.cons (c : Char) (hP : Spells text P L) :
    Spells text (((Regex.char c).meaning text).seq P) fun v => ∃ y, v = c :: y ∧ L y := by
  refine ((spells_char c).seq hP).congr fun v => ?_
  constructor
  · rintro ⟨x, y, rfl, rfl, hy⟩
    exact ⟨y, rfl, hy⟩
  · rintro ⟨y, rfl, hy⟩
    exact ⟨[c], y, rfl, rfl, hy⟩

/-- What may be left out spells the empty text as well. -/
theorem Spells.optional (hP : Spells text P L) :
    Spells text (P.repeats 0 (some 1)) fun v => v = [] ∨ L v := by
  refine (hP.repeats 0 (some 1)).congr fun v => ?_
  constructor
  · rintro ⟨xs, rfl, hxs, -, hLen⟩
    have hLen : xs.length ≤ 1 := hLen 1 rfl
    match xs, hLen with
    | [], _ => exact .inl rfl
    | [x], _ =>
      rw [List.flatten_singleton]
      exact .inr (hxs x List.mem_cons_self)
  · rintro (rfl | hv)
    · exact ⟨[], rfl, by simp, Nat.zero_le _, by simp⟩
    · refine ⟨[v], (List.flatten_singleton).symm, ?_, Nat.zero_le _, by simp⟩
      intro x hx
      rwa [List.mem_singleton.mp hx]

/-- Items with a separator between them are the first item and then pairs of separator and item. -/
theorem intercalate_cons (c : Char) (x : List Char) (xs : List (List Char)) :
    [c].intercalate (x :: xs) = x ++ (xs.map (c :: ·)).flatten := by
  induction xs generalizing x with
  | nil => simp
  | cons y ys ih =>
    rw [List.map_cons, List.flatten_cons, List.cons_append, ← ih]
    simp

/-- Rounds that all begin with a separator are the items behind it. -/
theorem exists_map_cons {c : Char} {xs : List (List Char)}
    (h : ∀ x ∈ xs, ∃ y, x = c :: y ∧ L y) :
    ∃ items : List (List Char), xs = items.map (c :: ·) ∧ ∀ item ∈ items, L item := by
  induction xs with
  | nil => exact ⟨[], rfl, by simp⟩
  | cons x xs ih =>
    -- the separator is taken off each round in turn
    obtain ⟨⟨item, rfl, hItem⟩, hxs⟩ := List.forall_mem_cons.mp h
    obtain ⟨items, rfl, hItems⟩ := ih hxs
    exact ⟨item :: items, rfl, List.forall_mem_cons.mpr ⟨hItem, hItems⟩⟩

/-- Texts of a language with a separator between them. -/
theorem Spells.separated (hP : Spells text P L) (c : Char) (n : Nat) :
    Spells text (P.seq ((((Regex.char c).meaning text).seq P).repeats n none)) fun v =>
      ∃ items, v = [c].intercalate items ∧ n + 1 ≤ items.length ∧ ∀ item ∈ items, L item := by
  refine (hP.seq ((hP.cons c).repeats n none)).congr fun v => ?_
  constructor
  · rintro ⟨first, -, rfl, hFirst, xs, rfl, hxs, hLen, -⟩
    obtain ⟨items, rfl, hItems⟩ := exists_map_cons hxs
    rw [List.length_map] at hLen
    exact ⟨first :: items, (intercalate_cons c first items).symm, Nat.succ_le_succ hLen,
      List.forall_mem_cons.mpr ⟨hFirst, hItems⟩⟩
  · rintro ⟨items, rfl, hLen, hItems⟩
    obtain ⟨first, items, rfl⟩ := List.exists_cons_of_length_pos (Nat.lt_of_lt_of_le n.succ_pos hLen)
    obtain ⟨hFirst, hItems⟩ := List.forall_mem_cons.mp hItems
    refine ⟨first, _, intercalate_cons c first items, hFirst, _, rfl, ?_, ?_, by simp⟩
    · intro x hx
      obtain ⟨item, hItem, rfl⟩ := List.mem_map.mp hx
      exact ⟨item, rfl, hItems item hItem⟩
    · rw [List.length_map]
      exact Nat.le_of_succ_le_succ hLen

/-- A class that is repeated at least once. -/
theorem spells_run {s : CharSet} {p : Char → Bool} (h : s.contains = p) (ascii greedy : Bool) :
    Spells text ((Regex.rep (.chars s ascii) 1 none greedy).meaning text) (Run p) := by
  subst h
  refine (spells_many _ 1 none).congr fun v => ?_
  rw [Run, and_comm]
  refine and_congr ?_ Iff.rfl
  rw [← List.length_pos_iff]
  exact ⟨fun h => h.1, fun h => ⟨h, by simp⟩⟩

/-- A class that is repeated any number of times. -/
theorem spells_any {s : CharSet} {p : Char → Bool} (h : s.contains = p) (ascii greedy : Bool) :
    Spells text ((Regex.rep (.chars s ascii) 0 none greedy).meaning text)
      fun v => ∀ c ∈ v, p c = true := by
  subst h
  exact (spells_many _ 0 none).congr fun v =>
    ⟨fun h => h.1, fun h => ⟨h, Nat.zero_le _, by simp⟩⟩

theorem spells_digits (n : Nat) : Spells text ((digits n).meaning text) (Digits n) := by
  refine (spells_many _ n (some n)).congr fun v => ?_
  rw [Digits, contains_digits, and_comm]
  refine and_congr ?_ Iff.rfl
  constructor
  · rintro ⟨hle, hMax⟩
    have hMax := hMax n rfl
    omega
  · rintro rfl
    exact ⟨Nat.le_refl _, by simp⟩

/-- Three numbers with a separator between them, and what comes after them. -/
theorem spells_numbers (a b c : Nat) (sep : Char) (hP : Spells text P L) :
    Spells text
      (((digits a).meaning text).seq (((Regex.char sep).meaning text).seq
        (((digits b).meaning text).seq (((Regex.char sep).meaning text).seq
          (((digits c).meaning text).seq P)))))
      fun v => ∃ x y, v = x ++ y ∧ Numbers a b c sep x ∧ L y := by
  refine ((spells_digits a).seq (((spells_digits b).seq
    (((spells_digits c).seq hP).cons sep)).cons sep)).congr fun v => ?_
  constructor
  · rintro ⟨x, -, rfl, hx, -, rfl, y, -, rfl, hy, -, rfl, z, w, rfl, hz, hw⟩
    exact ⟨_, w, by simp, ⟨x, y, z, rfl, hx, hy, hz⟩, hw⟩
  · rintro ⟨-, w, rfl, ⟨x, y, z, rfl, hx, hy, hz⟩, hw⟩
    exact ⟨x, _, by simp, hx, _, rfl, y, _, rfl, hy, _, rfl, z, w, rfl, hz, hw⟩

end Parts

-- ---------------------------------------------------------------------------
-- Types
-- ---------------------------------------------------------------------------

section Types

variable {text : Array Char}

/-- What stands between two quotes has none itself. -/
theorem spells_quoted {quote : Char} (h : (CharSet.ofChar quote).Ordered) :
    Spells text (Regex.meaning text (.ofFactors [.char quote,
      .rep (.chars (CharSet.ofChar quote).complement false) 0 none true, .char quote]))
      (Quoted quote) := by
  have hInner : Spells text _ _ :=
    spells_any (contains_complement_ofChar quote h) false true
  refine ((hInner.seq (spells_char quote)).cons quote).congr fun v => ?_
  constructor
  · rintro ⟨-, rfl, inner, -, rfl, hAll, rfl⟩
    exact ⟨inner, rfl, fun hMem => by simpa using hAll quote hMem⟩
  · rintro ⟨inner, rfl, hInner⟩
    refine ⟨_, rfl, inner, _, rfl, fun c hc => ?_, rfl⟩
    rw [bne_iff_ne]
    rintro rfl
    exact hInner hc

theorem spells_float : Spells text (Builtin.float.regex.meaning text) Builtin.float.Shape := by
  have hSign : Spells text (Meaning.take text
      (CharSet.contains (.mk [(0x2B, 0x2B), (0x2D, 0x2D)]))) fun v => v = ['+'] ∨ v = ['-'] := by
    refine (spells_take _).congr fun v => ?_
    rw [show CharSet.contains (.mk [(0x2B, 0x2B), (0x2D, 0x2D)]) = _ from contains_pair '+' '-']
    simp only [Bool.or_eq_true, beq_iff_eq, or_and_right, exists_or, exists_eq_left]
  have hWhole : Spells text _ _ := spells_any contains_digits false true
  have hFraction : Spells text _ _ := spells_run contains_digits false true
  refine (hSign.optional.seq (hWhole.seq (hFraction.cons '.'))).congr fun v => ?_
  constructor
  · rintro ⟨sign, -, rfl, hSign, whole, -, rfl, hWhole, fraction, rfl, hFraction⟩
    exact ⟨sign, whole, fraction, (List.append_assoc _ _ _).symm, hSign, hWhole, hFraction⟩
  · rintro ⟨sign, whole, fraction, rfl, hSign, hWhole, hFraction⟩
    exact ⟨sign, _, List.append_assoc _ _ _, hSign, whole, _, rfl, hWhole, fraction, rfl,
      hFraction⟩

theorem spells_email : Spells text (Builtin.email.regex.meaning text) Builtin.email.Shape := by
  have hUser : Spells text _ _ := spells_run (contains_alphanum_or '.') false true
  have hLabel : Spells text _ _ := spells_run (contains_alphanum_or '-') false true
  refine (hUser.seq ((hLabel.separated '.' 1).cons '@')).congr fun v => ?_
  -- the texts of the three parts are the same; only the names for them are put in order
  constructor
  · rintro ⟨user, -, rfl, hUser, -, rfl, labels, rfl, hLen, hLabels⟩
    exact ⟨user, labels, rfl, hUser, hLen, hLabels⟩
  · rintro ⟨user, labels, rfl, hUser, hLen, hLabels⟩
    exact ⟨user, _, rfl, hUser, _, rfl, labels, rfl, hLen, hLabels⟩

theorem spells_list : Spells text (Builtin.list.regex.meaning text) Builtin.list.Shape := by
  have hItem : Spells text _ _ :=
    spells_run (contains_complement_ofChar ',' (by decide)) false true
  exact hItem.separated ',' 0

theorem spells_date : Spells text (Builtin.date.regex.meaning text) Builtin.date.Shape := by
  have hZone : Spells text _ _ := (spells_char 'Z').optional
  have hZoned := ((spells_numbers 2 2 2 ':' hZone).cons 'T').optional
  have hNothing : Spells text _ _ := spells_skip
  have hClock := ((spells_numbers 2 2 2 ':' hNothing).cons ' ').optional
  rw [Meaning.seq_skip] at hClock
  refine ((spells_numbers 4 2 2 '-' hZoned).or (spells_numbers 2 2 4 '/' hClock)).congr fun v => ?_
  constructor
  · rintro (⟨day, clock, rfl, hDay, hClock⟩ | ⟨day, clock, rfl, hDay, hClock⟩)
    · refine ⟨day, clock, rfl, .inl ⟨hDay, hClock.imp_right ?_⟩⟩
      rintro ⟨-, rfl, time, zone, rfl, hTime, hZone⟩
      exact ⟨time, zone, rfl, hTime, hZone⟩
    · refine ⟨day, clock, rfl, .inr ⟨hDay, hClock.imp_right ?_⟩⟩
      rintro ⟨-, rfl, time, -, rfl, hTime, rfl⟩
      exact ⟨time, by rw [List.append_nil], hTime⟩
  · rintro ⟨day, clock, rfl, ⟨hDay, hClock⟩ | ⟨hDay, hClock⟩⟩
    · refine .inl ⟨day, clock, rfl, hDay, hClock.imp_right ?_⟩
      rintro ⟨time, zone, rfl, hTime, hZone⟩
      exact ⟨_, rfl, time, zone, rfl, hTime, hZone⟩
    · refine .inr ⟨day, clock, rfl, hDay, hClock.imp_right ?_⟩
      rintro ⟨time, rfl, hTime⟩
      exact ⟨time, rfl, time, [], (List.append_nil _).symm, hTime, rfl⟩

/-- All types but one look at nothing but the text itself. -/
theorem spells_shape {b : Builtin} (h : b ≠ .boolean) :
    Spells text (b.regex.meaning text) b.Shape := by
  cases b with
  | string => exact (spells_quoted (by decide)).or (spells_quoted (by decide))
  | number => exact spells_run contains_digits false true
  | float => exact spells_float
  | boolean => exact absurd rfl h
  | word => exact spells_run contains_complement_whiteSpace false true
  | char =>
    refine (spells_take _).congr fun v => ?_
    rw [contains_complement_ofChar '\n' (by decide)]
    simp only [bne_iff_ne, Builtin.Shape, and_comm]
  | email => exact spells_email
  | list => exact spells_list
  | date => exact spells_date

-- ---------------------------------------------------------------------------
-- Truth values
-- ---------------------------------------------------------------------------

/-- On a side of a place stands no word if there is no character or none of a word. -/
theorem wordOn_eq_false_iff {side : Option Char} :
    wordOn true side = false ↔ ∀ c, side = some c → Unicode.isWordCharacter c = false := by
  cases side with
  | none => simp [wordOn]
  | some c => simp [wordOn]

/-- Before a word character a word begins where no word character comes before. -/
theorem boundary_before {i : Nat} {c : Char} (hc : text[i]? = some c)
    (hWord : Unicode.isWordCharacter c = true) :
    (Look.word .boundary true).holds (charBefore text i) text[i]? = true ↔
      ∀ d, (text.toList.take i).getLast? = some d → Unicode.isWordCharacter d = false := by
  have hlt : i < text.size := (Array.getElem?_eq_some_iff.mp hc).1
  have hBefore : charBefore text i = (text.toList.take i).getLast? := by
    rw [charBefore, List.getLast?_take]
    by_cases hi : i = 0
    · rw [if_pos hi, if_pos hi]
    · have hPrev : i - 1 < text.toList.length := by
        rw [Array.length_toList]
        omega
      rw [if_neg hi, if_neg hi, ← Array.getElem?_toList, List.getElem?_eq_getElem hPrev,
        Option.some_or]
  have hAfter : wordOn true text[i]? = true := by
    rw [hc]
    exact hWord
  rw [← wordOn_eq_false_iff, ← hBefore, Look.holds, WordEdge.holds, hAfter, Bool.bne_true,
    Bool.not_eq_true']

/-- After a word character a word ends where no word character comes after. -/
theorem boundary_after {k : Nat} {c : Char} (hc : text[k]? = some c)
    (hWord : Unicode.isWordCharacter c = true) :
    (Look.word .boundary true).holds (charBefore text (k + 1)) text[k + 1]? = true ↔
      ∀ d, (text.toList.drop (k + 1)).head? = some d → Unicode.isWordCharacter d = false := by
  have hBefore : wordOn true (charBefore text (k + 1)) = true := by
    show wordOn true text[k]? = true
    rw [hc]
    exact hWord
  have hAfter : text[k + 1]? = (text.toList.drop (k + 1)).head? := by
    rw [List.head?_drop, Array.getElem?_toList]
  rw [← wordOn_eq_false_iff, ← hAfter, Look.holds, WordEdge.holds, hBefore, Bool.true_bne,
    Bool.not_eq_true']

/-- The boundaries around a stretch that begins and ends with a word character hold where no
word character stands next to it. -/
theorem boundaries_iff (first last : Char) {i j : Nat} {v middle : List Char}
    (hv : Stands text i j v) (hFirst : v = first :: middle) (hLast : v.getLast? = some last)
    (hWord : Unicode.isWordCharacter first = true ∧ Unicode.isWordCharacter last = true) :
    (Look.word .boundary true).holds (charBefore text i) text[i]? = true ∧
        (Look.word .boundary true).holds (charBefore text j) text[j]? = true ↔
      FreeOfWords (text.toList.take i) (text.toList.drop j) := by
  have hOpen : text[i]? = some first := by
    rw [hFirst, ← List.singleton_append] at hv
    obtain ⟨k, hk, -⟩ := stands_append.mp hv
    exact (stands_singleton.mp hk).1
  obtain ⟨before, rfl⟩ := List.getLast?_eq_some_iff.mp hLast
  obtain ⟨k, -, hk⟩ := stands_append.mp hv
  obtain ⟨hClose, rfl⟩ := stands_singleton.mp hk
  rw [boundary_before hOpen hWord.1, boundary_after hClose hWord.2, FreeOfWords]

/-- The pattern of truth values takes one of the two words where no other word touches it. -/
theorem meaning_boolean {i j : Nat} {w : Slots} :
    Builtin.boolean.regex.meaning text i j w ↔
      w = [] ∧ ∃ v, Stands text i j v ∧ Builtin.boolean.Shape v ∧
        FreeOfWords (text.toList.take i) (text.toList.drop j) := by
  have hWords : Spells text (((Regex.ofFactors ("true".toList.map .char)).meaning text).or
      ((Regex.ofFactors ("false".toList.map .char)).meaning text)) Builtin.boolean.Shape := by
    rw [Regex.meaning_ofFactors, Regex.meaning_ofFactors]
    exact (spells_literal _).or (spells_literal _)
  -- both words begin and end with a letter, so each boundary looks at the other side
  have hBoundaries {v : List Char} (hv : Stands text i j v) (hShape : Builtin.boolean.Shape v) :
      (Look.word .boundary true).holds (charBefore text i) text[i]? = true ∧
          (Look.word .boundary true).holds (charBefore text j) text[j]? = true ↔
        FreeOfWords (text.toList.take i) (text.toList.drop j) := by
    rcases hShape with rfl | rfl
    · exact boundaries_iff 't' 'e' hv rfl rfl (by decide)
    · exact boundaries_iff 'f' 'e' hv rfl rfl (by decide)
  show Meaning.seq (.check _) (Meaning.seq _ (.check _)) i j w ↔ _
  rw [Meaning.check_seq_check_iff]
  constructor
  · rintro ⟨hBefore, hMeaning, hAfter⟩
    obtain ⟨rfl, v, hv, hShape⟩ := (hWords i j w).mp hMeaning
    exact ⟨rfl, v, hv, hShape, (hBoundaries hv hShape).mp ⟨hBefore, hAfter⟩⟩
  · rintro ⟨rfl, v, hv, hShape, hFree⟩
    obtain ⟨hBefore, hAfter⟩ := (hBoundaries hv hShape).mpr hFree
    exact ⟨hBefore, (hWords i j []).mpr ⟨rfl, v, hv, hShape⟩, hAfter⟩

/-- The expression of a built-in type matches just the texts that the type admits. -/
theorem meaning_builtin (b : Builtin) {i j : Nat} {w : Slots} :
    b.regex.meaning text i j w ↔
      w = [] ∧ ∃ v, Stands text i j v ∧
        b.Admits (text.toList.take i) v (text.toList.drop j) := by
  by_cases h : b = .boolean
  · subst h
    rw [meaning_boolean]
    simp only [Builtin.Admits, forall_const]
  · rw [spells_shape h i j w]
    simp only [Builtin.Admits, h, false_implies, and_true]

end Types

end TypedSteps
