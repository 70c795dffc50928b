import TypedSteps.Regex.Pattern
import TypedSteps.Proofs.Regex.Alternatives
import TypedSteps.Proofs.Regex.Spelling

/-!
# Reading patterns in parts

What a stretch of a pattern adds to what was read before it, wherever it stands. Literal
text adds its characters, a pattern of plain words adds their alternatives, and a pattern
in the middle of a group adds what it says on its own.

* `run_escapeCharacters`, `run_ordinaries` — literal text is read as literal characters, if it is
  escaped or holds no operators;
* `bodyLevel`, `Embeds` — patterns that are read in a group as on their own;
* `run_named` — a pattern in a named group;
* `PlainPattern.embeds`, `spells_words` — patterns of plain words, and what they spell.

Only the flags in force at the start of a pattern are considered.
-/

namespace TypedSteps

/-- What has been read of a pattern outside classes, under the flags it starts with. -/
def Reading.outside (level : Level) (frames : List Frame) (names : List (Option String)) :
    Reading :=
  ⟨level, frames, [], {}, names⟩

namespace Reading

variable {level : Level} {frames : List Frame} {names : List (Option String)}

/-- Outside classes a pattern that is not spaced is read by `stepOutside`. -/
theorem run_of_stepOutside {c : Char} {cs : List Char} {next : Reading} {skip : Nat}
    (h : (outside level frames names).stepOutside c cs = .ok (next, skip)) :
    (outside level frames names).run 0 (c :: cs) = next.run skip cs := by
  have hStep : (outside level frames names).step c cs = .ok (next, skip) := h
  rw [run, hStep]

-- ---------------------------------------------------------------------------
-- Literal text
-- ---------------------------------------------------------------------------

/-- The characters at which something other than the character itself is read. -/
def operators : List Char :=
  ['(', ')', '|', '[', '?', '*', '+', '{', '\\', '.', '^', '$']

/-- A character that is no operator is read as itself. -/
theorem run_ordinary {c : Char} (h : c ∉ operators) (cs : List Char) :
    (outside level frames names).run 0 (c :: cs) =
      (outside (level.push (.char c) 0) frames names).run 0 cs := by
  have hStep : (outside level frames names).stepOutside c cs =
      .ok (outside (level.push (.char c) 0) frames names, 0) := by
    unfold stepOutside
    split
    case h_13 => rfl
    all_goals exact absurd (by decide) h
  exact run_of_stepOutside hStep

/-- A character without a meaning of its own is read as itself. -/
theorem run_plain {c : Char} (h : isMetaCharacter c = false) (cs : List Char) :
    (outside level frames names).run 0 (c :: cs) =
      (outside (level.push (.char c) 0) frames names).run 0 cs := by
  refine run_ordinary (fun hc => ?_) cs
  have hMeta : ∀ d ∈ operators, isMetaCharacter d = true := List.all_eq_true.mp (by decide)
  rw [hMeta c hc] at h
  cases h

/-- A sign that may be escaped stands for itself behind a backslash. -/
theorem readEscape_of_isEscapable {c : Char} (h : isEscapable c = true) (f : Flags)
    (cs : List Char) : readEscape f (c :: cs) = .ok (.literal c, 1) := by
  unfold readEscape
  simp only [h, if_true]

/-- A backslash makes a character with a meaning of its own stand for itself. -/
theorem run_escaped {c : Char} (h : isMetaCharacter c = true) (cs : List Char) :
    (outside level frames names).run 0 ('\\' :: c :: cs) =
      (outside (level.push (.char c) 0) frames names).run 0 cs := by
  have hEscapable : isEscapable c = true := by
    have hAll : ∀ d ∈ metaCharacters, isEscapable d = true := List.all_eq_true.mp (by decide)
    exact hAll c (List.contains_iff_mem.mp h)
  have hStep : (outside level frames names).stepOutside '\\' (c :: cs) =
      .ok (outside (level.push (.char c) 0) frames names, 1) := by
    have hEscape : readEscape (outside level frames names).flags (c :: cs) = .ok (.literal c, 1) :=
      readEscape_of_isEscapable hEscapable _ cs
    simp only [stepOutside, hEscape]
    rfl
  exact run_of_stepOutside hStep

end Reading

/-- The level after some literal characters. -/
def Level.pushLiterals (level : Level) (cs : List Char) : Level :=
  cs.foldl (fun l c => l.push (.char c) 0) level

/-- Escaped text is read as the characters it stands for. -/
theorem run_escapeCharacters (level : Level) (frames : List Frame)
    (names : List (Option String)) (cs rest : List Char) :
    (Reading.outside level frames names).run 0 (escapeCharacters cs ++ rest) =
      (Reading.outside (level.pushLiterals cs) frames names).run 0 rest := by
  induction cs generalizing level with
  | nil => rfl
  | cons c cs ih =>
    rw [escapeCharacters]
    by_cases hc : isMetaCharacter c = true
    · rw [if_pos hc, List.cons_append, List.cons_append, Reading.run_escaped hc, ih]
      rfl
    · rw [if_neg hc, List.cons_append, Reading.run_plain (Bool.eq_false_iff.mpr hc), ih]
      rfl

/-- Text without operators is read as the characters it consists of. -/
theorem run_ordinaries {cs : List Char} (h : ∀ c ∈ cs, c ∉ Reading.operators) (level : Level)
    (frames : List Frame) (names : List (Option String)) (rest : List Char) :
    (Reading.outside level frames names).run 0 (cs ++ rest) =
      (Reading.outside (level.pushLiterals cs) frames names).run 0 rest := by
  induction cs generalizing level with
  | nil => rfl
  | cons c cs ih =>
    obtain ⟨hc, hcs⟩ := List.forall_mem_cons.mp h
    rw [List.cons_append, Reading.run_ordinary hc, ih hcs]
    rfl

-- ---------------------------------------------------------------------------
-- Groups
-- ---------------------------------------------------------------------------

/-- The level at which a pattern ends when it is read on its own. -/
def bodyLevel (pattern : String) : Level :=
  match Reading.start.run 0 pattern.toList with
  | .ok st => st.level
  | .error _ => .empty

/-- The level of a pattern is the one that reading it ends at. -/
theorem bodyLevel_of_run {pattern : String} {level : Level}
    (h : (Reading.outside .empty [] []).run 0 pattern.toList = .ok (.outside level [] [])) :
    bodyLevel pattern = level := by
  have hStart : Reading.start.run 0 pattern.toList = .ok (.outside level [] []) := h
  rw [bodyLevel, hStart]
  rfl

/-- A pattern that is read in a group as it is read on its own, and nests little. -/
structure Embeds (pattern : String) : Prop where
  run : ∀ frames names rest,
    (Reading.outside .empty frames names).run 0 (pattern.toList ++ ')' :: rest) =
      (Reading.outside (bodyLevel pattern) frames names).run 0 (')' :: rest)
  depth : (bodyLevel pattern).close.depth ≤ 100

/-- The level after a pattern in a named group, the group having an index. -/
def Level.pushNamed (level : Level) (index : Nat) (pattern : String) : Level :=
  level.push (.group index (.concat [(bodyLevel pattern).close.regex]))
    ((bodyLevel pattern).close.depth + 2)

/-- What stands before the first place of a character. -/
theorem takeWhile_name {stop : Char} {name rest : List Char} (h : stop ∉ name) :
    (name ++ stop :: rest).takeWhile (· != stop) = name := by
  rw [List.takeWhile_append_of_pos]
  · simp
  · intro c hc
    rw [bne_iff_ne]
    rintro rfl
    exact h hc

/-- How a named group opens is read up to the closing angle bracket. -/
theorem readOpening_named {name : String} (hName : isGroupName name.toList = true)
    (hClose : '>' ∉ name.toList) (rest : List Char) :
    readOpening {} ('?' :: 'P' :: '<' :: (name.toList ++ '>' :: rest)) =
      .ok (.capture (some name), name.toList.length + 4) := by
  have hDrop : ((name.toList ++ '>' :: rest).drop name.toList.length).isEmpty = false := by
    rw [List.drop_left]
    rfl
  show readGroupName (name.toList ++ '>' :: rest) 3 = _
  rw [readGroupName, takeWhile_name hClose]
  simp only [hDrop, hName, Bool.not_true, Bool.or_false, Bool.false_eq_true, if_false,
    String.ofList_toList]
  rw [Nat.add_comm 3, Nat.add_assoc]

/-- A named group is opened if its name is new. -/
theorem run_openNamed {name : String} (hName : isGroupName name.toList = true)
    (hClose : '>' ∉ name.toList) (level : Level) (frames : List Frame)
    {names : List (Option String)} (hFresh : some name ∉ names) (rest : List Char) :
    (Reading.outside level frames names).run 0
        ('(' :: '?' :: 'P' :: '<' :: (name.toList ++ '>' :: rest)) =
      (Reading.outside .empty (⟨level, some (names.length + 1), {}⟩ :: frames)
        (some name :: names)).run 0 rest := by
  have hFresh : names.contains (some name) = false := by
    rw [Bool.eq_false_iff]
    exact fun h => hFresh (List.contains_iff_mem.mp h)
  -- the name is new, so that the group is not refused
  have hOpen : (Reading.outside level frames names).openGroup (.capture (some name)) =
      .ok (Reading.outside .empty (⟨level, some (names.length + 1), {}⟩ :: frames)
        (some name :: names)) := by
    simp only [Reading.openGroup, Reading.outside, hFresh, Option.isSome_some, Bool.and_false,
      Bool.false_eq_true, if_false]
  have hStep : (Reading.outside level frames names).stepOutside '('
      ('?' :: 'P' :: '<' :: (name.toList ++ '>' :: rest)) =
        .ok (Reading.outside .empty (⟨level, some (names.length + 1), {}⟩ :: frames)
          (some name :: names), name.toList.length + 4) := by
    have hOpening : readOpening (Reading.outside level frames names).flags
        ('?' :: 'P' :: '<' :: (name.toList ++ '>' :: rest)) =
          .ok (.capture (some name), name.toList.length + 4) := readOpening_named hName hClose rest
    simp only [Reading.stepOutside, hOpening, hOpen]
    rfl
  rw [Reading.run_of_stepOutside hStep]
  -- the name and the signs around it are taken with the parenthesis
  have hSkip := Reading.run_skip (Reading.outside .empty
    (⟨level, some (names.length + 1), {}⟩ :: frames) (some name :: names))
    ('?' :: 'P' :: '<' :: (name.toList ++ ['>'])) rest
  simpa using hSkip

/-- The characters of a pattern in a group with a name. -/
theorem toList_namedGroup (group pattern : String) (rest : List Char) :
    ("(?P<" ++ group ++ ">(?:" ++ pattern ++ "))").toList ++ rest =
      '(' :: '?' :: 'P' :: '<' :: (group.toList ++ '>' :: '(' :: '?' :: ':' ::
        (pattern.toList ++ ')' :: ')' :: rest)) := by
  simp only [String.toList_append, List.append_assoc]
  rfl

/-- The pattern of an occurrence is read inside two groups, the outer one with its name. -/
theorem run_openFragment {group : String} (hGroup : isGroupName group.toList = true)
    (hClose : '>' ∉ group.toList) (level : Level) (frames : List Frame)
    {names : List (Option String)} (hFresh : some group ∉ names) (pattern : String)
    (rest : List Char) :
    (Reading.outside level frames names).run 0
        (("(?P<" ++ group ++ ">(?:" ++ pattern ++ "))").toList ++ rest) =
      (Reading.outside .empty
        (⟨.empty, none, {}⟩ :: ⟨level, some (names.length + 1), {}⟩ :: frames)
        (some group :: names)).run 0 (pattern.toList ++ ')' :: ')' :: rest) := by
  rw [toList_namedGroup, run_openNamed hGroup hClose level frames hFresh]
  rfl

/-- A pattern in a named group is read as a group around what it says on its own. -/
theorem run_named {pattern : String} (hPattern : Embeds pattern) {group : String}
    (hGroup : isGroupName group.toList = true) (hClose : '>' ∉ group.toList)
    (level : Level) (frames : List Frame) {names : List (Option String)}
    (hFresh : some group ∉ names) (rest : List Char) :
    (Reading.outside level frames names).run 0
        (("(?P<" ++ group ++ ">(?:" ++ pattern ++ "))").toList ++ rest) =
      (Reading.outside (level.pushNamed (names.length + 1) pattern) frames
        (some group :: names)).run 0 rest := by
  rw [run_openFragment hGroup hClose level frames hFresh, hPattern.run]
  rfl

-- ---------------------------------------------------------------------------
-- Levels
-- ---------------------------------------------------------------------------

/-- No range of a class in what was read is upside down. -/
def Level.Proper (level : Level) : Prop :=
  (∀ b ∈ level.branches, b.regex.Proper) ∧ ∀ item ∈ level.items, item.regex.Proper

/-- The sequence of a level has the ranges of its parts. -/
theorem Level.Proper.sequence {level : Level} (h : level.Proper) :
    level.sequence.regex.Proper := by
  refine Regex.proper_concat fun r hr => ?_
  obtain ⟨item, hItem, rfl⟩ := List.mem_map.mp hr
  exact h.2 item (List.mem_reverse.mp hItem)

/-- A bar adds no range. -/
theorem Level.Proper.nextBranch {level : Level} (h : level.Proper) :
    level.nextBranch.Proper := by
  refine ⟨List.forall_mem_cons.mpr ⟨h.sequence, h.1⟩, ?_⟩
  intro item hItem
  cases hItem

/-- A literal character adds no range that is upside down. -/
theorem Level.Proper.pushChar {level : Level} (h : level.Proper) (c : Char) :
    (level.push (.char c) 0).Proper :=
  ⟨h.1, List.forall_mem_cons.mpr ⟨Regex.proper_char c, h.2⟩⟩

theorem meaning_sequence (text : Array Char) (level : Level) :
    level.sequence.regex.meaning text =
      Regex.meaningAll text (level.items.reverse.map (·.regex)) :=
  Regex.meaning_concat text _

/-- What was read means one of its alternatives, the last of which is the sequence being
read. -/
theorem meaning_close {text : Array Char} {level : Level} (h : level.Proper) {i j : Nat}
    {w : Slots} :
    level.close.regex.meaning text i j w ↔
      (∃ b ∈ level.branches, b.regex.meaning text i j w) ∨
        Regex.meaningAll text (level.items.reverse.map (·.regex)) i j w := by
  have hSequence := meaning_sequence text level
  obtain ⟨branches, items⟩ := level
  -- a single branch is closed as a sequence, several ones as a choice between them
  cases branches with
  | nil =>
    show Regex.meaning text (Level.sequence ⟨[], items⟩).regex i j w ↔ _
    rw [hSequence]
    simp
  | cons b bs =>
    have hAll : ∀ r ∈ ((Level.sequence ⟨b :: bs, items⟩ :: b :: bs).reverse.map (·.regex)),
        r.Proper := by
      intro r hr
      obtain ⟨branch, hBranch, rfl⟩ := List.mem_map.mp hr
      rcases List.mem_cons.mp (List.mem_reverse.mp hBranch) with rfl | hBranch
      · exact h.sequence
      · exact h.1 branch hBranch
    show Regex.meaning text (.alternate _) i j w ↔ _
    rw [Regex.meaning_alternate hAll, ← hSequence]
    constructor
    · rintro ⟨r, hr, hMeaning⟩
      obtain ⟨branch, hBranch, rfl⟩ := List.mem_map.mp hr
      rcases List.mem_cons.mp (List.mem_reverse.mp hBranch) with rfl | hBranch
      · exact .inr hMeaning
      · exact .inl ⟨branch, hBranch, hMeaning⟩
    · rintro (⟨branch, hBranch, hMeaning⟩ | hMeaning)
      · exact ⟨_, List.mem_map_of_mem (List.mem_reverse.mpr (List.mem_cons_of_mem _ hBranch)),
          hMeaning⟩
      · exact ⟨_, List.mem_map_of_mem (List.mem_reverse.mpr List.mem_cons_self), hMeaning⟩

theorem foldl_max_le {ds : List Nat} {first bound : Nat} (hFirst : first ≤ bound)
    (h : ∀ d ∈ ds, d ≤ bound) : ds.foldl max first ≤ bound := by
  induction ds generalizing first with
  | nil => exact hFirst
  | cons d ds ih =>
    obtain ⟨hd, hds⟩ := List.forall_mem_cons.mp h
    exact ih (Nat.max_le.mpr ⟨hFirst, hd⟩) hds

/-- To put several parts together adds one to the depth at most. -/
theorem deepenIfMany_le {count depth bound : Nat} (h : depth ≤ bound) :
    deepenIfMany count depth ≤ bound + 1 := by
  rw [deepenIfMany]
  split <;> omega

/-- A sequence nests one deeper than its parts at most. -/
theorem depth_sequence_le {level : Level} {bound : Nat}
    (h : ∀ item ∈ level.items, item.depth ≤ bound) : level.sequence.depth ≤ bound + 1 := by
  refine deepenIfMany_le (foldl_max_le (Nat.zero_le _) fun d hd => ?_)
  obtain ⟨item, hItem, rfl⟩ := List.mem_map.mp hd
  exact h item hItem

/-- Alternatives nest one deeper than their sequences, and these one deeper than their
parts. -/
theorem depth_close_le {level : Level} {bound : Nat}
    (hItems : ∀ item ∈ level.items, item.depth ≤ bound)
    (hBranches : ∀ b ∈ level.branches, b.depth ≤ bound + 1) : level.close.depth ≤ bound + 2 := by
  refine deepenIfMany_le (foldl_max_le (Nat.zero_le _) fun d hd => ?_)
  obtain ⟨b, hb, rfl⟩ := List.mem_map.mp hd
  rcases List.mem_cons.mp hb with rfl | hb
  · exact depth_sequence_le hItems
  · exact hBranches b hb

-- ---------------------------------------------------------------------------
-- Words
-- ---------------------------------------------------------------------------

/-- A pattern of plain words: alternatives that are not empty and hold no character with
a meaning of its own. -/
def PlainPattern (pattern : String) : Prop :=
  ∀ word ∈ Text.splitAt '|' pattern.toList, word ≠ [] ∧ ∀ c ∈ word, isMetaCharacter c = false

/-- What is checked is that the words are not empty and have no sign of the syntax. -/
theorem plainPattern_iff {pattern : String} :
    (Text.splitAt '|' pattern.toList).all
        (fun word => !word.isEmpty && word.all (fun c => !isMetaCharacter c)) = true ↔
      PlainPattern pattern := by
  simp only [PlainPattern, List.all_eq_true, Bool.and_eq_true, Bool.not_eq_true', ne_eq,
    List.isEmpty_eq_false_iff]

instance (pattern : String) : Decidable (PlainPattern pattern) :=
  decidable_of_iff _ plainPattern_iff

/-- The level after some words with bars between them. -/
def Level.pushWords (level : Level) (cs : List Char) : Level :=
  cs.foldl (fun l c => if c = '|' then l.nextBranch else l.push (.char c) 0) level

/-- A character that is no bar goes on with the word. -/
theorem pushWords_cons_of_ne {level : Level} {c : Char} (h : c ≠ '|') (cs : List Char) :
    level.pushWords (c :: cs) = (level.push (.char c) 0).pushWords cs := by
  rw [Level.pushWords, List.foldl_cons, if_neg h]
  rfl

/-- Words are read as they stand, the bars between them as alternatives. -/
theorem run_words (level : Level) (frames : List Frame) (names : List (Option String))
    {cs : List Char} (h : ∀ c ∈ cs, c = '|' ∨ isMetaCharacter c = false) (rest : List Char) :
    (Reading.outside level frames names).run 0 (cs ++ rest) =
      (Reading.outside (level.pushWords cs) frames names).run 0 rest := by
  induction cs generalizing level with
  | nil => rfl
  | cons c cs ih =>
    obtain ⟨hc, hcs⟩ := List.forall_mem_cons.mp h
    by_cases hBar : c = '|'
    · subst hBar
      exact ih level.nextBranch hcs
    · rw [List.cons_append, Reading.run_plain (hc.resolve_left hBar), ih _ hcs,
        pushWords_cons_of_ne hBar]

/-- Every character of a text stands in one of its pieces or between two of them. -/
theorem mem_splitAt (sep : Char) {c : Char} {cs : List Char} (hc : c ∈ cs) :
    c = sep ∨ ∃ word ∈ Text.splitAt sep cs, c ∈ word := by
  induction cs with
  | nil => cases hc
  | cons d ds ih =>
    rw [Text.splitAt]
    by_cases hd : d = sep
    · rw [if_pos hd]
      rcases List.mem_cons.mp hc with rfl | hc
      · exact .inl hd
      · rcases ih hc with hSep | ⟨word, hWord, hMem⟩
        · exact .inl hSep
        · exact .inr ⟨word, List.mem_cons_of_mem _ hWord, hMem⟩
    · rw [if_neg hd]
      cases hSplit : Text.splitAt sep ds with
      | nil => exact absurd hSplit (Text.splitAt_ne_nil sep ds)
      | cons first words =>
        rw [hSplit] at ih
        rcases List.mem_cons.mp hc with rfl | hc
        · exact .inr ⟨c :: first, List.mem_cons_self, List.mem_cons_self⟩
        · rcases ih hc with hSep | ⟨word, hWord, hMem⟩
          · exact .inl hSep
          · rcases List.mem_cons.mp hWord with rfl | hWord
            · exact .inr ⟨_, List.mem_cons_self, List.mem_cons_of_mem _ hMem⟩
            · exact .inr ⟨word, List.mem_cons_of_mem _ hWord, hMem⟩

/-- A plain pattern has no sign of the syntax but bars. -/
theorem PlainPattern.characters {pattern : String} (h : PlainPattern pattern) :
    ∀ c ∈ pattern.toList, c = '|' ∨ isMetaCharacter c = false := by
  intro c hc
  rcases mem_splitAt '|' hc with hBar | ⟨word, hWord, hc⟩
  · exact .inl hBar
  · exact .inr ((h word hWord).2 c hc)

/-- A plain pattern is read as its words. -/
theorem bodyLevel_of_plain {pattern : String} (h : PlainPattern pattern) :
    bodyLevel pattern = Level.empty.pushWords pattern.toList := by
  have hRun := run_words .empty [] [] h.characters []
  rw [List.append_nil, Reading.run_nil] at hRun
  exact bodyLevel_of_run hRun

/-- Plain words nest two deep at most: characters in a sequence, sequences in a choice. -/
theorem depth_pushWords {level : Level} (hItems : ∀ item ∈ level.items, item.depth ≤ 0)
    (hBranches : ∀ b ∈ level.branches, b.depth ≤ 1) (cs : List Char) :
    (level.pushWords cs).close.depth ≤ 2 := by
  induction cs generalizing level with
  | nil => exact depth_close_le hItems hBranches
  | cons c cs ih =>
    by_cases hBar : c = '|'
    · subst hBar
      show (level.nextBranch.pushWords cs).close.depth ≤ 2
      refine ih ?_ ?_
      · intro item hItem
        cases hItem
      · exact List.forall_mem_cons.mpr ⟨depth_sequence_le hItems, hBranches⟩
    · rw [pushWords_cons_of_ne hBar]
      exact ih (List.forall_mem_cons.mpr ⟨Nat.le_refl _, hItems⟩) hBranches

/-- A pattern of plain words is read in a group as on its own. -/
theorem PlainPattern.embeds {pattern : String} (h : PlainPattern pattern) : Embeds pattern where
  run frames names rest := by
    rw [run_words .empty frames names h.characters, bodyLevel_of_plain h]
  depth := by
    have hDepth : (Level.empty.pushWords pattern.toList).close.depth ≤ 2 := by
      refine depth_pushWords ?_ ?_ _
      · intro item hItem
        cases hItem
      · intro b hb
        cases hb
    rw [bodyLevel_of_plain h]
    omega

/-- Words after a level go on with its last sequence and then stand beside it. -/
theorem meaning_pushWords {text : Array Char} {level : Level} (h : level.Proper)
    {cs first : List Char} {words : List (List Char)}
    (hSplit : Text.splitAt '|' cs = first :: words) {i j : Nat} {w : Slots} :
    (level.pushWords cs).close.regex.meaning text i j w ↔
      (∃ b ∈ level.branches, b.regex.meaning text i j w) ∨
        Regex.meaningAll text (level.items.reverse.map (·.regex) ++ first.map Regex.char) i j w ∨
          ∃ word ∈ words, Regex.meaningAll text (word.map Regex.char) i j w := by
  induction cs generalizing level first words with
  | nil =>
    obtain ⟨rfl, rfl⟩ : [] = first ∧ [] = words := List.cons.inj hSplit
    show level.close.regex.meaning text i j w ↔ _
    rw [meaning_close h]
    simp
  | cons c cs ih =>
    obtain ⟨second, words', hcs⟩ := List.exists_cons_of_ne_nil (Text.splitAt_ne_nil '|' cs)
    rw [Text.splitAt] at hSplit
    by_cases hBar : c = '|'
    · rw [if_pos hBar, hcs] at hSplit
      -- a bar ends the branch, and the next word begins with what follows
      obtain ⟨rfl, rfl⟩ : [] = first ∧ second :: words' = words := List.cons.inj hSplit
      subst hBar
      show (level.nextBranch.pushWords cs).close.regex.meaning text i j w ↔ _
      rw [ih h.nextBranch hcs]
      simp only [Level.nextBranch, List.mem_cons, exists_eq_or_imp, meaning_sequence,
        List.reverse_nil, List.map_nil, List.nil_append, List.append_nil]
      rw [or_assoc, or_left_comm]
    · rw [if_neg hBar, hcs] at hSplit
      obtain ⟨rfl, rfl⟩ : c :: second = first ∧ words' = words := List.cons.inj hSplit
      rw [pushWords_cons_of_ne hBar, ih (h.pushChar c) hcs]
      simp only [Level.push, List.reverse_cons, List.map_append, List.map_cons, List.map_nil,
        List.append_assoc, List.singleton_append]

/-- A pattern of plain words spells its words. -/
theorem spells_words (text : Array Char) {pattern : String} (h : PlainPattern pattern) :
    Spells text ((bodyLevel pattern).close.regex.meaning text)
      (· ∈ Text.splitAt '|' pattern.toList) := by
  obtain ⟨first, words, hSplit⟩ :=
    List.exists_cons_of_ne_nil (Text.splitAt_ne_nil '|' pattern.toList)
  have hEmpty : Level.empty.Proper := by
    refine ⟨?_, ?_⟩
    · intro b hb
      cases hb
    · intro item hItem
      cases hItem
  intro i j w
  rw [bodyLevel_of_plain h, meaning_pushWords hEmpty hSplit, hSplit]
  -- a word means that it stands there, so some word means that one of them does
  have hWords : (∃ word ∈ first :: words,
      Regex.meaningAll text (word.map Regex.char) i j w) ↔
        w = [] ∧ ∃ v, Stands text i j v ∧ v ∈ first :: words := by
    simp only [spells_literal _ i j w, exists_eq_right]
    constructor
    · rintro ⟨word, hWord, hw, hStands⟩
      exact ⟨hw, word, hStands, hWord⟩
    · rintro ⟨hw, word, hStands, hWord⟩
      exact ⟨word, hWord, hw, hStands⟩
  rw [← hWords]
  simp [Level.empty]

end TypedSteps
