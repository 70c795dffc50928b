import TypedSteps.Proofs.Regex.Context
import TypedSteps.Proofs.Template.Reading

/-!
# Occurrences of a pattern

At every occurrence of a type its pattern stands in a group of its own. What the pattern says
on its own is found there again, unless it ends in a comment, which takes the end of the group,
or names groups itself, whose names come twice.

* `ReadsAs`, `ofSource_eq_ok_iff` — what is read of a pattern on its own;
* `OpensComment`, `opensComment_iff` — patterns that end in a comment;
* `occurrenceRead_fragment` — one occurrence of a pattern;
* `readable_fragments_iff` — any number of occurrences.
-/

namespace TypedSteps

-- ---------------------------------------------------------------------------
-- Patterns on their own
-- ---------------------------------------------------------------------------

/-- What is read of a pattern on its own. Nothing in it is left open. -/
structure ReadsAs (pattern : String) (st : Reading) : Prop where
  run : Reading.start.run 0 pattern.toList = .ok st
  classes : st.classes = []
  frames : st.frames = []
  depth : st.level.close.depth ≤ nestLimit

/-- A pattern is accepted if it is read to its end with nothing left open, and does not nest too
deeply. -/
theorem ofSource_eq_ok_iff {pattern : String} {p : Pattern} :
    Pattern.ofSource pattern = .ok p ↔
      ∃ st, ReadsAs pattern st ∧
        p = ⟨st.level.close.regex, st.names.reverse, st.level.close.regex.program⟩ := by
  rw [Pattern.ofSource, Regex.read]
  constructor
  · intro h
    cases hRun : Reading.start.run 0 pattern.toList with
    | error e =>
      rw [hRun] at h
      cases h
    | ok st =>
      rw [hRun] at h
      dsimp only at h
      rw [Reading.finish] at h
      by_cases hClasses : st.classes = []
      · by_cases hFrames : st.frames = []
        · by_cases hDepth : nestLimit < st.level.close.depth
          · simp only [hClasses, hFrames, hDepth] at h
            cases h
          · simp only [hClasses, hFrames, hDepth] at h
            cases h
            exact ⟨st, ⟨hRun, hClasses, hFrames, Nat.le_of_not_lt hDepth⟩, rfl⟩
        · simp [hClasses, hFrames] at h
      · simp [hClasses] at h
  · rintro ⟨st, h, rfl⟩
    rw [h.run]
    dsimp only
    rw [Reading.finish, h.classes, h.frames, if_neg (Nat.not_lt.mpr h.depth)]
    rfl

/-- A pattern has no named groups where no names were read. -/
theorem namedGroups_eq_nil_iff {p : Pattern} :
    p.namedGroups = [] ↔ ∀ name, some name ∉ p.names := by
  rw [Pattern.namedGroups, List.filterMap_eq_nil_iff]
  constructor
  · intro h name hName
    obtain ⟨i, hi, hGet⟩ := List.getElem_of_mem hName
    have hMem : (some name, i + 1) ∈ p.names.zipIdx 1 := by
      rw [List.mem_zipIdx_iff_le_and_getElem?_sub]
      refine ⟨Nat.le_add_left 1 i, ?_⟩
      rw [Nat.add_sub_cancel, List.getElem?_eq_getElem hi, hGet]
    cases h _ hMem
  · rintro h ⟨name, index⟩ hMem
    cases name with
    | none => rfl
    | some name => exact absurd (List.fst_mem_of_mem_zipIdx hMem) (h name)

/-- A closing parenthesis closes a group, whatever the flags are. -/
theorem run_closeGroup {st : Reading} (h : st.classes = []) (rest : List Char) :
    st.run 0 (')' :: rest) = st.closeGroup.bind fun next => next.run 0 rest := by
  have hBlanks : st.flags.blanks (')' :: rest) = 0 := by
    rw [Flags.blanks]
    split <;> rfl
  have hStep : st.step ')' rest = st.closeGroup.map fun next => (next, 0) := by
    rw [Reading.step, hBlanks, h]
    rfl
  rw [Reading.run, hStep]
  cases st.closeGroup <;> rfl

/-- A pattern that ends in a comment. -/
def OpensComment (pattern : String) : Prop :=
  Reading.start.EndsInComment 0 pattern.toList

theorem within_start {base : List Frame} {older : List (Option String)} :
    Reading.Within base older .start (.outside .empty base older) :=
  ⟨.refl _, .base, rfl, rfl, rfl, fun _ hName => nomatch hName⟩

/-- A pattern ends in a comment just when a parenthesis behind it is ignored. -/
theorem opensComment_iff {pattern : String} {st : Reading} (h : ReadsAs pattern st) :
    OpensComment pattern ↔ ∃ p, Pattern.ofSource (pattern ++ ")") = .ok p := by
  have hText : (pattern ++ ")").toList = pattern.toList ++ [')'] := String.toList_append
  have hStart : Reading.Within [] [] .start .start := within_start
  -- the pattern is read as on its own, with a parenthesis behind it
  have hRead := Reading.run_within hStart (Nat.zero_le _) h.run ⟨h.classes, h.frames⟩
    fun _ => List.not_mem_nil
  rcases hRead with ⟨name, -, hOlder, -⟩ | ⟨st', hWithin, hComment, hClose⟩
  · cases hOlder
  · have hFrames : st'.frames = [] := by
      have hNested := hWithin.frames
      rw [h.frames] at hNested
      generalize st'.frames = frames at hNested
      cases hNested
      rfl
    constructor
    · intro hOpens
      have hRun : Reading.start.run 0 (pattern ++ ")").toList = .ok st' := by
        rw [hText]
        exact hComment hOpens
      refine ⟨_, ofSource_eq_ok_iff.mpr ⟨st', ⟨hRun, ?_, hFrames, ?_⟩, rfl⟩⟩
      · rw [hWithin.classes, h.classes]
      · rw [hWithin.level.depth_close]
        exact h.depth
    · rintro ⟨p, hp⟩
      obtain ⟨closed, hClosed, -⟩ := ofSource_eq_ok_iff.mp hp
      -- without a comment the parenthesis closes a group that was never opened
      refine Classical.byContradiction fun hOpens => ?_
      have hRun := hClosed.run
      rw [hText, hClose hOpens, run_closeGroup (hWithin.classes.trans h.classes),
        Reading.closeGroup, hFrames] at hRun
      cases hRun

-- ---------------------------------------------------------------------------
-- One occurrence
-- ---------------------------------------------------------------------------

section Occurrence

variable {pattern name : String} {st : Reading} {level : Level} {names : List (Option String)}
  {n : Nat} {rest : List Char}

/-- What becomes of an occurrence of a pattern that is read as `st` on its own: `result` is what
reading it and the rest of the text leads to, in a group with the name `group` where `names` were
given before. -/
inductive OccurrenceRead (pattern : String) (st : Reading) (level : Level) (group : String)
    (names : List (Option String)) (rest : List Char) : Except SyntaxError Reading → Prop
  /-- The name of the group was given before. -/
  | taken (hGroup : some group ∈ names) :
      OccurrenceRead pattern st level group names rest (.error .duplicateGroupName)
  /-- The pattern names a group as one was named before. -/
  | clash {own : String} (hOwn : some own ∈ st.names) (hOlder : some own ∈ some group :: names) :
      OccurrenceRead pattern st level group names rest (.error .duplicateGroupName)
  /-- The pattern ends in a comment, so its groups are not closed. -/
  | swallowed {unclosed : Reading} (hComment : OpensComment pattern)
      (hOpen : unclosed.frames ≠ []) :
      OccurrenceRead pattern st level group names rest (.ok unclosed)
  /-- The occurrence adds a part two levels deeper than the pattern. -/
  | read (regex : Regex) (hComment : ¬ OpensComment pattern)
      (hFresh : ∀ own, some own ∈ st.names → some own ∉ some group :: names) :
      OccurrenceRead pattern st level group names rest
        ((Reading.outside (level.push regex (st.level.close.depth + 2)) []
          (st.names ++ some group :: names)).run 0 rest)

/-- A group whose name is taken is refused. -/
theorem run_openTaken {group : String} (hGroup : isGroupName group.toList = true)
    (hClose : '>' ∉ group.toList) (level : Level) (hTaken : some group ∈ names)
    (rest : List Char) :
    (Reading.outside level [] names).run 0
        ('(' :: '?' :: 'P' :: '<' :: (group.toList ++ '>' :: rest)) =
      .error .duplicateGroupName := by
  have hContains : names.contains (some group) = true := List.contains_iff_mem.mpr hTaken
  have hOpening : readOpening (Reading.outside level [] names).flags
      ('?' :: 'P' :: '<' :: (group.toList ++ '>' :: rest)) =
        .ok (.capture (some group), group.toList.length + 4) :=
    readOpening_named hGroup hClose rest
  have hOpen : (Reading.outside level [] names).openGroup (.capture (some group)) =
      .error .duplicateGroupName := by
    simp only [Reading.openGroup, Reading.outside, hContains]
    rfl
  have hStep : (Reading.outside level [] names).stepOutside '('
      ('?' :: 'P' :: '<' :: (group.toList ++ '>' :: rest)) = .error .duplicateGroupName := by
    simp only [Reading.stepOutside, hOpening, hOpen]
    rfl
  have hStep : (Reading.outside level [] names).step '('
      ('?' :: 'P' :: '<' :: (group.toList ++ '>' :: rest)) = .error .duplicateGroupName := hStep
  rw [Reading.run, hStep]

/-- An occurrence of a pattern in a text, where a comment at its end does not reach a line
feed. -/
theorem occurrenceRead_fragment (h : ReadsAs pattern st) (hName : IsIdentifier name)
    (hLine : OpensComment pattern → '\n' ∉ rest) :
    OccurrenceRead pattern st level (groupName name n) names rest
      ((Reading.outside level [] names).run 0 ((fragment name n pattern).toList ++ rest)) := by
  have hGroup := isGroupName_groupName hName n
  have hClose := close_notMem_groupName hName n
  by_cases hTaken : some (groupName name n) ∈ names
  · rw [fragment, toList_namedGroup, run_openTaken hGroup hClose level hTaken]
    exact .taken hTaken
  -- the parenthesis that closes the body is in the line as well
  have hLine' : OpensComment pattern → '\n' ∉ ')' :: rest := by
    intro hOpens
    rw [List.mem_cons, not_or]
    exact ⟨by decide, hLine hOpens⟩
  have hOpening := run_openFragment hGroup hClose level [] hTaken pattern rest
  rw [← fragment] at hOpening
  rw [hOpening]
  rcases Reading.run_within within_start (Nat.zero_le _) h.run ⟨h.classes, h.frames⟩ hLine' with
    ⟨own, hOwn, hOlder, hClash⟩ | ⟨st', hWithin, hComment, hRead⟩
  · rw [hClash]
    exact .clash hOwn hOlder
  have hFrames := hWithin.frames
  rw [h.frames] at hFrames
  -- no frame of the pattern itself is left, only the two around it
  generalize hBase : st'.frames = frames at hFrames
  cases hFrames
  by_cases hOpens : OpensComment pattern
  · rw [hComment hOpens]
    refine .swallowed hOpens ?_
    rw [hBase]
    exact List.cons_ne_nil _ _
  · have hClasses : st'.classes = [] := hWithin.classes.trans h.classes
    -- the two parentheses close the body and the named group
    have hInner : st'.run 0 (')' :: ')' :: rest) =
        (Reading.outside (Level.empty.push st'.level.close.regex (st'.level.close.depth + 1))
          [⟨level, some (names.length + 1), {}⟩] st'.names).run 0 (')' :: rest) := by
      rw [run_closeGroup hClasses, Reading.closeGroup, hBase, Reading.outside, hClasses]
      rfl
    rw [hRead hOpens, hInner, run_closeGroup rfl, hWithin.names, hWithin.level.depth_close]
    exact .read (.group (names.length + 1) (.concat [st'.level.close.regex])) hOpens hWithin.fresh

end Occurrence

-- ---------------------------------------------------------------------------
-- Any number of occurrences
-- ---------------------------------------------------------------------------

/-- Some occurrences of a pattern with blanks between them, counted from `first`. -/
def fragments (name pattern : String) (first count : Nat) : String :=
  " ".intercalate ((List.range' first count).map fun n => fragment name n pattern)

section Occurrences

variable {pattern name : String} {st : Reading}

theorem fragments_one (name pattern : String) (first : Nat) :
    fragments name pattern first 1 = fragment name first pattern :=
  String.intercalate_singleton

/-- Further occurrences follow the first behind a blank. -/
theorem toList_fragments_succ (name pattern : String) (first count : Nat) :
    (fragments name pattern first (count + 2)).toList =
      (fragment name first pattern).toList ++
        ' ' :: (fragments name pattern (first + 1) (count + 1)).toList := by
  rw [fragments, List.range'_succ, List.map_cons, List.range'_succ, List.map_cons,
    String.intercalate_cons_cons, String.toList_append, String.toList_append, List.append_assoc]
  rfl

/-- A blank between occurrences is read as itself. -/
theorem run_blank (level : Level) (names : List (Option String)) (rest : List Char) :
    (Reading.outside level [] names).run 0 (' ' :: rest) =
      (Reading.outside (level.push (.char ' ') 0) [] names).run 0 rest :=
  Reading.run_plain (by decide) rest

/-- Occurrences of a pattern without named groups are read one after the other. -/
theorem run_fragments (h : ReadsAs pattern st) (hName : IsIdentifier name)
    (hComment : ¬ OpensComment pattern) (hUnnamed : ∀ own, some own ∉ st.names) {first : Nat}
    (count : Nat) {level : Level} {names : List (Option String)}
    (hFresh : ∀ n, first ≤ n → some (groupName name n) ∉ names)
    (hDepth : ∀ item ∈ level.items, item.depth ≤ st.level.close.depth + 2) :
    ∃ level' names',
      (Reading.outside level [] names).run 0 (fragments name pattern first count).toList =
        .ok (.outside level' [] names') ∧
      level'.branches = level.branches ∧
      ∀ item ∈ level'.items, item.depth ≤ st.level.close.depth + 2 := by
  -- of the four ways an occurrence can be read only the last is left
  have hOne {first : Nat} (level : Level) {names : List (Option String)} (rest : List Char)
      (hFresh : some (groupName name first) ∉ names) :
      ∃ regex, (Reading.outside level [] names).run 0
          ((fragment name first pattern).toList ++ rest) =
        (Reading.outside (level.push regex (st.level.close.depth + 2)) []
          (st.names ++ some (groupName name first) :: names)).run 0 rest := by
    have hRead : OccurrenceRead pattern st level (groupName name first) names rest _ :=
      occurrenceRead_fragment h hName fun hOpens => absurd hOpens hComment
    generalize (Reading.outside level [] names).run 0 _ = result at hRead ⊢
    cases hRead with
    | taken hTaken => exact absurd hTaken hFresh
    | clash hOwn => exact absurd hOwn (hUnnamed _)
    | swallowed hOpens => exact absurd hOpens hComment
    | read regex => exact ⟨regex, rfl⟩
  induction count generalizing first level names with
  | zero => exact ⟨level, names, rfl, rfl, hDepth⟩
  | succ count ih =>
    have hNow := hFresh first (Nat.le_refl _)
    cases count with
    | zero =>
      obtain ⟨regex, hRun⟩ := hOne level [] hNow
      rw [List.append_nil, Reading.run_nil] at hRun
      rw [fragments_one]
      exact ⟨_, _, hRun, rfl, List.forall_mem_cons.mpr ⟨Nat.le_refl _, hDepth⟩⟩
    | succ count =>
      rw [toList_fragments_succ]
      obtain ⟨regex, hRun⟩ := hOne level
        (' ' :: (fragments name pattern (first + 1) (count + 1)).toList) hNow
      rw [hRun, run_blank]
      refine ih ?_ ?_
      · intro n hn hMem
        rcases List.mem_append.mp hMem with hMem | hMem
        · exact hUnnamed _ hMem
        · rcases List.mem_cons.mp hMem with heq | hMem
          · -- the names of the group differ in their number
            have hSame := (groupName_inj (Option.some.inj heq)).2
            omega
          · exact hFresh n (Nat.le_of_succ_le hn) hMem
      · exact List.forall_mem_cons.mpr ⟨Nat.zero_le _,
          List.forall_mem_cons.mpr ⟨Nat.le_refl _, hDepth⟩⟩

/-- A level without a bar is as deep as its sequence. -/
theorem depth_close_of_branches_nil {level : Level} (h : level.branches = []) :
    level.close.depth = level.sequence.depth := by
  rw [Level.close, h]
  exact Nat.zero_max _

/-- A pattern of which one occurrence can be read does not end in a comment. -/
theorem not_opensComment_of_readable (h : ReadsAs pattern st) (hName : IsIdentifier name)
    {p : Pattern} (hRead : Pattern.ofSource (fragments name pattern 1 1) = .ok p) :
    ¬ OpensComment pattern := by
  obtain ⟨one, hOne, -⟩ := ofSource_eq_ok_iff.mp hRead
  have hOccurrence : OccurrenceRead pattern st .empty (groupName name 1) [] [] _ :=
    occurrenceRead_fragment h hName fun _ => List.not_mem_nil
  have hRun : (Reading.outside .empty [] []).run 0 ((fragment name 1 pattern).toList ++ []) =
      .ok one := by
    rw [List.append_nil, ← fragments_one]
    exact hOne.run
  rw [hRun] at hOccurrence
  generalize hResult : Except.ok one = result at hOccurrence
  cases hOccurrence with
  | taken | clash => cases hResult
  | swallowed _ hOpen =>
    cases hResult
    exact absurd hOne.frames hOpen
  | read _ hComment => exact hComment

/-- An occurrence that can be read adds a part, and its pattern gives no name twice. -/
theorem exists_of_run_fragment (h : ReadsAs pattern st) (hName : IsIdentifier name)
    (hComment : ¬ OpensComment pattern) {level : Level} {names : List (Option String)} {n : Nat}
    {rest : List Char} {whole : Reading}
    (hRun : (Reading.outside level [] names).run 0 ((fragment name n pattern).toList ++ rest) =
      .ok whole) :
    (∀ own, some own ∈ st.names → some own ∉ names) ∧
      ∃ regex, (Reading.outside (level.push regex (st.level.close.depth + 2)) []
        (st.names ++ some (groupName name n) :: names)).run 0 rest = .ok whole := by
  have hOccurrence : OccurrenceRead pattern st level (groupName name n) names rest _ :=
    occurrenceRead_fragment h hName fun hOpens => absurd hOpens hComment
  rw [hRun] at hOccurrence
  generalize hResult : Except.ok whole = result at hOccurrence
  cases hOccurrence with
  | taken | clash => cases hResult
  | swallowed hOpens => exact absurd hOpens hComment
  | read regex _ hFresh =>
    refine ⟨fun own hOwn hOlder => hFresh own hOwn ?_, regex, rfl⟩
    exact List.mem_cons_of_mem _ hOlder

/-- A pattern of which two occurrences can be read names no groups, and leaves room around
it. -/
theorem of_readable_twice (h : ReadsAs pattern st) (hName : IsIdentifier name)
    (hComment : ¬ OpensComment pattern) {p : Pattern}
    (hRead : Pattern.ofSource (fragments name pattern 1 2) = .ok p) :
    (∀ own, some own ∉ st.names) ∧ st.level.close.depth + 3 ≤ nestLimit := by
  obtain ⟨two, hTwo, -⟩ := ofSource_eq_ok_iff.mp hRead
  have hRun : (Reading.outside .empty [] []).run 0
      ((fragment name 1 pattern).toList ++ ' ' :: ((fragment name 2 pattern).toList ++ [])) =
        .ok two := by
    rw [List.append_nil, ← fragments_one name pattern 2, ← toList_fragments_succ name pattern 1 0]
    exact hTwo.run
  obtain ⟨-, first, hAfter⟩ := exists_of_run_fragment h hName hComment hRun
  rw [run_blank] at hAfter
  obtain ⟨hFresh, second, hEnd⟩ := exists_of_run_fragment h hName hComment hAfter
  constructor
  · -- the first occurrence has named what the second one names
    intro own hOwn
    exact hFresh own hOwn (List.mem_append_left _ hOwn)
  · rw [Reading.run_nil] at hEnd
    cases hEnd
    have hDepth := hTwo.depth
    generalize st.level.close.depth = depth at hDepth ⊢
    rw [depth_close_of_branches_nil rfl] at hDepth
    -- the two parts and the blank between them
    have hParts : max (max (max 0 (depth + 2)) 0) (depth + 2) + 1 ≤ nestLimit := hDepth
    omega

/-- Any number of occurrences of a pattern can be read just when the pattern does not end in a
comment, names no groups, and can stand three levels deeper. -/
theorem readable_fragments_iff (h : ReadsAs pattern st) (hName : IsIdentifier name) :
    (∀ count, 1 ≤ count → ∃ p, Pattern.ofSource (fragments name pattern 1 count) = .ok p) ↔
      ¬ OpensComment pattern ∧ (∀ own, some own ∉ st.names) ∧
        st.level.close.depth + 3 ≤ nestLimit := by
  constructor
  · intro hAll
    obtain ⟨one, hOne⟩ := hAll 1 (Nat.le_refl _)
    obtain ⟨two, hTwo⟩ := hAll 2 (Nat.le_succ _)
    have hComment := not_opensComment_of_readable h hName hOne
    exact ⟨hComment, of_readable_twice h hName hComment hTwo⟩
  · rintro ⟨hComment, hUnnamed, hDepth⟩ count -
    have hEmpty : ∀ item ∈ Level.empty.items, item.depth ≤ st.level.close.depth + 2 := by
      intro item hItem
      cases hItem
    have hFresh : ∀ n, 1 ≤ n → some (groupName name n) ∉ ([] : List (Option String)) :=
      fun _ _ => List.not_mem_nil
    obtain ⟨level, names, hRun, hBranches, hItems⟩ :=
      run_fragments h hName hComment hUnnamed count hFresh hEmpty
    refine ⟨_, ofSource_eq_ok_iff.mpr ⟨_, ⟨hRun, rfl, rfl, ?_⟩, rfl⟩⟩
    show level.close.depth ≤ nestLimit
    rw [depth_close_of_branches_nil hBranches]
    exact Nat.le_trans (depth_sequence_le hItems) hDepth

end Occurrences

end TypedSteps
