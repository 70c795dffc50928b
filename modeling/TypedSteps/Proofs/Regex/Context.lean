import TypedSteps.Proofs.Regex.Lookahead.Bounds
import TypedSteps.Proofs.Regex.Lookahead.Classes

/-!
# Patterns within patterns

A pattern that stands in the groups of another one is read there as it is on its own: the
groups around it are not touched, and its parts nest alike. Only two things can go wrong. A
comment that is open at its end takes the parentheses that follow, and a group that it names
may have been named before.

* `Level.Alike` — levels whose parts nest alike;
* `Reading.Within` — what was read of a pattern on its own and within another one;
* `Reading.EndsInComment` — a pattern with a comment that is open at its end;
* `run_within` — a whole pattern within another one.
-/

namespace TypedSteps

-- ---------------------------------------------------------------------------
-- Levels
-- ---------------------------------------------------------------------------

/-- Two levels whose parts nest and can be repeated alike. What the parts match is left open,
since the groups in them may have other indices. -/
structure Level.Alike (l l' : Level) : Prop where
  branches : l'.branches.map (·.depth) = l.branches.map (·.depth)
  items : l'.items.map (fun i => (i.depth, i.repeatable)) =
    l.items.map fun i => (i.depth, i.repeatable)

namespace Level.Alike

variable {l l' : Level}

protected theorem refl (l : Level) : l.Alike l := ⟨rfl, rfl⟩

/-- Alike levels stay so when a part of the same depth is added to both. -/
theorem push (h : l.Alike l') (r r' : Regex) (depth : Nat) (repeatable : Bool) :
    (l.push r depth repeatable).Alike (l'.push r' depth repeatable) :=
  ⟨h.branches, congrArg ((depth, repeatable) :: ·) h.items⟩

/-- The sequence that has been read last nests as deeply on both levels. -/
theorem depth_sequence (h : l.Alike l') : l'.sequence.depth = l.sequence.depth := by
  have hDepths := congrArg (List.map Prod.fst) h.items
  rw [List.map_map, List.map_map] at hDepths
  have hDepths : l'.items.map (·.depth) = l.items.map (·.depth) := hDepths
  have hCount := congrArg List.length hDepths
  rw [List.length_map, List.length_map] at hCount
  rw [Level.sequence, Level.sequence, hDepths, hCount]

/-- A bar ends the same branch on both levels. -/
theorem nextBranch (h : l.Alike l') : l.nextBranch.Alike l'.nextBranch := by
  refine ⟨?_, rfl⟩
  rw [Level.nextBranch, Level.nextBranch, List.map_cons, List.map_cons, h.branches,
    h.depth_sequence]

/-- Alike levels close to expressions that nest alike. -/
theorem depth_close (h : l.Alike l') : l'.close.depth = l.close.depth := by
  have hCount := congrArg List.length h.branches
  rw [List.length_map, List.length_map] at hCount
  rw [Level.close, Level.close]
  simp only [List.map_cons, List.length_cons, h.branches, h.depth_sequence, hCount]

/-- What can be repeated on one level can be on the other. -/
theorem repeatLast (h : l.Alike l') {bounds : Bounds} {greedy : Bool} {m : Level}
    (hm : l.repeatLast bounds greedy = .ok m) :
    ∃ m', l'.repeatLast bounds greedy = .ok m' ∧ m.Alike m' := by
  obtain ⟨hBranches, hItems⟩ := h
  rw [Level.repeatLast] at hm ⊢
  cases hl : l.items with
  | nil =>
    rw [hl] at hm
    cases hm
  | cons last before =>
    rw [hl] at hm hItems
    -- the last parts agree in the two things that decide: their depth and whether they can be
    -- repeated
    obtain ⟨last', before', hl', hLast, hBefore⟩ := List.map_eq_cons_iff.mp hItems
    obtain ⟨hDepth, hRepeatable⟩ := Prod.mk.inj hLast
    rw [hl']
    dsimp only at hm ⊢
    rw [hRepeatable]
    split at hm
    next hRepeat =>
      cases hm
      rw [if_pos hRepeat, hDepth]
      have hRest : (Level.mk l.branches before).Alike ⟨l'.branches, before'⟩ :=
        ⟨hBranches, hBefore⟩
      exact ⟨_, rfl, hRest.push _ _ _ _⟩
    next => cases hm

end Level.Alike

-- ---------------------------------------------------------------------------
-- Readings
-- ---------------------------------------------------------------------------

/-- The groups that are open on the left are open on the right too, inside the groups of
`base`. -/
inductive Nested (base : List Frame) : List Frame → List Frame → Prop
  | base : Nested base [] base
  | frame {outer outer' : Level} {capture capture' : Option Nat} {flags : Flags}
      {frames frames' : List Frame} (hOuter : outer.Alike outer')
      (hFrames : Nested base frames frames') :
      Nested base (⟨outer, capture, flags⟩ :: frames) (⟨outer', capture', flags⟩ :: frames')

namespace Reading

/-- What was read of a pattern on its own, and what was read of it inside the groups of `base`
when the names in `older` had been given to groups before. -/
structure Within (base : List Frame) (older : List (Option String)) (a b : Reading) : Prop where
  level : a.level.Alike b.level
  frames : Nested base a.frames b.frames
  classes : b.classes = a.classes
  flags : b.flags = a.flags
  names : b.names = a.names ++ older
  fresh : ∀ name, some name ∈ a.names → some name ∉ older

/-- How a step within another pattern compares to the step that leads to `next` and takes the
next `taken` characters of `cs` as well. -/
inductive Follows (base : List Frame) (older : List (Option String)) (next : Reading)
    (taken : Nat) (cs : List Char) : Except SyntaxError (Reading × Nat) → Prop
  /-- It is the same step. -/
  | same {next' : Reading} (hle : taken ≤ cs.length) (hNext : Within base older next next') :
      Follows base older next taken cs (.ok (next', taken))
  /-- The pattern on its own ends there with something left open. -/
  | unclosed (result : Except SyntaxError (Reading × Nat)) (hle : cs.length ≤ taken)
      (hOpen : next.classes ≠ [] ∨ next.frames ≠ []) :
      Follows base older next taken cs result
  /-- A group has a name that was given before. -/
  | clash {name : String} (hName : some name ∈ next.names) (hOlder : some name ∈ older) :
      Follows base older next taken cs (.error .duplicateGroupName)

section Steps

variable {base : List Frame} {older : List (Option String)} {a b next : Reading} {c : Char}
  {cs rest : List Char} {taken : Nat}

/-- A part of the same depth may be added to both readings. -/
theorem Within.push (h : Within base older a b) (r r' : Regex) (depth : Nat) (repeatable : Bool) :
    Within base older (a.push r depth repeatable) (b.push r' depth repeatable) :=
  { h with level := h.level.push r r' depth repeatable }

theorem Within.pushEscape (h : Within base older a b) (escape : Escape) :
    Within base older (a.pushEscape escape) (b.pushEscape escape) := by
  cases escape <;> exact h.push _ _ _ _

/-- A repetition is accepted within another pattern if it is on its own. -/
theorem Within.repeatLast (h : Within base older a b) {bounds : Bounds}
    (hNext : a.repeatLast bounds = .ok next) :
    ∃ next', b.repeatLast bounds = .ok next' ∧ Within base older next next' := by
  obtain ⟨level, hLevel, rfl⟩ := exists_of_map_eq_ok hNext
  obtain ⟨level', hLevel', hAlike⟩ := h.level.repeatLast hLevel
  rw [Reading.repeatLast, h.flags, hLevel']
  exact ⟨_, rfl, hAlike, h.frames, h.classes, rfl, h.names, h.fresh⟩

/-- A parenthesis closes the same group within another pattern: those around it are not reached. -/
theorem Within.closeGroup (h : Within base older a b) (hNext : a.closeGroup = .ok next) :
    ∃ next', b.closeGroup = .ok next' ∧ Within base older next next' := by
  rw [Reading.closeGroup] at hNext ⊢
  have hFrames := h.frames
  -- the frames are compared as lists, so that the cases of `Nested` apply to them
  generalize a.frames = frames at hNext hFrames
  generalize b.frames = frames' at hFrames
  cases hFrames with
  | base => cases hNext
  | frame hOuter hFrames =>
    cases hNext
    refine ⟨_, rfl, ?_⟩
    dsimp only
    rw [h.level.depth_close]
    exact ⟨hOuter.push _ _ _ _, hFrames, h.classes, rfl, h.names, h.fresh⟩

/-- A group is opened, unless it has a name that was given before. -/
theorem Within.openGroup (h : Within base older a b) {opening : Opening}
    (hNext : a.openGroup opening = .ok next) :
    (∃ next', b.openGroup opening = .ok next' ∧ Within base older next next') ∨
      ∃ name, some name ∈ next.names ∧ some name ∈ older ∧
        b.openGroup opening = .error .duplicateGroupName := by
  cases opening with
  | directive g =>
    cases hNext
    exact .inl ⟨_, rfl, { h.push .empty .empty 0 false with flags := rfl }⟩
  | plain g =>
    cases hNext
    refine .inl ⟨_, rfl, .refl _, ?_, h.classes, rfl, h.names, h.fresh⟩
    dsimp only
    rw [h.flags]
    exact .frame h.level h.frames
  | capture name =>
    rw [Reading.openGroup] at hNext ⊢
    split at hNext
    next => cases hNext
    next hNew =>
      cases hNext
      -- the two groups may have different indices, which no later step looks at
      have hIndex : Nested base (⟨a.level, some (a.names.length + 1), a.flags⟩ :: a.frames)
          (⟨b.level, some (b.names.length + 1), b.flags⟩ :: b.frames) := by
        rw [h.flags]
        exact .frame h.level h.frames
      have hNames : name :: b.names = name :: a.names ++ older := by
        rw [h.names, List.cons_append]
      -- the name is refused within the other pattern just where an older group has it
      by_cases hOld : ∃ n, name = some n ∧ some n ∈ older
      · obtain ⟨n, rfl, hOlder⟩ := hOld
        have hContains : b.names.contains (some n) = true := by
          rw [List.contains_iff_mem, h.names]
          exact List.mem_append_right _ hOlder
        refine .inr ⟨n, List.mem_cons_self, hOlder, ?_⟩
        rw [hContains]
        rfl
      · have hFresh : ∀ n, some n ∈ name :: a.names → some n ∉ older := by
          intro n hn hOlder
          rcases List.mem_cons.mp hn with rfl | hn
          · exact hOld ⟨n, rfl, hOlder⟩
          · exact h.fresh n hn hOlder
        have hContains : (name.isSome && b.names.contains name) = false := by
          rw [Bool.eq_false_iff]
          intro hBoth
          rw [Bool.and_eq_true, List.contains_iff_mem, h.names, List.mem_append] at hBoth
          obtain ⟨hSome, hMem | hMem⟩ := hBoth
          · -- a name of the pattern itself would be refused on its own as well
            refine hNew ?_
            rw [hSome, Bool.true_and, List.contains_iff_mem]
            exact hMem
          · obtain ⟨n, rfl⟩ := Option.isSome_iff_exists.mp hSome
            exact hOld ⟨n, rfl, hMem⟩
        rw [hContains]
        exact .inl ⟨_, rfl, .refl _, hIndex, h.classes, h.flags, hNames, hFresh⟩

/-- One of the three signs of repetition is read alike, with the question mark behind it. -/
theorem Within.repeatUncounted (h : Within base older a b) {min : Nat} {max : Option Nat}
    (hNext : a.repeatUncounted min max cs = .ok (next, taken)) :
    Follows base older next taken cs (b.repeatUncounted min max (cs ++ ')' :: rest)) := by
  obtain ⟨next, hRepeat, hFound⟩ := exists_of_map_eq_ok hNext
  cases hFound
  obtain ⟨next', hRepeat', hWithin⟩ := h.repeatLast hRepeat
  -- a parenthesis behind the pattern is no question mark
  have hMark : ((cs ++ ')' :: rest).head? == some '?') = (cs.head? == some '?') := by
    cases cs <;> rfl
  rw [Reading.repeatUncounted, hMark, hRepeat']
  refine .same ?_ hWithin
  cases cs with
  | nil => exact Nat.le_refl _
  | cons d ds => exact Nat.le_trans (Bool.toNat_le _) (Nat.succ_le_succ (Nat.zero_le _))

/-- A parenthesis opens the same group within another pattern, unless the group has a name that was
given before, or the pattern ends in what opens it. -/
theorem Within.stepGroup (h : Within base older a b)
    (hNext : a.stepOutside '(' cs = .ok (next, taken)) :
    Follows base older next taken cs (b.stepOutside '(' (cs ++ ')' :: rest)) := by
  simp only [Reading.stepOutside, h.flags] at hNext ⊢
  cases hOpening : readOpening a.flags cs with
  | error e =>
    rw [hOpening] at hNext
    cases hNext
  | ok found =>
    obtain ⟨opening, n⟩ := found
    rw [hOpening] at hNext
    obtain ⟨next, hGroup, hFound⟩ := exists_of_map_eq_ok hNext
    cases hFound
    rcases settles_readOpening hOpening rest with ⟨hle, hSame⟩ | ⟨hle, rfl⟩
    · simp only [hSame]
      rcases h.openGroup hGroup with ⟨next', hGroup', hWithin⟩ | ⟨name, hName, hOlder, hClash⟩
      · rw [hGroup']
        exact .same hle hWithin
      · rw [hClash]
        exact .clash hName hOlder
    · -- the blanks behind the parenthesis fill the pattern, and the group stays open
      refine .unclosed _ hle (.inr ?_)
      cases hGroup
      exact List.cons_ne_nil _ _

/-- A bracket opens the same class within another pattern, unless the pattern ends in what opens
it. -/
theorem Within.stepClass (h : Within base older a b)
    (hNext : a.stepOutside '[' cs = .ok (next, taken)) :
    Follows base older next taken cs (b.stepOutside '[' (cs ++ ')' :: rest)) := by
  simp only [Reading.stepOutside, h.flags] at hNext ⊢
  cases hNext
  by_cases hlt : (ClassFrame.opening a.flags cs).2 < cs.length
  · rw [opening_append hlt]
    exact .same (Nat.le_of_lt hlt) { h with classes := rfl, flags := rfl }
  · exact .unclosed _ (Nat.le_of_not_lt hlt) (.inl (List.cons_ne_nil _ _))

/-- Bounds are the same within another pattern. A mark behind them is looked for beyond blanks and
comments, so no comment may be open there. -/
theorem Within.stepBounds (h : Within base older a b)
    (hNext : a.stepOutside '{' cs = .ok (next, taken))
    (hOpen : next.flags.InComment (cs.drop taken) → '\n' ∉ rest) :
    Follows base older next taken cs (b.stepOutside '{' (cs ++ ')' :: rest)) := by
  simp only [Reading.stepOutside, h.flags] at hNext ⊢
  cases hBounds : readBounds a.flags cs with
  | error e =>
    rw [hBounds] at hNext
    cases hNext
  | ok found =>
    obtain ⟨bounds, n⟩ := found
    rw [hBounds] at hNext
    obtain ⟨next, hRepeat, hFound⟩ := exists_of_map_eq_ok hNext
    cases hFound
    have hFlags : next.flags = a.flags := by
      obtain ⟨level, -, rfl⟩ := exists_of_map_eq_ok hRepeat
      rfl
    rw [hFlags] at hOpen
    obtain ⟨hle, hSame⟩ := settles_readBounds hBounds hOpen
    obtain ⟨next', hRepeat', hWithin⟩ := h.repeatLast hRepeat
    simp only [hSame]
    rw [hRepeat']
    exact .same hle hWithin

/-- An escape is the same within another pattern. -/
theorem Within.stepEscape (h : Within base older a b)
    (hNext : a.stepOutside '\\' cs = .ok (next, taken)) :
    Follows base older next taken cs (b.stepOutside '\\' (cs ++ ')' :: rest)) := by
  simp only [Reading.stepOutside, h.flags] at hNext ⊢
  cases hEscape : readEscape a.flags cs with
  | error e =>
    rw [hEscape] at hNext
    cases hNext
  | ok found =>
    obtain ⟨escape, n⟩ := found
    rw [hEscape] at hNext
    cases hNext
    obtain ⟨hle, hSame⟩ := settles_readEscape cs rest _ _ hEscape
    simp only [hSame]
    exact .same hle (h.pushEscape escape)

/-- A step outside classes is the same within another pattern, but for the names of groups and
for groups at the end of the text. -/
theorem Within.stepOutside (h : Within base older a b)
    (hNext : a.stepOutside c cs = .ok (next, taken))
    (hOpen : next.flags.InComment (cs.drop taken) → '\n' ∉ rest) :
    Follows base older next taken cs (b.stepOutside c (cs ++ ')' :: rest)) := by
  unfold Reading.stepOutside at hNext ⊢
  -- the cases stand in the order of the characters in the definition, groups first
  split at hNext
  case h_1 => exact h.stepGroup hNext
  case h_2 =>
    obtain ⟨next, hClose, hFound⟩ := exists_of_map_eq_ok hNext
    cases hFound
    obtain ⟨next', hClose', hWithin⟩ := h.closeGroup hClose
    rw [hClose']
    exact .same (Nat.zero_le _) hWithin
  case h_3 =>
    cases hNext
    exact .same (Nat.zero_le _) { h with level := h.level.nextBranch }
  case h_4 => exact h.stepClass hNext
  case h_5 | h_6 | h_7 => exact h.repeatUncounted hNext
  case h_8 => exact h.stepBounds hNext hOpen
  case h_9 => exact h.stepEscape hNext
  case h_10 =>
    obtain ⟨r, hDot, hFound⟩ := exists_of_map_eq_ok hNext
    cases hFound
    rw [h.flags, hDot]
    exact .same (Nat.zero_le _) (h.push _ _ _ _)
  -- the other characters add a part and take nothing of what follows
  all_goals
    rw [h.flags]
    cases hNext
    exact .same (Nat.zero_le _) (h.push _ _ _ _)

/-- A bracket closes the same class within another pattern. -/
theorem Within.closeClass (h : Within base older a b) {frame : ClassFrame}
    {outer : List ClassFrame} (hNext : a.closeClass frame outer = .ok next) :
    ∃ next', b.closeClass frame outer = .ok next' ∧ Within base older next next' := by
  rw [Reading.closeClass] at hNext ⊢
  rw [h.flags]
  split at hNext
  next => cases hNext
  next whole hClose =>
    cases outer with
    | nil =>
      cases hNext
      exact ⟨_, rfl, { h.push _ _ _ _ with classes := rfl }⟩
    | cons parent outer =>
      cases hNext
      exact ⟨_, rfl, { h with classes := rfl, flags := rfl }⟩

/-- Inside a class only the classes change. -/
theorem Within.setClasses (h : Within base older a b) (classes : List ClassFrame) :
    Within base older { a with classes := classes }
      { b with classes := classes, flags := a.flags } :=
  { h with classes := rfl, flags := rfl }

/-- A bracket in a class is the same within another pattern. A named class is found whatever follows
it; without one a class opens, unless the pattern ends in what opens it. -/
theorem Within.stepNested (h : Within base older a b) {frame : ClassFrame}
    {outer : List ClassFrame} (hNext : a.stepInside frame outer '[' cs = .ok (next, taken)) :
    Follows base older next taken cs (b.stepInside frame outer '[' (cs ++ ')' :: rest)) := by
  simp only [Reading.stepInside, h.flags, readNamedClass?_append] at hNext ⊢
  cases hNamed : readNamedClass? cs with
  | some found =>
    obtain ⟨set, negated, n⟩ := found
    rw [hNamed] at hNext
    obtain ⟨named, hNegate, hFound⟩ := exists_of_map_eq_ok hNext
    cases hFound
    simp only [hNegate]
    exact .same (le_of_readNamedClass? hNamed) (h.setClasses _)
  | none =>
    rw [hNamed] at hNext
    cases hNext
    by_cases hlt : (ClassFrame.opening a.flags cs).2 < cs.length
    · simp only [opening_append hlt]
      exact .same (Nat.le_of_lt hlt) (h.setClasses _)
    · exact .unclosed _ (Nat.le_of_not_lt hlt) (.inl (List.cons_ne_nil _ _))

/-- What opens no class, ends none and is no operator is read as members of the class. -/
theorem stepInside_members {st : Reading} {frame : ClassFrame} {outer : List ClassFrame} {c d : Char}
    {more : List Char} (hBracket : c ≠ '[') (hEnd : c ≠ ']') (hInter : c = '&' → d ≠ '&')
    (hDiff : c = '-' → d ≠ '-') (hSymm : c = '~' → d ≠ '~') :
    st.stepInside frame outer c (d :: more) =
      (readMembers st.flags c (d :: more)).map fun (s, taken) =>
        ({ st with classes := frame.add s 0 :: outer }, taken) := by
  unfold Reading.stepInside
  split
  case h_1 => exact absurd rfl hBracket
  case h_2 => exact absurd rfl hEnd
  case h_3 heq => exact absurd (List.cons.inj heq).1 (hInter rfl)
  case h_4 heq => exact absurd (List.cons.inj heq).1 (hDiff rfl)
  case h_5 heq => exact absurd (List.cons.inj heq).1 (hSymm rfl)
  case h_6 => rfl

/-- A step inside classes is the same within another pattern, but for classes at the end of
the text. -/
theorem Within.stepInside (h : Within base older a b) {frame : ClassFrame}
    {outer : List ClassFrame} (hNext : a.stepInside frame outer c cs = .ok (next, taken)) :
    Follows base older next taken cs (b.stepInside frame outer c (cs ++ ')' :: rest)) := by
  have hStep := hNext
  unfold Reading.stepInside at hStep
  dsimp only at hStep
  -- a class in the class, its end, the three operators, and members last
  split at hStep
  case h_1 => exact h.stepNested hNext
  case h_2 =>
    obtain ⟨next, hClose, hFound⟩ := exists_of_map_eq_ok hStep
    cases hFound
    obtain ⟨next', hClose', hWithin⟩ := h.closeClass hClose
    simp only [Reading.stepInside, hClose']
    exact .same (Nat.zero_le _) hWithin
  case h_6 hBracket hEnd hInter hDiff hSymm =>
    obtain ⟨⟨set, n⟩, hMembers, hFound⟩ := exists_of_map_eq_ok hStep
    cases hFound
    obtain ⟨hle, hSame⟩ := settles_readMembers hMembers rest
    -- members that take the whole rest leave their class open at the end
    by_cases hlt : n < cs.length
    · obtain ⟨d, more, rfl⟩ :=
        List.exists_cons_of_ne_nil (List.ne_nil_of_length_pos (Nat.zero_lt_of_lt hlt))
      rw [List.cons_append] at hSame ⊢
      rw [stepInside_members hBracket hEnd
        (fun hc hd => hInter more hc (congrArg (· :: more) hd))
        (fun hc hd => hDiff more hc (congrArg (· :: more) hd))
        (fun hc hd => hSymm more hc (congrArg (· :: more) hd)), h.flags, hSame hlt]
      exact .same hle (h.setClasses _)
    · exact .unclosed _ (Nat.le_of_not_lt hlt) (.inl (List.cons_ne_nil _ _))
  -- an operator between sets
  all_goals
    cases hStep
    simp only [Reading.stepInside, List.cons_append, h.flags]
    exact .same (Nat.succ_le_succ (Nat.zero_le _)) (h.setClasses _)

/-- A step is the same within another pattern, unless a comment is open at the end of the
text. -/
theorem Within.step (h : Within base older a b) (hNext : a.step c cs = .ok (next, taken))
    (hComment : ¬ a.flags.InComment (c :: cs))
    (hOpen : next.flags.InComment (cs.drop taken) → '\n' ∉ rest) :
    Follows base older next taken cs (b.step c (cs ++ ')' :: rest)) := by
  have hle := a.flags.blanks_le (c :: cs)
  rw [List.length_cons] at hle
  -- blanks at the end of the pattern do not go on behind it: a parenthesis follows, and no comment
  -- is open
  have hBlanks : b.flags.blanks (c :: (cs ++ ')' :: rest)) = a.flags.blanks (c :: cs) := by
    rw [h.flags, ← List.cons_append]
    by_cases hlt : a.flags.blanks (c :: cs) < (c :: cs).length
    · exact Flags.blanks_append hlt _
    · have hFill : a.flags.blanks (c :: cs) = (c :: cs).length :=
        Nat.le_antisymm (a.flags.blanks_le _) (Nat.le_of_not_lt hlt)
      rw [Flags.blanks_fill hFill hComment, hFill]
  rw [Reading.step] at hNext ⊢
  rw [hBlanks]
  split at hNext
  next hIgnored =>
    cases hNext
    rw [if_pos hIgnored]
    exact .same (Nat.sub_le_of_le_add hle) h
  next hIgnored =>
    rw [if_neg hIgnored, h.classes]
    split at hNext
    next => exact h.stepOutside hNext hOpen
    next => exact h.stepInside hNext

-- Names of groups are only added, where groups open.

theorem suffix_of_names_eq (h : next.names = a.names) : a.names <:+ next.names :=
  h ▸ List.suffix_refl _

/-- To open a group adds its name at most. -/
theorem names_openGroup {opening : Opening} (hNext : a.openGroup opening = .ok next) :
    a.names <:+ next.names := by
  cases opening with
  | directive | plain =>
    cases hNext
    exact List.suffix_refl _
  | capture name =>
    rw [Reading.openGroup] at hNext
    split at hNext
    next => cases hNext
    next =>
      cases hNext
      -- the new name, or its lack, is put in front
      exact List.suffix_cons _ _

theorem names_closeGroup (hNext : a.closeGroup = .ok next) : next.names = a.names := by
  rw [Reading.closeGroup] at hNext
  split at hNext
  next => cases hNext
  next =>
    cases hNext
    rfl

theorem names_repeatLast {bounds : Bounds} (hNext : a.repeatLast bounds = .ok next) :
    next.names = a.names := by
  obtain ⟨level, -, rfl⟩ := exists_of_map_eq_ok hNext
  rfl

theorem names_repeatUncounted {min : Nat} {max : Option Nat}
    (hNext : a.repeatUncounted min max cs = .ok (next, taken)) : next.names = a.names := by
  obtain ⟨next, hRepeat, hFound⟩ := exists_of_map_eq_ok hNext
  cases hFound
  exact names_repeatLast hRepeat

theorem names_closeClass {frame : ClassFrame} {outer : List ClassFrame}
    (hNext : a.closeClass frame outer = .ok next) : next.names = a.names := by
  rw [Reading.closeClass] at hNext
  split at hNext
  next => cases hNext
  next =>
    cases outer <;> cases hNext <;> rfl

/-- A step outside classes loses no name. -/
theorem names_stepOutside (hNext : a.stepOutside c cs = .ok (next, taken)) :
    a.names <:+ next.names := by
  unfold Reading.stepOutside at hNext
  split at hNext
  case h_1 =>
    split at hNext
    next =>
      obtain ⟨next, hGroup, hFound⟩ := exists_of_map_eq_ok hNext
      cases hFound
      exact names_openGroup hGroup
    next => cases hNext
  case h_2 =>
    obtain ⟨next, hClose, hFound⟩ := exists_of_map_eq_ok hNext
    cases hFound
    exact suffix_of_names_eq (names_closeGroup hClose)
  case h_5 | h_6 | h_7 =>
    exact suffix_of_names_eq (names_repeatUncounted hNext)
  case h_8 =>
    split at hNext
    next =>
      obtain ⟨next, hRepeat, hFound⟩ := exists_of_map_eq_ok hNext
      cases hFound
      exact suffix_of_names_eq (names_repeatLast hRepeat)
    next => cases hNext
  case h_9 =>
    split at hNext
    next escape _ _ =>
      cases hNext
      cases escape <;> exact List.suffix_refl _
    next => cases hNext
  case h_10 =>
    obtain ⟨r, -, hFound⟩ := exists_of_map_eq_ok hNext
    cases hFound
    exact List.suffix_refl _
  all_goals
    cases hNext
    exact List.suffix_refl _

theorem names_stepInside {frame : ClassFrame} {outer : List ClassFrame}
    (hNext : a.stepInside frame outer c cs = .ok (next, taken)) : next.names = a.names := by
  unfold Reading.stepInside at hNext
  dsimp only at hNext
  split at hNext
  case h_1 =>
    split at hNext
    next =>
      obtain ⟨named, -, hFound⟩ := exists_of_map_eq_ok hNext
      cases hFound
      rfl
    next =>
      cases hNext
      rfl
  case h_2 =>
    obtain ⟨next, hClose, hFound⟩ := exists_of_map_eq_ok hNext
    cases hFound
    exact names_closeClass hClose
  case h_6 =>
    obtain ⟨found, -, hFound⟩ := exists_of_map_eq_ok hNext
    cases hFound
    rfl
  all_goals
    cases hNext
    rfl

/-- A step loses no name. -/
theorem names_step (hNext : a.step c cs = .ok (next, taken)) : a.names <:+ next.names := by
  rw [Reading.step] at hNext
  split at hNext
  next =>
    cases hNext
    exact List.suffix_refl _
  next =>
    split at hNext
    next => exact names_stepOutside hNext
    next => exact suffix_of_names_eq (names_stepInside hNext)

end Steps

-- ---------------------------------------------------------------------------
-- Runs
-- ---------------------------------------------------------------------------

/-- Whether a comment is open at the end of a text, of which the first characters are
skipped. -/
def EndsInComment (st : Reading) : Nat → List Char → Prop
  | _, [] => False
  | skip + 1, _ :: cs => EndsInComment st skip cs
  | 0, c :: cs =>
    st.flags.InComment (c :: cs) ∨
      match st.step c cs with
      | .ok (next, skip) => EndsInComment next skip cs
      | .error _ => False

section Runs

variable {base : List Frame} {older : List (Option String)} {a b st : Reading} {cs : List Char}
  {skip : Nat}

/-- Where all characters are skipped nothing is read. -/
theorem run_of_length_le (st : Reading) (h : cs.length ≤ skip) : st.run skip cs = .ok st := by
  induction cs generalizing skip with
  | nil => exact run_nil st skip
  | cons c cs ih =>
    obtain ⟨n, rfl⟩ : ∃ n, skip = n + 1 := Nat.exists_eq_add_one.mpr (Nat.zero_lt_of_lt h)
    exact ih (Nat.le_of_succ_le_succ h)

/-- The names that are given once stay to the end of the pattern. -/
theorem names_run (hRun : a.run skip cs = .ok st) : a.names <:+ st.names := by
  induction cs generalizing a skip with
  | nil =>
    rw [run_nil] at hRun
    cases hRun
    exact List.suffix_refl _
  | cons c cs ih =>
    cases skip with
    | succ skip => exact ih hRun
    | zero =>
      rw [run] at hRun
      split at hRun
      next next taken hStep => exact (names_step hStep).trans (ih hRun)
      next => cases hRun

/-- A comment that is not ended takes the rest of a pattern. -/
theorem run_comment (h : a.flags.InComment cs) {more : List Char} (hMore : '\n' ∉ more) :
    a.run 0 (cs ++ more) = .ok a := by
  have hBlanks := h.blanks hMore
  cases hText : cs ++ more with
  | nil => rfl
  | cons c rest =>
    rw [hText, List.length_cons] at hBlanks
    -- a comment takes what is left in one step
    have hStep : a.step c rest = .ok (a, rest.length) := by
      rw [Reading.step, hBlanks]
      rfl
    rw [run, hStep]
    exact run_of_length_le a (Nat.le_refl _)

/-- A comment behind the characters that are skipped is open at the end of the text. -/
theorem endsInComment_of_drop (h : a.flags.InComment (cs.drop skip)) :
    a.EndsInComment skip cs := by
  induction cs generalizing skip with
  | nil =>
    have hOne : ([] : List Char).length + Flags.blankRun true ['a'] = 0 := by
      rw [List.drop_nil] at h
      exact (h.2 ['a']).symm
    cases hOne
  | cons c cs ih =>
    cases skip with
    | zero => exact .inl h
    | succ skip => exact ih h

/-- A whole pattern is read within another one as it is on its own, unless a name clashes. Where
a comment is open at its end, the rest of the line around it is lost. -/
theorem run_within (h : Within base older a b) (hSkip : skip ≤ cs.length)
    (hRun : a.run skip cs = .ok st) (hClosed : st.classes = [] ∧ st.frames = [])
    {rest : List Char} (hLine : a.EndsInComment skip cs → '\n' ∉ rest) :
    (∃ name, some name ∈ st.names ∧ some name ∈ older ∧
        b.run skip (cs ++ ')' :: rest) = .error .duplicateGroupName) ∨
      ∃ st', Within base older st st' ∧
        (a.EndsInComment skip cs → b.run skip (cs ++ ')' :: rest) = .ok st') ∧
        (¬ a.EndsInComment skip cs →
          b.run skip (cs ++ ')' :: rest) = st'.run 0 (')' :: rest)) := by
  -- by the characters of the pattern; both readings move on together
  induction cs generalizing a b skip with
  | nil =>
    rw [Nat.le_zero.mp hSkip] at hRun ⊢
    cases hRun
    exact .inr ⟨b, h, False.elim, fun _ => rfl⟩
  | cons c cs ih =>
    cases skip with
    | succ skip => exact ih h (Nat.le_of_succ_le_succ hSkip) hRun hLine
    | zero =>
      by_cases hComment : a.flags.InComment (c :: cs)
      · -- the comment takes the parenthesis and the rest of the line
        have hNone : '\n' ∉ ')' :: rest := by
          rw [List.mem_cons, not_or]
          exact ⟨by decide, hLine (.inl hComment)⟩
        have hOwn : a.run 0 (c :: cs ++ []) = .ok a := run_comment hComment List.not_mem_nil
        rw [List.append_nil, hRun] at hOwn
        cases hOwn
        rw [← h.flags] at hComment
        exact .inr ⟨b, h, fun _ => run_comment hComment hNone,
          fun hno => (hno (.inl (h.flags ▸ hComment))).elim⟩
      · rw [run] at hRun
        split at hRun
        next next taken hStep =>
          have hEnds : a.EndsInComment 0 (c :: cs) ↔ next.EndsInComment taken cs := by
            rw [EndsInComment, hStep]
            exact or_iff_right hComment
          rw [hEnds] at hLine ⊢
          -- one step, and what may be different about it
          have hFollows := h.step hStep hComment fun hDrop => hLine (endsInComment_of_drop hDrop)
          rw [List.cons_append, run]
          generalize b.step c (cs ++ ')' :: rest) = result at hFollows
          cases hFollows with
          | same hle hNext => exact ih hNext hle hRun hLine
          | unclosed _ hle hOpen =>
            -- the pattern ends with something open, which a whole pattern does not
            rw [run_of_length_le next hle] at hRun
            cases hRun
            rcases hOpen with hOpen | hOpen
            · exact absurd hClosed.1 hOpen
            · exact absurd hClosed.2 hOpen
          | clash hName hOlder =>
            exact .inl ⟨_, (names_run hRun).subset hName, hOlder, rfl⟩
        next => cases hRun

end Runs

end Reading

end TypedSteps
