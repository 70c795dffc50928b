import TypedSteps.Language.Scopes

/-!
# Language scopes over whole runs

Languages are selected, and scopes opened and closed, in any order. A scope notes what was
in force when it was opened and puts that back when it is closed. So as long as scopes are
closed in the reverse order of opening, the newest open scope is in force; in any other
order the scope that is closed last decides what stays in force after all are closed.

* `ScopeEvent`, `ScopeRun`, `ScopeRun.state` — what can happen, and what it leads to;
* `ScopeRun.live`, `ScopeRun.lastSelected` — the open scopes, and the last selection
  outside scopes;
* `ScopeRun.Known`, `known` — what every open scope has noted;
* `ScopeRun.Nested`, `innermost_scope_in_force` — runs that close the newest scope first;
* `what_closed_scopes_leave` — runs that close scopes in any order.
-/

namespace TypedSteps

-- ---------------------------------------------------------------------------
-- Runs
-- ---------------------------------------------------------------------------

/-- What can happen to the languages in force. -/
inductive ScopeEvent where
  /-- Languages are selected outside scopes. -/
  | selected (tags : List String)
  /-- A scope with languages of its own is opened. -/
  | opened (tags : List String)
  /-- The scope with the given number is closed. -/
  | closed (index : Nat)
  deriving DecidableEq, Repr

/-- What happened so far, the newest event first. -/
abbrev ScopeRun := List ScopeEvent

namespace ScopeRun

/-- The selection and the scopes after a run. Closing a scope that is not open changes
nothing. -/
def state : ScopeRun → Scopes
  | [] => .initial
  | .selected tags :: earlier => (state earlier).select tags
  | .opened tags :: earlier => (state earlier).openScope tags
  | .closed index :: earlier => ((state earlier).closeScope? index).getD (state earlier)

/-- The languages last selected outside scopes, English at first. -/
def lastSelected : ScopeRun → List Language
  | [] => [.english]
  | .selected tags :: _ => Language.select tags
  | .opened _ :: earlier => lastSelected earlier
  | .closed _ :: earlier => lastSelected earlier

/-- The number of scopes opened so far, which is the number of the next one. -/
def count : ScopeRun → Nat
  | [] => 0
  | .selected _ :: earlier => count earlier
  | .opened _ :: earlier => count earlier + 1
  | .closed _ :: earlier => count earlier

/-- The open scopes, the newest first: their numbers and their languages. -/
def live : ScopeRun → List (Nat × List Language)
  | [] => []
  | .selected _ :: earlier => live earlier
  | .opened tags :: earlier => (count earlier, Language.select tags) :: live earlier
  | .closed index :: earlier => (live earlier).filter (·.1 ≠ index)

/-- The numbers of the open scopes, the newest first. -/
def liveNumbers (run : ScopeRun) : List Nat :=
  run.live.map (·.1)

/-- What had happened when the scope with a number was opened. -/
def before (index : Nat) : ScopeRun → ScopeRun
  | [] => []
  | .selected _ :: earlier => before index earlier
  | .opened _ :: earlier => if count earlier = index then earlier else before index earlier
  | .closed _ :: earlier => before index earlier

section Runs

variable {run : ScopeRun} {index : Nat} {tags : List String}

theorem liveNumbers_opened : liveNumbers (.opened tags :: run) = run.count :: run.liveNumbers := rfl

/-- A scope that is closed is open no more, and the others stay as they are. -/
theorem mem_liveNumbers_closed {i : Nat} :
    i ∈ liveNumbers (.closed index :: run) ↔ i ∈ run.liveNumbers ∧ i ≠ index := by
  simp only [liveNumbers, live, List.mem_map, List.mem_filter, decide_eq_true_eq]
  constructor
  · rintro ⟨scope, ⟨hScope, hne⟩, rfl⟩
    exact ⟨⟨scope, hScope, rfl⟩, hne⟩
  · rintro ⟨⟨scope, hScope, rfl⟩, hne⟩
    exact ⟨scope, ⟨hScope, hne⟩, rfl⟩

/-- Open scopes have been opened. -/
theorem lt_count_of_mem (h : index ∈ run.liveNumbers) : index < run.count := by
  induction run with
  | nil => cases h
  | cons event earlier ih =>
    cases event with
    | selected tags => exact ih h
    | opened tags =>
      rw [liveNumbers_opened, List.mem_cons] at h
      rcases h with rfl | h
      · exact Nat.lt_succ_self _
      · exact Nat.lt_succ_of_lt (ih h)
    | closed i => exact ih (mem_liveNumbers_closed.mp h).1

/-- When a scope was opened is an earlier point of the run. -/
theorem before_suffix (index : Nat) (run : ScopeRun) : run.before index <:+ run := by
  induction run with
  | nil => exact List.suffix_rfl
  | cons event earlier ih =>
    cases event with
    | selected tags => exact ih.trans (List.suffix_cons ..)
    | closed i => exact ih.trans (List.suffix_cons ..)
    | opened tags =>
      rw [before]
      split
      · exact List.suffix_cons ..
      · exact ih.trans (List.suffix_cons ..)

/-- The languages that are selected outside of scopes are those selected last. -/
theorem selected_state (run : ScopeRun) : run.state.selected = run.lastSelected := by
  induction run with
  | nil => rfl
  | cons event earlier ih =>
    cases event with
    | selected tags => rfl
    | opened tags => exact ih
    | closed i =>
      rw [state, lastSelected, ← ih, Scopes.closeScope?]
      split
      · rfl
      · rfl

/-- Each scope that was opened has its entry, closed or not. -/
theorem length_scopes (run : ScopeRun) : run.state.scopes.length = run.count := by
  induction run with
  | nil => rfl
  | cons event earlier ih =>
    cases event with
    | selected tags => exact ih
    | opened tags =>
      rw [state, Scopes.openScope, List.length_append, ih]
      rfl
    | closed i =>
      rw [state, count, ← ih, Scopes.closeScope?]
      split
      · exact List.length_set
      · rfl

end Runs

-- ---------------------------------------------------------------------------
-- What scopes have noted
-- ---------------------------------------------------------------------------

/-- The scopes of a run are known: an open scope has noted what was in force before it,
and no other scope is open. -/
structure Known (run : ScopeRun) : Prop where
  live : ∀ i ∈ run.liveNumbers,
    run.state.scopes[i]? = some ⟨(run.before i).state.override, true⟩
  closed : ∀ i previous, i ∉ run.liveNumbers → run.state.scopes[i]? ≠ some ⟨previous, true⟩

section Noted

variable {run : ScopeRun} {index : Nat}

/-- Closing an open scope puts back what was in force when it was opened. -/
theorem Known.state_closed (h : run.Known) (hLive : index ∈ run.liveNumbers) :
    state (.closed index :: run) =
      { run.state with
        override := (run.before index).state.override
        scopes := run.state.scopes.set index ⟨none, false⟩ } := by
  rw [state, Scopes.closeScope?, h.live index hLive]
  rfl

/-- Closing a scope that is not open changes nothing. -/
theorem Known.state_closed_of_notMem (h : run.Known) (hClosed : index ∉ run.liveNumbers) :
    state (.closed index :: run) = run.state := by
  rw [state, Scopes.closeScope?]
  split
  next previous hScope => exact absurd hScope (h.closed index previous hClosed)
  next => rfl

/-- What is known of the scopes stays true when another one is opened. -/
theorem Known.opened (h : run.Known) (tags : List String) :
    Known (.opened tags :: run) where
  live i hi := by
    have hLength := length_scopes run
    rw [liveNumbers_opened, List.mem_cons] at hi
    show (run.state.scopes ++ [⟨run.state.override, true⟩])[i]? = _
    rw [before]
    -- the new scope is the last entry, the others keep theirs
    rcases hi with rfl | hi
    · rw [if_pos rfl, List.getElem?_append_right (Nat.le_of_eq hLength), hLength, Nat.sub_self]
      rfl
    · have hlt := lt_count_of_mem hi
      rw [if_neg (Nat.ne_of_gt hlt), List.getElem?_append_left (by rwa [hLength])]
      exact h.live i hi
  closed i previous hi := by
    have hLength := length_scopes run
    rw [liveNumbers_opened, List.mem_cons, not_or] at hi
    obtain ⟨hNew, hOld⟩ := hi
    show (run.state.scopes ++ [⟨run.state.override, true⟩])[i]? ≠ _
    rcases Nat.lt_or_ge i run.count with hlt | hge
    · rw [List.getElem?_append_left (by rwa [hLength])]
      exact h.closed i previous hOld
    · have hNone : (run.state.scopes ++ [⟨run.state.override, true⟩])[i]? = none := by
        rw [List.getElem?_eq_none_iff, List.length_append, hLength]
        exact Nat.lt_of_le_of_ne hge (Ne.symm hNew)
      rw [hNone]
      nofun

/-- What is known of the scopes stays true when one is closed. -/
theorem Known.closed_event (h : run.Known) (index : Nat) : Known (.closed index :: run) := by
  -- a scope that is not open cannot be closed again, so the state stays as it is
  by_cases hIndex : index ∈ run.liveNumbers
  · have hlt : index < run.state.scopes.length := by
      rw [length_scopes]
      exact lt_count_of_mem hIndex
    refine ⟨fun i hi => ?_, fun i previous hi => ?_⟩
    · obtain ⟨hi, hne⟩ := mem_liveNumbers_closed.mp hi
      rw [h.state_closed hIndex, List.getElem?_set_ne (Ne.symm hne)]
      exact h.live i hi
    · rw [h.state_closed hIndex]
      by_cases hne : i = index
      · subst hne
        rw [List.getElem?_set_self hlt]
        simp
      · rw [List.getElem?_set_ne (Ne.symm hne)]
        exact h.closed i previous fun hMem => hi (mem_liveNumbers_closed.mpr ⟨hMem, hne⟩)
  · refine ⟨fun i hi => ?_, fun i previous hi => ?_⟩
    · rw [h.state_closed_of_notMem hIndex]
      exact h.live i (mem_liveNumbers_closed.mp hi).1
    · rw [h.state_closed_of_notMem hIndex]
      refine h.closed i previous fun hMem => hi (mem_liveNumbers_closed.mpr ⟨hMem, ?_⟩)
      rintro rfl
      exact hIndex hMem

/-- At every point of every run the scopes are known. -/
theorem known (run : ScopeRun) : run.Known := by
  induction run with
  | nil =>
    refine ⟨fun i hi => ?_, fun i previous _ => ?_⟩
    · cases hi
    · nofun
  | cons event earlier ih =>
    cases event with
    | selected tags => exact { live := ih.live, closed := ih.closed }
    | opened tags => exact ih.opened tags
    | closed i => exact ih.closed_event i

/-- The languages of a scope are those of some scope that was opened. -/
theorem exists_opened_of_override {languages : List Language} :
    ∀ run : ScopeRun, run.state.override = some languages →
      ∃ tags, .opened tags ∈ run ∧ languages = Language.select tags
  | [], h => by cases h
  | .selected _ :: earlier, h => by
    obtain ⟨tags, hMem, heq⟩ := exists_opened_of_override earlier h
    exact ⟨tags, List.mem_cons_of_mem _ hMem, heq⟩
  | .opened tags :: earlier, h => ⟨tags, List.mem_cons_self, (Option.some.inj h).symm⟩
  | .closed index :: earlier, h => by
    by_cases hLive : index ∈ liveNumbers earlier
    · -- what is put back was in force at an earlier point of the run
      have hShorter : (before index earlier).length < earlier.length + 1 :=
        Nat.lt_succ_of_le (before_suffix index earlier).length_le
      rw [(known earlier).state_closed hLive] at h
      obtain ⟨tags, hMem, heq⟩ := exists_opened_of_override (before index earlier) h
      exact ⟨tags, List.mem_cons_of_mem _ ((before_suffix index earlier).mem hMem), heq⟩
    · rw [(known earlier).state_closed_of_notMem hLive] at h
      obtain ⟨tags, hMem, heq⟩ := exists_opened_of_override earlier h
      exact ⟨tags, List.mem_cons_of_mem _ hMem, heq⟩
termination_by run => run.length

end Noted

-- ---------------------------------------------------------------------------
-- Scopes closed in the reverse order of opening
-- ---------------------------------------------------------------------------

/-- Every scope that was closed was the newest one that was open. -/
def Nested : ScopeRun → Prop
  | [] => True
  | .selected _ :: earlier => Nested earlier
  | .opened _ :: earlier => Nested earlier
  | .closed index :: earlier => (liveNumbers earlier).head? = some index ∧ Nested earlier

/-- The languages of the newest open scope, and those last selected outside scopes where no
scope is open. -/
def innermost (run : ScopeRun) : List Language :=
  match run.live with
  | [] => run.lastSelected
  | (_, languages) :: _ => languages

section Nested

variable {run : ScopeRun} {index : Nat} {languages : List Language}
  {rest : List (Nat × List Language)}

/-- The earlier points of a nested run are nested. -/
theorem Nested.of_suffix {point : ScopeRun} (h : run.Nested) (hPoint : point <:+ run) :
    point.Nested := by
  induction run with
  | nil =>
    rw [List.suffix_nil.mp hPoint]
    exact h
  | cons event earlier ih =>
    rcases List.suffix_cons_iff.mp hPoint with rfl | hTail
    · exact h
    · cases event with
      | selected tags => exact ih h hTail
      | opened tags => exact ih h hTail
      | closed i => exact ih h.2 hTail

/-- The newer an open scope, the higher its number. -/
theorem pairwise_liveNumbers (run : ScopeRun) : run.liveNumbers.Pairwise (· > ·) := by
  induction run with
  | nil => exact List.Pairwise.nil
  | cons event earlier ih =>
    cases event with
    | selected tags => exact ih
    | opened tags => exact List.pairwise_cons.mpr ⟨fun i hi => lt_count_of_mem hi, ih⟩
    | closed i => exact ih.sublist (List.filter_sublist.map _)

/-- Closing the newest open scope leaves the others open. -/
theorem live_closed (h : run.live = (index, languages) :: rest) :
    live (.closed index :: run) = rest := by
  have hPairwise := pairwise_liveNumbers run
  rw [liveNumbers, h, List.map_cons, List.pairwise_cons] at hPairwise
  rw [live, h, List.filter_cons_of_neg (by simp), List.filter_eq_self]
  intro scope hScope
  have hlt : scope.1 < index := hPairwise.1 _ (List.mem_map_of_mem hScope)
  exact decide_eq_true (Nat.ne_of_lt hlt)

/-- In a nested run the innermost scope is closed. -/
theorem Nested.exists_live (h : Nested (.closed index :: run)) :
    ∃ languages rest, run.live = (index, languages) :: rest := by
  have hHead : run.liveNumbers.head? = some index := h.1
  rw [liveNumbers, List.head?_map, Option.map_eq_some_iff] at hHead
  obtain ⟨⟨i, languages⟩, hHead, rfl⟩ := hHead
  obtain ⟨rest, hRest⟩ := List.head?_eq_some_iff.mp hHead
  exact ⟨languages, rest, hRest⟩

/-- When an open scope was opened just the scopes older than it were open: those opened in
the meantime have been closed or are open still. -/
theorem Nested.live_before (h : run.Nested) (newer : List (Nat × List Language))
    (hLive : run.live = newer ++ (index, languages) :: rest) : (run.before index).live = rest := by
  induction run generalizing newer with
  | nil => exact absurd hLive.symm (by simp [live])
  | cons event earlier ih =>
    cases event with
    | selected tags => exact ih h newer hLive
    | opened tags =>
      rw [before]
      cases newer with
      -- the scope was opened by this very event
      | nil =>
        obtain ⟨hFirst, hRest⟩ := List.cons.inj hLive
        rw [if_pos (Prod.mk.inj hFirst).1, hRest]
      | cons first newer =>
        have hEarlier : live earlier = newer ++ (index, languages) :: rest :=
          (List.cons.inj hLive).2
        have hMem : index ∈ liveNumbers earlier := by
          rw [liveNumbers, hEarlier]
          simp
        rw [if_neg (Nat.ne_of_gt (lt_count_of_mem hMem))]
        exact ih h newer hEarlier
    | closed i =>
      -- the scope that was closed here was open before, inside of those that are open now
      obtain ⟨languages', rest', hEarlier⟩ := h.exists_live
      rw [live_closed hEarlier] at hLive
      rw [hLive] at hEarlier
      exact ih h.2 ((i, languages') :: newer) hEarlier

/-- While scopes are closed newest first, the newest open scope is in force. -/
theorem Nested.override_state : ∀ {run : ScopeRun}, run.Nested →
    run.state.override = run.live.head?.map (·.2)
  | [], _ => rfl
  | .selected _ :: earlier, h => @Nested.override_state earlier h
  | .opened _ :: _, _ => rfl
  | .closed index :: earlier, h => by
    obtain ⟨languages, rest, hLive⟩ := h.exists_live
    have hMem : index ∈ liveNumbers earlier := by
      rw [liveNumbers, hLive]
      exact List.mem_cons_self
    have hShorter : (before index earlier).length < earlier.length + 1 :=
      Nat.lt_succ_of_le (before_suffix index earlier).length_le
    -- the scope puts back what was in force when the scopes older than it were open
    rw [(known earlier).state_closed hMem, live_closed hLive,
      ← h.2.live_before [] hLive]
    exact Nested.override_state (h.2.of_suffix (before_suffix index earlier))
termination_by run => run.length

/-- In a nested run the innermost scope is in force. -/
theorem Nested.current_state (h : run.Nested) : run.state.current = run.innermost := by
  rw [Scopes.current, h.override_state, selected_state, innermost]
  cases run.live with
  | nil => rfl
  | cons scope rest => rfl

end Nested

-- ---------------------------------------------------------------------------
-- Scopes closed in any order
-- ---------------------------------------------------------------------------

/-- The number of the scope that was closed last. -/
def lastClosed? : ScopeRun → Option Nat
  | [] => none
  | .selected _ :: earlier => lastClosed? earlier
  | .opened _ :: earlier => lastClosed? earlier
  | .closed index :: earlier =>
    if index ∈ liveNumbers earlier then some index else lastClosed? earlier

section AnyOrder

variable {run : ScopeRun} {index : Nat}

/-- To close a scope that is not open changes nothing. -/
theorem live_closed_of_notMem (h : index ∉ run.liveNumbers) :
    live (.closed index :: run) = run.live := by
  rw [live, List.filter_eq_self]
  intro scope hScope
  refine decide_eq_true ?_
  rintro rfl
  exact h (List.mem_map_of_mem hScope)

/-- Once no scope is open, what is in force is what was in force when the scope that was
closed last was opened. -/
theorem override_of_live_eq_nil (h : run.live = []) :
    run.state.override = run.lastClosed?.bind fun i => (run.before i).state.override := by
  induction run with
  | nil => rfl
  | cons event earlier ih =>
    cases event with
    | selected tags => exact ih h
    | opened tags => exact absurd h (List.cons_ne_nil _ _)
    | closed i =>
      rw [lastClosed?]
      by_cases hi : i ∈ liveNumbers earlier
      · rw [(known earlier).state_closed hi, if_pos hi]
        rfl
      · rw [live_closed_of_notMem hi] at h
        rw [(known earlier).state_closed_of_notMem hi, if_neg hi]
        exact ih h

/-- If no scope is open and none was closed, none was opened. -/
theorem count_of_lastClosed?_eq_none (h : run.live = []) (hNone : run.lastClosed? = none) :
    run.count = 0 := by
  induction run with
  | nil => rfl
  | cons event earlier ih =>
    cases event with
    | selected tags => exact ih h hNone
    | opened tags => exact absurd h (List.cons_ne_nil _ _)
    | closed i =>
      rw [lastClosed?] at hNone
      by_cases hi : i ∈ liveNumbers earlier
      · rw [if_pos hi] at hNone
        cases hNone
      · rw [live_closed_of_notMem hi] at h
        rw [if_neg hi] at hNone
        exact ih h hNone

end AnyOrder

end ScopeRun

open ScopeRun

/-- **Nested scopes select the innermost languages at every moment.** Take any run in which
scopes are closed in the reverse order of opening, with selections outside scopes anywhere in
between. At every point of it the languages in force, and the language of all messages, are
those of the newest scope that is open; where none is open, those last selected outside scopes,
also when that was done while a scope was open; and English where nothing was selected. -/
theorem innermost_scope_in_force {run : ScopeRun} (h : run.Nested) {point : ScopeRun}
    (hPoint : point <:+ run) :
    point.state.current = point.innermost ∧
      point.state.language = Language.first point.innermost := by
  have hCurrent := (h.of_suffix hPoint).current_state
  refine ⟨hCurrent, ?_⟩
  rw [Scopes.language, hCurrent]

/-- Two scopes, one inside the other, and a selection that is made while one is open. -/
def nestedScopes : ScopeRun :=
  [.closed 0, .selected ["fr"], .closed 1, .opened ["fr"], .opened ["en-US", "fr"]]

/-- The inner scope, the outer one again, and in the end the selection made inside it. -/
theorem innermost_scope_in_force_nestedScopes :
    nestedScopes.Nested ∧
    (state (nestedScopes.drop 3)).current = [.french, .english] ∧
    (state (nestedScopes.drop 1)).current = [.english, .french] ∧
    (state nestedScopes).current = [.french, .english] ∧
    (state nestedScopes).language = .french := by
  have hNested : nestedScopes.Nested := ⟨rfl, rfl, trivial⟩
  have hInner := innermost_scope_in_force hNested (List.drop_suffix 3 _)
  have hOuter := innermost_scope_in_force hNested (List.drop_suffix 1 _)
  have hEnd := innermost_scope_in_force hNested List.suffix_rfl
  refine ⟨hNested, ?_, ?_, ?_, ?_⟩
  · rw [hInner.1]
    decide +kernel
  · rw [hOuter.1]
    decide +kernel
  · rw [hEnd.1]
    decide +kernel
  · rw [hEnd.2]
    decide +kernel

/-- **What closed scopes leave behind.** Take any run, with scopes closed in any order, at whose
end no scope is open. What was selected outside scopes is in force again just if it was in force
when the scope that was closed last was opened, or no scope was opened at all. Otherwise the
languages of a closed scope stay in force: those that were in force when the scope that was
closed last was opened. -/
theorem what_closed_scopes_leave {run : ScopeRun} (h : run.live = []) :
    (run.state.override = none ↔
      ∀ i, run.lastClosed? = some i → (run.before i).state.override = none) ∧
    (run.lastClosed? = none → run.count = 0) ∧
    (run.state.override = none → run.state.current = run.lastSelected) ∧
    ∀ languages, run.state.override = some languages →
      run.state.current = languages ∧
      (∃ i, run.lastClosed? = some i ∧ (run.before i).state.override = some languages) ∧
      ∃ tags, .opened tags ∈ run ∧ languages = Language.select tags := by
  have hOverride := override_of_live_eq_nil h
  refine ⟨?_, count_of_lastClosed?_eq_none h, ?_, ?_⟩
  · rw [hOverride, Option.bind_eq_none_iff]
  · intro hNone
    rw [Scopes.current, hNone, Option.getD_none, selected_state]
  · intro languages hSome
    refine ⟨?_, ?_, exists_opened_of_override run hSome⟩
    · rw [Scopes.current, hSome, Option.getD_some]
    · rw [hOverride, Option.bind_eq_some_iff] at hSome
      exact hSome

/-- Two scopes that cross: the one opened first is closed first. -/
def crossingScopes : ScopeRun :=
  [.closed 1, .closed 0, .opened ["en-US"], .opened ["fr"]]

/-- After scopes have crossed, the languages of a closed scope stay in force. -/
theorem crossing_scopes_leave_languages :
    crossingScopes.live = [] ∧ crossingScopes.lastSelected = [.english] ∧
    crossingScopes.state.current = [.french, .english] := by
  decide +kernel

/-- The scope closed last was opened while French was in force. -/
theorem what_closed_scopes_leave_crossingScopes :
    crossingScopes.live = [] ∧
    crossingScopes.state.override = some [.french, .english] ∧
    (∃ i, crossingScopes.lastClosed? = some i ∧
      (crossingScopes.before i).state.override = some [.french, .english]) ∧
    ∃ tags, .opened tags ∈ crossingScopes ∧ [.french, .english] = Language.select tags := by
  have hLive : crossingScopes.live = [] := by decide +kernel
  have hOverride : crossingScopes.state.override = some [.french, .english] := by decide +kernel
  obtain ⟨-, -, -, hLeft⟩ := what_closed_scopes_leave hLive
  obtain ⟨-, hLast, hOpened⟩ := hLeft _ hOverride
  exact ⟨hLive, hOverride, hLast, hOpened⟩

end TypedSteps
