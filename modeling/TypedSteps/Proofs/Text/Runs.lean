import TypedSteps.Proofs.Builtin.Shapes

/-!
# Runs of characters

The runs of characters with a property are the stretches of a text that consist of such
characters and have none of them right before or after.

* `runsOf` — the runs of a text, in order;
* `runsOf_append_of_closesOutside`, `runsOf_append_of_opensOutside` — where a text is cut outside of
  a run, its parts have their own runs;
* `mem_runsOf_iff` — the runs are the stretches that cannot be extended.
-/

namespace TypedSteps

/-- The runs of characters with the property `p`: what stands between the characters without it,
where that is not empty. -/
def runsOf (p : Char → Bool) (cs : List Char) : List (List Char) :=
  (cs.splitOnP fun c => !p c).filter (!·.isEmpty)

/-- No character with the property `p` comes last in a text. -/
def ClosesOutside (p : Char → Bool) (cs : List Char) : Prop :=
  ∀ c, cs.getLast? = some c → p c = false

/-- No character with the property `p` comes first in a text. -/
def OpensOutside (p : Char → Bool) (cs : List Char) : Prop :=
  ∀ c, cs.head? = some c → p c = false

section Runs

variable {p : Char → Bool} {xs ys cs v : List Char}

/-- The last character is that of the second text, unless that is empty. -/
theorem closesOutside_append_iff :
    ClosesOutside p (xs ++ ys) ↔ ClosesOutside p ys ∧ (ys = [] → ClosesOutside p xs) := by
  -- only whether the second text has a last character counts
  rcases List.eq_nil_or_concat ys with rfl | ⟨front, c, rfl⟩
  · rw [List.append_nil]
    exact ⟨fun h => ⟨nofun, fun _ => h⟩, fun h => h.2 rfl⟩
  · rw [List.concat_eq_append, ← List.append_assoc, ClosesOutside, ClosesOutside,
      List.getLast?_concat, List.getLast?_concat]
    exact (and_iff_left fun hNil => absurd hNil (by simp)).symm

/-- The first character is that of the first text, unless that is empty. -/
theorem opensOutside_append_iff :
    OpensOutside p (xs ++ ys) ↔ OpensOutside p xs ∧ (xs = [] → OpensOutside p ys) := by
  cases xs with
  | nil => exact ⟨fun h => ⟨nofun, fun _ => h⟩, fun h => h.2 rfl⟩
  | cons c xs => exact (and_iff_left fun hNil => nomatch hNil).symm

/-- A run ends with a character that has the property. -/
theorem Run.not_closesOutside (h : Run p v) : ¬ ClosesOutside p v := by
  intro hCloses
  have hLast := hCloses _ (List.getLast?_eq_some_getLast h.1)
  rw [h.2 _ (List.getLast_mem h.1)] at hLast
  cases hLast

/-- A run begins with a character that has the property. -/
theorem Run.not_opensOutside (h : Run p v) : ¬ OpensOutside p v := by
  intro hOpens
  obtain ⟨c, rest, rfl⟩ := List.exists_cons_of_ne_nil h.1
  have hFirst := hOpens c rfl
  rw [h.2 c List.mem_cons_self] at hFirst
  cases hFirst

/-- A character without the property closes what stands before it, whatever that is. -/
theorem ClosesOutside.append_cons (h : ClosesOutside p ys) {c : Char} (hc : p c = false)
    (xs : List Char) : ClosesOutside p (xs ++ c :: ys) := by
  intro d hd
  rw [List.getLast?_append, List.getLast?_cons, Option.some_or] at hd
  cases hLast : ys.getLast? with
  | none =>
    rw [hLast] at hd
    obtain rfl : c = d := Option.some.inj hd
    exact hc
  | some e =>
    rw [hLast] at hd
    obtain rfl : e = d := Option.some.inj hd
    exact h e hLast

theorem runsOf_nil (p : Char → Bool) : runsOf p [] = [] := by
  rw [runsOf, List.splitOnP_nil]
  rfl

/-- A character without the property stands between the runs on both sides. -/
theorem runsOf_append_cons {c : Char} (hc : p c = false) (xs ys : List Char) :
    runsOf p (xs ++ c :: ys) = runsOf p xs ++ runsOf p ys := by
  have hSep : (!p c) = true := by rw [hc, Bool.not_false]
  rw [runsOf, List.splitOnP_append_cons xs ys hSep, List.filter_append]
  rfl

/-- A character without the property may be dropped in front. -/
theorem runsOf_cons {c : Char} (hc : p c = false) (cs : List Char) :
    runsOf p (c :: cs) = runsOf p cs := by
  have hCut := runsOf_append_cons hc [] cs
  rwa [runsOf_nil] at hCut

/-- A text may be cut behind a character without the property. -/
theorem runsOf_append_of_closesOutside (h : ClosesOutside p xs) :
    runsOf p (xs ++ ys) = runsOf p xs ++ runsOf p ys := by
  rcases List.eq_nil_or_concat xs with rfl | ⟨front, c, rfl⟩
  · rw [runsOf_nil]
    rfl
  · rw [List.concat_eq_append] at h ⊢
    have hc : p c = false := h c List.getLast?_concat
    rw [List.append_assoc, List.singleton_append, runsOf_append_cons hc, runsOf_append_cons hc,
      runsOf_nil, List.append_nil]

/-- A text may be cut before a character without the property. -/
theorem runsOf_append_of_opensOutside (h : OpensOutside p ys) :
    runsOf p (xs ++ ys) = runsOf p xs ++ runsOf p ys := by
  cases ys with
  | nil => rw [runsOf_nil, List.append_nil, List.append_nil]
  | cons c ys =>
    have hc : p c = false := h c rfl
    rw [runsOf_append_cons hc, runsOf_cons hc]

/-- A run has itself as its only run. -/
theorem runsOf_of_run (h : Run p v) : runsOf p v = [v] := by
  -- nothing separates, so the text is its only piece
  have hNone : ∀ c ∈ v, (!p c) = false := by
    intro c hc
    rw [h.2 c hc, Bool.not_true]
  rw [runsOf, List.splitOnP_eq_singleton hNone, List.filter_eq_self, List.forall_mem_singleton,
    Bool.not_eq_true', List.isEmpty_eq_false_iff]
  exact h.1

/-- Where no character has the property there is no run. -/
theorem runsOf_eq_nil (h : ∀ c ∈ cs, p c = false) : runsOf p cs = [] := by
  induction cs with
  | nil => exact runsOf_nil p
  | cons c cs ih =>
    obtain ⟨hc, hcs⟩ := List.forall_mem_cons.mp h
    rw [runsOf_cons hc, ih hcs]

/-- A run that cannot be extended is one of the runs of the text. -/
theorem runsOf_append_run_append (hBefore : ClosesOutside p xs) (hv : Run p v)
    (hAfter : OpensOutside p ys) :
    runsOf p (xs ++ v ++ ys) = runsOf p xs ++ v :: runsOf p ys := by
  rw [List.append_assoc, runsOf_append_of_closesOutside hBefore,
    runsOf_append_of_opensOutside hAfter, runsOf_of_run hv]
  rfl

/-- A text consists of characters with the property, or it goes on behind one without it. -/
theorem all_or_exists_first (p : Char → Bool) (cs : List Char) :
    (∀ c ∈ cs, p c = true) ∨
      ∃ xs c ys, cs = xs ++ c :: ys ∧ (∀ d ∈ xs, p d = true) ∧ p c = false := by
  induction cs with
  | nil => exact .inl (List.forall_mem_nil _)
  | cons d cs ih =>
    cases hd : p d with
    | false => exact .inr ⟨[], d, cs, rfl, List.forall_mem_nil _, hd⟩
    | true =>
      rcases ih with hAll | ⟨xs, c, ys, rfl, hxs, hc⟩
      · exact .inl (List.forall_mem_cons.mpr ⟨hd, hAll⟩)
      · exact .inr ⟨d :: xs, c, ys, rfl, List.forall_mem_cons.mpr ⟨hd, hxs⟩, hc⟩

/-- A text whose characters all have the property is its own run, unless it is empty. -/
theorem mem_runsOf_of_all (h : ∀ c ∈ cs, p c = true) : v ∈ runsOf p cs ↔ v = cs ∧ cs ≠ [] := by
  by_cases hcs : cs = []
  · rw [hcs, runsOf_nil]
    exact iff_of_false List.not_mem_nil fun hv => hv.2 rfl
  · rw [runsOf_of_run ⟨hcs, h⟩, List.mem_singleton, and_iff_left hcs]

/-- **The runs of a text** are its stretches of characters with the property that cannot be
extended. -/
theorem mem_runsOf_iff :
    v ∈ runsOf p cs ↔
      ∃ before after, cs = before ++ v ++ after ∧ Run p v ∧ ClosesOutside p before ∧
        OpensOutside p after := by
  constructor
  · intro hv
    -- what follows the first character without the property is shorter
    induction hLength : cs.length using Nat.strongRecOn generalizing cs with
    | ind n ih =>
      rcases all_or_exists_first p cs with hAll | ⟨xs, c, ys, rfl, hxs, hc⟩
      · obtain ⟨rfl, hne⟩ := (mem_runsOf_of_all hAll).mp hv
        exact ⟨[], [], by simp, ⟨hne, hAll⟩, nofun, nofun⟩
      · rw [runsOf_append_cons hc, List.mem_append, mem_runsOf_of_all hxs] at hv
        rcases hv with ⟨rfl, hne⟩ | hv
        · refine ⟨[], c :: ys, rfl, ⟨hne, hxs⟩, nofun, ?_⟩
          rintro d ⟨⟩
          exact hc
        · -- the run stands behind the character `c`, which closes what comes before it
          rw [List.length_append, List.length_cons] at hLength
          obtain ⟨before, after, rfl, hRun, hBefore, hAfter⟩ := ih ys.length (by omega) hv rfl
          exact ⟨xs ++ c :: before, after, by simp, hRun, hBefore.append_cons hc xs, hAfter⟩
  · rintro ⟨before, after, rfl, hRun, hBefore, hAfter⟩
    rw [runsOf_append_run_append hBefore hRun hAfter]
    exact List.mem_append_right _ List.mem_cons_self

example : runsOf Char.isDigit "a12b3".toList = ["12".toList, "3".toList] := by decide

end Runs

end TypedSteps
