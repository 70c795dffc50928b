import TypedSteps.Proofs.Regex.CodeChoices

/-!
# All matches of a text

Matches are looked for one after the other, each from the end of the one before. Where no match
is empty, the matches of a text are determined: each begins at the leftmost place that is left
and is the one that the expression prefers there, and after the last there is no place left.

* `Finds` — the matches from a place on;
* `finds_allMatches` — the matches of a text are these.
-/

namespace TypedSteps

section AllMatches

variable {r : Regex} {text : Array Char}

/-- A match of the expression begins at a place. -/
def Regex.Begins (r : Regex) (text : Array Char) (i : Nat) : Prop :=
  ∃ j w, r.meaning text i j w

/-- The matches of an expression from a place on: each begins at the leftmost place from which
there is one, and is the one that is preferred there. -/
def Finds (r : Regex) (text : Array Char) : Nat → List Match → Prop
  | start, [] => ∀ i, start ≤ i → i ≤ text.size → ¬ r.Begins text i
  | start, m :: ms =>
    ∃ i j w, start ≤ i ∧ i ≤ text.size ∧
      (∀ i', start ≤ i' → i' < i → ¬ r.Begins text i') ∧
      (r.choice text).first (fun _ => True) i j w ∧ m.slots = (1, j) :: w ++ [(0, i)] ∧
      Finds r text j ms

/-- The search for the next match finds the first one where that is not empty: then it cannot end
where the last one did. -/
theorem findAfter_eq_find {prog : Program} {start : Nat} {last : Option Nat} {m : Match}
    (hLast : ∀ l, last = some l → l < m.stop) (h : prog.find text start = some m) :
    prog.findAfter text start last = some m := by
  have hOther : (last == some m.stop) = false := by
    refine beq_eq_false_iff_ne.mpr fun heq => ?_
    exact Nat.lt_irrefl _ (hLast m.stop heq)
  simp only [Program.findAfter, h, hOther, Bool.and_false, Bool.false_eq_true, if_false]

/-- The matches that are collected are those of the text, if none of them is empty. -/
theorem finds_matchesWithin (hr : r.loopsConsume = true)
    (hAdvances : ∀ {i j w}, r.meaning text i j w → i < j) {fuel start : Nat} {last : Option Nat}
    (hFuel : text.size < fuel + start) (hLast : ∀ l, last = some l → l ≤ start) :
    Finds r text start (r.program.matchesWithin text fuel start last) := by
  -- each match ends further to the right, which pays for the fuel
  induction fuel generalizing start last with
  | zero =>
    intro i hStart hSize
    omega
  | succ fuel ih =>
    rw [Program.matchesWithin]
    cases hFind : r.program.find text start with
    | none =>
      rw [Program.findAfter, hFind]
      rintro i hStart hSize ⟨j, w, hMeaning⟩
      exact find_program_eq_none hFind hStart hSize hMeaning
    | some m =>
      obtain ⟨i, j, w, hStart, hSize, hLeft, hFirst, hSlots⟩ := Regex.find_program_first hr hFind
      have hStop : m.stop = j := by
        rw [Match.stop, Match.slot?, hSlots]
        rfl
      have hlt : i < j := by
        have hCan := ((r.choice text).sound hFirst).1
        rw [Regex.can_choice] at hCan
        exact hAdvances hCan
      -- a match that is not empty is taken wherever the last one ended
      have hAfter : r.program.findAfter text start last = some m := by
        refine findAfter_eq_find (fun l hl => ?_) hFind
        have hle := hLast l hl
        omega
      rw [hAfter]
      refine ⟨i, j, w, hStart, hSize, hLeft, hFirst, hSlots, ?_⟩
      rw [hStop]
      refine ih (by omega) fun l hl => ?_
      exact Nat.le_of_eq (Option.some.inj hl).symm

/-- **The matches of a text** are the leftmost ones that do not overlap, each the preferred one
in its place. -/
theorem finds_allMatches (hr : r.loopsConsume = true)
    (hAdvances : ∀ {i j w}, r.meaning text i j w → i < j) :
    Finds r text 0 (r.program.allMatches text) :=
  finds_matchesWithin hr hAdvances (Nat.lt_succ_self _) nofun

end AllMatches

end TypedSteps
