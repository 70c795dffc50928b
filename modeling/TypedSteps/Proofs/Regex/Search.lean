import TypedSteps.Proofs.Regex.Code

/-!
# What a search finds

A search marks what it has tried and never tries it again. That loses nothing: where a
thread goes depends on its instruction and its position alone, so what was tried and left
behind leads nowhere. A search that ends without a match has therefore seen that no thread
on its stack gets to acceptance.

* `Reached` — the places that were tried or wait on the stack;
* `Closed` — what was tried leads to such places;
* `Explored` — what a search comes to after one step;
* `explore_eq_some`, `explore_eq_none` — what the search says about the threads of its stack;
* `find_program_eq_some`, `find_program_eq_none` — the same for an expression;
* `MatchesFrom`, `matchesFrom_allMatches` — the matches of a text, one after the other.
-/

namespace TypedSteps

-- ---------------------------------------------------------------------------
-- Threads and places
-- ---------------------------------------------------------------------------

/-- Two threads are at the same instruction and the same position. -/
def SamePlace (t u : Thread) : Prop :=
  t.pc = u.pc ∧ t.pos = u.pos

/-- Where an instruction sends a thread depends on its place alone, and lies within the
text. -/
theorem next_spec {text : Array Char} {inst : Inst} {t u : Thread} (hu : u ∈ inst.next text t) :
    (∀ t', SamePlace t t' → ∃ u' ∈ inst.next text t', SamePlace u u') ∧
      (t.pos ≤ text.size → u.pos ≤ text.size) := by
  -- instructions look at the place of a thread and hand on its slots
  cases inst with
  | chars set =>
    cases hc : text[t.pos]? with
    | none => simp [Inst.next, hc] at hu
    | some c =>
      have hlt : t.pos < text.size := (Array.getElem?_eq_some_iff.mp hc).1
      by_cases hSet : set.contains c = true
      · simp only [Inst.next, hc, hSet, if_true, List.mem_singleton] at hu
        subst hu
        refine ⟨?_, fun _ => hlt⟩
        rintro t' ⟨hpc, hPos⟩
        rw [hPos] at hc
        exact ⟨⟨t'.pc + 1, t'.pos + 1, t'.slots⟩, by simp [Inst.next, hc, hSet], by simp [hpc],
          by simp [hPos]⟩
      · simp [Inst.next, hc, hSet] at hu
  | look assertion =>
    by_cases hHolds : assertion.holds (charBefore text t.pos) text[t.pos]? = true
    · simp only [Inst.next, hHolds, if_true, List.mem_singleton] at hu
      subst hu
      refine ⟨?_, fun h => h⟩
      rintro t' ⟨hpc, hPos⟩
      rw [hPos] at hHolds
      exact ⟨⟨t'.pc + 1, t'.pos, t'.slots⟩, by simp [Inst.next, hHolds], by simp [hpc], hPos⟩
    · simp [Inst.next, hHolds] at hu
  | save slot =>
    rw [Inst.next, List.mem_singleton] at hu
    subst hu
    refine ⟨?_, fun h => h⟩
    rintro t' ⟨hpc, hPos⟩
    exact ⟨_, List.mem_singleton.mpr rfl, congrArg (· + 1) hpc, hPos⟩
  | jump target =>
    rw [Inst.next, List.mem_singleton] at hu
    subst hu
    refine ⟨?_, fun h => h⟩
    rintro t' ⟨hpc, hPos⟩
    exact ⟨_, List.mem_singleton.mpr rfl, rfl, hPos⟩
  | split first second =>
    rw [Inst.next, List.mem_cons, List.mem_singleton] at hu
    rcases hu with rfl | rfl
    · refine ⟨?_, fun h => h⟩
      rintro t' ⟨hpc, hPos⟩
      exact ⟨_, List.mem_cons_self, rfl, hPos⟩
    · refine ⟨?_, fun h => h⟩
      rintro t' ⟨hpc, hPos⟩
      exact ⟨_, List.mem_cons_of_mem _ List.mem_cons_self, rfl, hPos⟩
  | accept => cases hu

/-- An instruction sends on at most two threads. -/
theorem length_next_le (text : Array Char) (t : Thread) (inst : Inst) :
    (inst.next text t).length ≤ 2 := by
  cases inst with
  | chars set =>
    rw [Inst.next]
    split
    · split <;> simp
    · simp
  | look assertion =>
    rw [Inst.next]
    split <;> simp
  | save | jump | split | accept => simp [Inst.next]

-- ---------------------------------------------------------------------------
-- Marks
-- ---------------------------------------------------------------------------

namespace Program

variable {prog : Program} {text : Array Char} {tried : Array Bool}

/-- The place of a thread was tried. -/
def Tried (text : Array Char) (tried : Array Bool) (t : Thread) : Prop :=
  tried.getD (cell text t.pc t.pos) true = true

/-- A cell of the marks belongs to one place. -/
theorem samePlace_of_cell_eq {t u : Thread} (ht : t.pos ≤ text.size) (hu : u.pos ≤ text.size)
    (h : cell text t.pc t.pos = cell text u.pc u.pos) : SamePlace t u := by
  have hMod : t.pos = u.pos := by
    have := congrArg (· % (text.size + 1)) h
    simpa [cell, Nat.mul_comm _ (text.size + 1), Nat.mul_add_mod,
      Nat.mod_eq_of_lt (Nat.lt_succ_of_le ht), Nat.mod_eq_of_lt (Nat.lt_succ_of_le hu)] using this
  refine ⟨?_, hMod⟩
  rw [cell, cell, hMod, Nat.add_right_cancel_iff] at h
  exact Nat.eq_of_mul_eq_mul_right (Nat.succ_pos _) h

/-- Marking the place of a thread marks that place and no other. -/
theorem tried_mark_iff {t u : Thread} (ht : t.pos ≤ text.size) (hu : u.pos ≤ text.size) :
    Tried text (tried.setIfInBounds (cell text t.pc t.pos) true) u ↔
      Tried text tried u ∨ SamePlace u t := by
  rw [Tried, Tried, Array.getD_eq_getD_getElem?, Array.getD_eq_getD_getElem?,
    Array.getElem?_setIfInBounds]
  by_cases hCell : cell text t.pc t.pos = cell text u.pc u.pos
  · have hSame : SamePlace u t := samePlace_of_cell_eq hu ht hCell.symm
    rw [if_pos hCell]
    refine ⟨fun _ => .inr hSame, fun _ => ?_⟩
    split <;> rfl
  · have hOther : ¬ SamePlace u t := by
      rintro ⟨hpc, hPos⟩
      exact hCell (by rw [hpc, hPos])
    rw [if_neg hCell, or_iff_left hOther]

/-- A mark lowers the number of places that were not tried. -/
theorem count_mark {here : Nat} (h : ¬ tried.getD here true = true) :
    (tried.setIfInBounds here true).count false + 1 = tried.count false := by
  have hlt : here < tried.size := by
    refine Nat.lt_of_not_le fun hle => h ?_
    rw [Array.getD_eq_getD_getElem?, Array.getElem?_eq_none hle]
    rfl
  have hFalse : tried[here] = false := by
    rw [Array.getD_eq_getD_getElem?, Array.getElem?_eq_getElem hlt, Option.getD_some] at h
    exact Bool.eq_false_iff.mpr h
  have hPos : 0 < tried.count false :=
    Array.count_pos_iff.mpr (hFalse ▸ Array.getElem_mem hlt)
  rw [Array.setIfInBounds_def, dif_pos hlt, Array.count_set hlt, hFalse]
  show tried.count false - 1 + 0 + 1 = tried.count false
  omega

/-- Places outside the program count as tried. -/
theorem exists_inst_of_not_tried {t : Thread} (hSize : tried.size = prog.size * (text.size + 1))
    (h : ¬ Tried text tried t) : ∃ inst, prog[t.pc]? = some inst := by
  have hpc : t.pc < prog.size := by
    refine Nat.lt_of_not_le fun hle => h ?_
    have hCell : tried.size ≤ cell text t.pc t.pos := by
      rw [hSize, cell]
      exact Nat.le_trans (Nat.mul_le_mul_right _ hle) (Nat.le_add_right _ _)
    rw [Tried, Array.getD_eq_getD_getElem?, Array.getElem?_eq_none hCell]
    rfl
  exact ⟨_, Array.getElem?_eq_getElem hpc⟩

/-- The place of a thread was tried, or waits on the stack to be tried. -/
def Reached (text : Array Char) (tried : Array Bool) (stack : List Thread) (t : Thread) : Prop :=
  Tried text tried t ∨ ∃ v ∈ stack, SamePlace t v

/-- Dropping a thread whose place was tried loses no place. -/
theorem Reached.drop {t u : Thread} {rest : List Thread} (h : Reached text tried (t :: rest) u)
    (ht : Tried text tried t) : Reached text tried rest u := by
  rcases h with hTried | ⟨v, hv, hSame⟩
  · exact .inl hTried
  · rcases List.mem_cons.mp hv with rfl | hv
    · obtain ⟨hpc, hPos⟩ := hSame
      exact .inl (by rwa [Tried, hpc, hPos])
    · exact .inr ⟨v, hv, hSame⟩

/-- Marking the thread on top of the stack loses no place, whatever is put on the stack
instead. -/
theorem Reached.mark {t u : Thread} {rest : List Thread} (h : Reached text tried (t :: rest) u)
    (htPos : t.pos ≤ text.size) (huPos : u.pos ≤ text.size) (new : List Thread) :
    Reached text (tried.setIfInBounds (cell text t.pc t.pos) true) (new ++ rest) u := by
  rw [Reached, tried_mark_iff htPos huPos]
  rcases h with hTried | ⟨v, hv, hSame⟩
  · exact .inl (.inl hTried)
  · rcases List.mem_cons.mp hv with rfl | hv
    · exact .inl (.inr hSame)
    · exact .inr ⟨v, List.mem_append_right _ hv, hSame⟩

/-- Every place that was tried leads to places that were tried or wait on the stack, and
none of them accepts. -/
def Closed (prog : Program) (text : Array Char) (tried : Array Bool) (stack : List Thread) :
    Prop :=
  ∀ t, t.pos ≤ text.size → Tried text tried t → ∀ inst, prog[t.pc]? = some inst →
    inst ≠ .accept ∧ ∀ u ∈ inst.next text t, Reached text tried stack u

/-- From a place that was tried nothing gets to acceptance, once the stack is empty. -/
theorem Closed.not_accepts (h : Closed prog text tried []) {t : Thread}
    (hPos : t.pos ≤ text.size) (ht : Tried text tried t) {n : Nat} {s : Slots} :
    ¬ Accepts prog text n t s := by
  intro hAccepts
  induction hAccepts with
  | accept here => exact (h _ hPos ht _ here).1 rfl
  | step here next rest ih =>
    obtain hu | ⟨v, hv, -⟩ := (h _ hPos ht _ here).2 _ next
    · exact ih ((next_spec next).2 hPos) hu
    · cases hv

/-- A thread dropped from the stack leaves what was tried closed if its place was tried. -/
theorem Closed.drop {t : Thread} {rest : List Thread} (h : Closed prog text tried (t :: rest))
    (ht : Tried text tried t) : Closed prog text tried rest := by
  intro v hPos hv inst hInst
  obtain ⟨hne, hNext⟩ := h v hPos hv inst hInst
  exact ⟨hne, fun u hu => (hNext u hu).drop ht⟩

/-- A thread on top of the stack may be marked when those that it is sent on as take its
place. -/
theorem Closed.mark {t : Thread} {rest : List Thread} {inst : Inst}
    (h : Closed prog text tried (t :: rest)) (hPos : t.pos ≤ text.size)
    (hInst : prog[t.pc]? = some inst) (hne : inst ≠ .accept) :
    Closed prog text (tried.setIfInBounds (cell text t.pc t.pos) true)
      (inst.next text t ++ rest) := by
  intro v hvPos hv inst' hInst'
  rcases (tried_mark_iff hPos hvPos).mp hv with hv | hSame
  · obtain ⟨hne', hNext⟩ := h v hvPos hv inst' hInst'
    refine ⟨hne', fun u hu => ?_⟩
    have huPos := (next_spec hu).2 hvPos
    exact (hNext u hu).mark hPos huPos _
  · -- the thread at the marked place goes where the one on the stack went
    obtain rfl : inst' = inst := by
      rw [hSame.1, hInst, Option.some.injEq] at hInst'
      exact hInst'.symm
    refine ⟨hne, fun u hu => .inr ?_⟩
    obtain ⟨w, hw, huw⟩ := (next_spec hu).1 t hSame
    exact ⟨w, List.mem_append_left _ hw, huw⟩

-- ---------------------------------------------------------------------------
-- The search
-- ---------------------------------------------------------------------------

/-- What a search comes to after one step, which depends on the first thread of its stack. -/
inductive Explored (prog : Program) (text : Array Char) (fuel : Nat) (t : Thread)
    (rest : List Thread) (tried : Array Bool) : Option Match → Prop
  /-- The place of the thread was tried before, and the thread is dropped. -/
  | dropped (hTried : tried.getD (cell text t.pc t.pos) true = true) :
      Explored prog text fuel t rest tried (prog.explore text fuel rest tried)
  /-- There is no instruction at the place, and the thread is dropped. -/
  | outside (hTried : ¬ tried.getD (cell text t.pc t.pos) true = true)
      (hInst : prog[t.pc]? = none) :
      Explored prog text fuel t rest tried (prog.explore text fuel rest tried)
  /-- The thread has arrived. -/
  | arrived (hInst : prog[t.pc]? = some .accept) :
      Explored prog text fuel t rest tried (some ⟨t.slots⟩)
  /-- The place is marked, and the thread goes on in those that the instruction sends on. -/
  | sent {inst : Inst} (hTried : ¬ tried.getD (cell text t.pc t.pos) true = true)
      (hInst : prog[t.pc]? = some inst) (hne : inst ≠ .accept) :
      Explored prog text fuel t rest tried (prog.explore text fuel (inst.next text t ++ rest)
        (tried.setIfInBounds (cell text t.pc t.pos) true))

/-- A search takes one step after the other. -/
theorem explored_cons (prog : Program) (text : Array Char) (fuel : Nat) (t : Thread)
    (rest : List Thread) (tried : Array Bool) :
    Explored prog text fuel t rest tried (prog.explore text (fuel + 1) (t :: rest) tried) := by
  rw [explore]
  by_cases hTried : tried.getD (cell text t.pc t.pos) true = true
  · rw [if_pos hTried]
    exact .dropped hTried
  · rw [if_neg hTried]
    cases hInst : prog[t.pc]? with
    | none => exact .outside hTried hInst
    | some inst =>
      cases inst with
      | accept => exact .arrived hInst
      | chars | look | save | jump | split => exact .sent hTried hInst nofun

/-- A search that finds a match found it with a thread of its stack. -/
theorem explore_eq_some {fuel : Nat} {stack : List Thread} {m : Match}
    (h : prog.explore text fuel stack tried = some m) :
    ∃ t ∈ stack, ∃ n, Accepts prog text n t m.slots := by
  induction fuel generalizing stack tried with
  | zero => cases h
  | succ fuel ih =>
    cases stack with
    | nil => cases h
    | cons t rest =>
      have hRest (h : prog.explore text fuel rest tried = some m) :
          ∃ v ∈ t :: rest, ∃ n, Accepts prog text n v m.slots := by
        obtain ⟨v, hv, hAccepts⟩ := ih h
        exact ⟨v, List.mem_cons_of_mem _ hv, hAccepts⟩
      have hStep := explored_cons prog text fuel t rest tried
      rw [h] at hStep
      generalize hFound : some m = found at hStep
      cases hStep with
      | dropped hTried => exact hRest hFound.symm
      | outside hTried hInst => exact hRest hFound.symm
      | arrived hInst =>
        obtain rfl : m = ⟨t.slots⟩ := Option.some.inj hFound
        exact ⟨t, List.mem_cons_self, 0, .accept hInst⟩
      | sent hTried hInst hne =>
        obtain ⟨u, hu, n, hAccepts⟩ := ih hFound.symm
        rcases List.mem_append.mp hu with hu | hu
        · exact ⟨t, List.mem_cons_self, n + 1, .step hInst hu hAccepts⟩
        · exact ⟨u, List.mem_cons_of_mem _ hu, n, hAccepts⟩

/-- A search that finds nothing has tried all there is, so that no thread at a place that
was tried or waited on the stack gets to acceptance. -/
theorem explore_eq_none {fuel : Nat} {stack : List Thread}
    (hSize : tried.size = prog.size * (text.size + 1))
    (hPos : ∀ t ∈ stack, t.pos ≤ text.size) (hClosed : Closed prog text tried stack)
    (hFuel : stack.length + 2 * tried.count false < fuel)
    (h : prog.explore text fuel stack tried = none) {t : Thread} (htPos : t.pos ≤ text.size)
    (ht : Reached text tried stack t) {n : Nat} {s : Slots} :
    ¬ Accepts prog text n t s := by
  induction fuel generalizing stack tried with
  | zero => omega
  | succ fuel ih =>
    cases stack with
    | nil =>
      rcases ht with ht | ⟨v, hv, -⟩
      · exact hClosed.not_accepts htPos ht
      · cases hv
    | cons v rest =>
      have hvPos : v.pos ≤ text.size := hPos v List.mem_cons_self
      have hRestPos : ∀ w ∈ rest, w.pos ≤ text.size :=
        fun w hw => hPos w (List.mem_cons_of_mem _ hw)
      rw [List.length_cons] at hFuel
      have hStep := explored_cons prog text fuel v rest tried
      rw [h] at hStep
      generalize hFound : none = found at hStep
      cases hStep with
      | dropped hTried =>
        exact ih hSize hRestPos (hClosed.drop hTried) (by omega) hFound.symm (ht.drop hTried)
      | outside hTried hInst =>
        -- a place that was not tried is one of the program
        obtain ⟨inst, hSome⟩ := exists_inst_of_not_tried hSize hTried
        rw [hInst] at hSome
        cases hSome
      | arrived hInst => cases hFound
      | @sent inst hTried hInst hne =>
        -- a mark is worth two steps, which pay for the threads that are sent on
        have hCount := count_mark hTried
        have hLength := length_next_le text v inst
        refine ih ?_ ?_ (hClosed.mark hvPos hInst hne) ?_ hFound.symm (ht.mark hvPos htPos _)
        · rwa [Array.size_setIfInBounds]
        · intro w hw
          rcases List.mem_append.mp hw with hw | hw
          · exact (next_spec hw).2 hvPos
          · exact hRestPos w hw
        · rw [List.length_append]
          omega

theorem mem_starts_iff {start : Nat} {t : Thread} :
    t ∈ starts text start ↔ ∃ i, start ≤ i ∧ i ≤ text.size ∧ t = ⟨0, i, []⟩ := by
  simp only [starts, List.mem_map, List.mem_range]
  constructor
  · rintro ⟨d, hd, rfl⟩
    exact ⟨start + d, by omega, by omega, rfl⟩
  · rintro ⟨i, hStart, hSize, rfl⟩
    refine ⟨i - start, by omega, ?_⟩
    rw [Nat.add_sub_cancel' hStart]

theorem closed_replicate (prog : Program) (text : Array Char) (stack : List Thread) :
    Closed prog text (.replicate (prog.size * (text.size + 1)) false) stack := by
  intro t hPos ht inst hInst
  have hpc : t.pc < prog.size := (Array.getElem?_eq_some_iff.mp hInst).1
  have hCell : cell text t.pc t.pos < prog.size * (text.size + 1) := by
    have hle := Nat.mul_le_mul_right (text.size + 1) (Nat.succ_le_of_lt hpc)
    rw [Nat.succ_mul] at hle
    rw [cell]
    omega
  simp [Tried, hCell] at ht

theorem find_eq_some {start : Nat} {m : Match} (h : prog.find text start = some m) :
    ∃ i, start ≤ i ∧ i ≤ text.size ∧ ∃ n, Accepts prog text n ⟨0, i, []⟩ m.slots := by
  obtain ⟨t, ht, hAccepts⟩ := explore_eq_some h
  obtain ⟨i, hStart, hSize, rfl⟩ := mem_starts_iff.mp ht
  exact ⟨i, hStart, hSize, hAccepts⟩

theorem find_eq_none {start : Nat} (h : prog.find text start = none) {i : Nat}
    (hStart : start ≤ i) (hSize : i ≤ text.size) {n : Nat} {s : Slots} :
    ¬ Accepts prog text n ⟨0, i, []⟩ s := by
  refine explore_eq_none (Array.size_replicate ..) ?_ (closed_replicate prog text _) ?_ h hSize ?_
  · intro t ht
    obtain ⟨j, -, hj, rfl⟩ := mem_starts_iff.mp ht
    exact hj
  · rw [starts, List.length_map, List.length_range, Array.count_replicate_self]
    omega
  · exact .inr ⟨_, mem_starts_iff.mpr ⟨i, hStart, hSize, rfl⟩, rfl, rfl⟩

end Program

-- ---------------------------------------------------------------------------
-- Expressions
-- ---------------------------------------------------------------------------

section Expressions

variable {r : Regex} {text : Array Char}

/-- A match found for an expression is one that the expression means. -/
theorem find_program_eq_some {start : Nat} {m : Match}
    (h : r.program.find text start = some m) :
    ∃ i j w, start ≤ i ∧ i ≤ text.size ∧ r.meaning text i j w ∧
      m.slots = (1, j) :: w ++ [(0, i)] := by
  obtain ⟨i, hStart, hSize, hAccepts⟩ := Program.find_eq_some h
  obtain ⟨j, w, hMeaning, hSlots⟩ := r.accepts_program_iff.mp hAccepts
  exact ⟨i, j, w, hStart, hSize, hMeaning, hSlots⟩

/-- Where nothing is found, the expression means no match. -/
theorem find_program_eq_none {start : Nat} (h : r.program.find text start = none) {i j : Nat}
    {w : Slots} (hStart : start ≤ i) (hSize : i ≤ text.size) : ¬ r.meaning text i j w := by
  intro hMeaning
  obtain ⟨n, hAccepts⟩ := r.accepts_program_iff.mpr ⟨j, w, hMeaning, rfl⟩
  exact Program.find_eq_none h hStart hSize hAccepts

/-- The matches of a list are what the expression means, and each begins where the one
before ends or later; the first begins at `start` or later. -/
def MatchesFrom (r : Regex) (text : Array Char) : Nat → List Match → Prop
  | _, [] => True
  | start, m :: ms =>
    ∃ i j w, start ≤ i ∧ i ≤ text.size ∧ r.meaning text i j w ∧
      m.slots = (1, j) :: w ++ [(0, i)] ∧ MatchesFrom r text j ms

theorem findAfter_eq_some {start : Nat} {last : Option Nat} {m : Match}
    (h : r.program.findAfter text start last = some m) :
    ∃ from', start ≤ from' ∧ r.program.find text from' = some m := by
  rw [Program.findAfter] at h
  cases hFind : r.program.find text start with
  | none =>
    rw [hFind] at h
    cases h
  | some m' =>
    simp only [hFind] at h
    split at h
    · exact ⟨start + 1, Nat.le_succ start, h⟩
    · exact ⟨start, Nat.le_refl start, hFind.trans h⟩

theorem matchesFrom_matchesWithin (fuel start : Nat) (last : Option Nat) :
    MatchesFrom r text start (r.program.matchesWithin text fuel start last) := by
  induction fuel generalizing start last with
  | zero => trivial
  | succ fuel ih =>
    rw [Program.matchesWithin]
    cases hFind : r.program.findAfter text start last with
    | none => trivial
    | some m =>
      obtain ⟨from', hFrom, hFound⟩ := findAfter_eq_some hFind
      obtain ⟨i, j, w, hStart, hSize, hMeaning, hSlots⟩ := find_program_eq_some hFound
      have hStop : m.stop = j := by
        rw [Match.stop, Match.slot?, hSlots]
        rfl
      refine ⟨i, j, w, Nat.le_trans hFrom hStart, hSize, hMeaning, hSlots, ?_⟩
      rw [hStop]
      exact ih j (some j)

/-- All matches of a text follow one another. -/
theorem matchesFrom_allMatches (r : Regex) (text : Array Char) :
    MatchesFrom r text 0 (r.program.allMatches text) :=
  matchesFrom_matchesWithin _ _ _

/-- A text has no matches just when no match is found in it. -/
theorem allMatches_eq_nil_iff {prog : Program} :
    prog.allMatches text = [] ↔ prog.find text 0 = none := by
  rw [Program.allMatches, Program.matchesWithin, Program.findAfter]
  cases prog.find text 0 with
  | none => simp
  | some m => simp

end Expressions

end TypedSteps
