import TypedSteps.Proofs.Regex.Meaning

/-!
# What the instructions of an expression do

The instructions of an expression lead a thread from the first of them to the address
after the last in just the ways that the expression means.

* `CodeAt` — instructions stand at an address of a program, with `Regex.layout_alt` and the like for
  those of an expression;
* `Accepts` — a thread gets to acceptance;
* `Implements` — between two addresses just what a meaning says can happen;
* `implements_emit` — the instructions of an expression implement its meaning;
* `accepts_program_iff` — what the threads of a whole program accept.
-/

namespace TypedSteps

/-- The given instructions stand in a program from an address on. -/
def CodeAt (prog : Program) : Nat → List Inst → Prop
  | _, [] => True
  | a, inst :: rest => prog[a]? = some inst ∧ CodeAt prog (a + 1) rest

/-- Code that stands in a program stands there piece by piece. -/
theorem codeAt_append {prog : Program} {a : Nat} {xs ys : List Inst} :
    CodeAt prog a (xs ++ ys) ↔ CodeAt prog a xs ∧ CodeAt prog (a + xs.length) ys := by
  induction xs generalizing a with
  | nil => exact (and_iff_right trivial).symm
  | cons x xs ih =>
    have hLen : a + 1 + xs.length = a + (x :: xs).length := by
      rw [List.length_cons]
      omega
    rw [List.cons_append, CodeAt, CodeAt, ih, hLen, and_assoc]

theorem codeAt_cons {prog : Program} {a : Nat} {inst : Inst} {rest : List Inst} :
    CodeAt prog a (inst :: rest) ↔ prog[a]? = some inst ∧ CodeAt prog (a + 1) rest :=
  Iff.rfl

/-- Code stands in an array where the instructions before it end. -/
theorem codeAt_toArray (before code : List Inst) :
    CodeAt (before ++ code).toArray before.length code := by
  induction code generalizing before with
  | nil => trivial
  | cons inst code ih =>
    refine ⟨by simp, ?_⟩
    have hRest := ih (before ++ [inst])
    rwa [List.append_assoc, List.length_append] at hRest

-- ---------------------------------------------------------------------------
-- Layouts
-- ---------------------------------------------------------------------------

namespace Regex

variable {prog : Program} {a : Nat} {r s : Regex} {greedy : Bool}

/-- A choice is a fork, the first expression, a jump over the second, and the second one. -/
theorem layout_alt (h : CodeAt prog a ((alt r s).emit a)) :
    prog[a]? = some (Inst.choice true (a + 1) (a + 1 + r.codeSize + 1)) ∧
      CodeAt prog (a + 1) (r.emit (a + 1)) ∧
      prog[a + 1 + r.codeSize]? = some (.jump (a + 1 + r.codeSize + 1 + s.codeSize)) ∧
      CodeAt prog (a + 1 + r.codeSize + 1) (s.emit (a + 1 + r.codeSize + 1)) := by
  rwa [emit, List.cons_append, codeAt_cons, codeAt_append, length_emit, codeAt_cons] at h

/-- A group is its expression between two instructions that save where it begins and ends. -/
theorem layout_group {k : Nat} (h : CodeAt prog a ((group k r).emit a)) :
    prog[a]? = some (.save (2 * k)) ∧ CodeAt prog (a + 1) (r.emit (a + 1)) ∧
      prog[a + 1 + r.codeSize]? = some (.save (2 * k + 1)) := by
  rw [emit, List.cons_append, codeAt_cons, codeAt_append, length_emit, codeAt_cons] at h
  obtain ⟨hOpen, hBody, hClose, -⟩ := h
  exact ⟨hOpen, hBody, hClose⟩

/-- A bounded repetition is as many copies as are needed, and then those that may be left out. -/
theorem layout_bounded {least most : Nat}
    (h : CodeAt prog a ((rep r least (some most) greedy).emit a)) :
    CodeAt prog a (emitCopies r.emit r.codeSize least a) ∧
      CodeAt prog (a + least * r.codeSize)
        (emitOptional r.emit r.codeSize greedy
          (a + least * r.codeSize + (most - least) * (r.codeSize + 1)) (most - least)
          (a + least * r.codeSize)) := by
  rwa [emit, codeAt_append, length_emitCopies (length_emit r)] at h

/-- An unbounded repetition that needs no round is a choice, the expression, and a jump back to the
choice. Where a round may take nothing that would go round for ever, and a choice of its own stands
in place of the jump. -/
theorem layout_star (h : CodeAt prog a ((rep r 0 none greedy).emit a)) :
    prog[a]? = some (Inst.choice greedy (a + 1) (a + r.codeSize + 2)) ∧
      CodeAt prog (a + 1) (r.emit (a + 1)) ∧
      prog[a + 1 + r.codeSize]? =
        some (if r.alwaysConsumes then .jump a
          else Inst.choice greedy (a + 1) (a + r.codeSize + 2)) := by
  rw [emit, if_pos rfl] at h
  by_cases hConsumes : r.alwaysConsumes = true
  · rw [if_pos hConsumes, List.cons_append, codeAt_cons, codeAt_append, length_emit,
      codeAt_cons] at h
    obtain ⟨hChoice, hBody, hAgain, -⟩ := h
    rw [if_pos hConsumes]
    exact ⟨hChoice, hBody, hAgain⟩
  · rw [if_neg hConsumes, List.cons_append, codeAt_cons, codeAt_append, length_emit,
      codeAt_cons] at h
    obtain ⟨hChoice, hBody, hAgain, -⟩ := h
    rw [if_neg hConsumes]
    exact ⟨hChoice, hBody, hAgain⟩

/-- An unbounded repetition that needs a round is as many copies as are needed and a choice, which
leads back to the last of them. -/
theorem layout_atLeast {count : Nat}
    (h : CodeAt prog a ((rep r (count + 1) none greedy).emit a)) :
    CodeAt prog a (emitCopies r.emit r.codeSize (count + 1) a) ∧
      prog[a + (count + 1) * r.codeSize]? =
        some (Inst.choice greedy (a + count * r.codeSize)
          (a + (rep r (count + 1) none greedy).codeSize)) := by
  have hEnd : a + count * r.codeSize + r.codeSize + 1 =
      a + (rep r (count + 1) none greedy).codeSize := by
    rw [codeSize, if_neg (Nat.succ_ne_zero count), Nat.succ_mul]
    omega
  rw [emit, if_neg (Nat.succ_ne_zero count), codeAt_append, length_emitCopies (length_emit r)] at h
  obtain ⟨hCopies, hChoice, -⟩ := h
  rw [Nat.succ_sub_one, hEnd] at hChoice
  exact ⟨hCopies, hChoice⟩

end Regex

-- ---------------------------------------------------------------------------
-- Acceptance
-- ---------------------------------------------------------------------------

/-- A thread gets to acceptance with the slots `s` in the given number of steps. -/
inductive Accepts (prog : Program) (text : Array Char) : Nat → Thread → Slots → Prop
  | accept {t : Thread} (here : prog[t.pc]? = some .accept) : Accepts prog text 0 t t.slots
  | step {n : Nat} {t u : Thread} {inst : Inst} {s : Slots} (here : prog[t.pc]? = some inst)
      (next : u ∈ inst.next text t) (rest : Accepts prog text n u s) :
      Accepts prog text (n + 1) t s

/-- A thread at an instruction other than the last gets to acceptance through one of the
threads that the instruction sends on. -/
theorem accepts_iff {prog : Program} {text : Array Char} {t : Thread} {inst : Inst} {s : Slots}
    (h : prog[t.pc]? = some inst) (hInst : inst ≠ .accept) {n : Nat} :
    Accepts prog text n t s ↔
      ∃ m, n = m + 1 ∧ ∃ u ∈ inst.next text t, Accepts prog text m u s := by
  constructor
  · intro hAccepts
    -- acceptance itself is ruled out by the instruction, so a step was taken
    cases hAccepts with
    | accept here =>
      rw [h, Option.some.injEq] at here
      exact absurd here hInst
    | step here next rest =>
      rw [h, Option.some.injEq] at here
      subst here
      exact ⟨_, rfl, _, next, rest⟩
  · rintro ⟨m, rfl, u, hu, hAccepts⟩
    exact .step h hu hAccepts

/-- A thread that has arrived at acceptance keeps its slots. -/
theorem slots_of_accepts {prog : Program} {text : Array Char} {t : Thread} {s : Slots}
    (h : prog[t.pc]? = some .accept) {n : Nat} (hAccepts : Accepts prog text n t s) :
    s = t.slots := by
  cases hAccepts with
  | accept here => rfl
  | step here next rest =>
    rw [h, Option.some.injEq] at here
    subst here
    cases next

-- ---------------------------------------------------------------------------
-- Implementations
-- ---------------------------------------------------------------------------

/-- A thread at the address `a` gets to acceptance just by way of the address `b`, and
what happens on the way is what `M` says. -/
structure Implements (prog : Program) (text : Array Char) (M : Meaning) (a b : Nat) : Prop where
  sound : ∀ {n i : Nat} {slots s : Slots}, Accepts prog text n ⟨a, i, slots⟩ s →
    ∃ j w m, m ≤ n ∧ M i j w ∧ Accepts prog text m ⟨b, j, w ++ slots⟩ s
  complete : ∀ {n i j : Nat} {w slots s : Slots}, M i j w →
    Accepts prog text n ⟨b, j, w ++ slots⟩ s → ∃ m, Accepts prog text m ⟨a, i, slots⟩ s

namespace Implements

variable {prog : Program} {text : Array Char} {P Q : Meaning} {a b c : Nat}

theorem skip (prog : Program) (text : Array Char) (a : Nat) :
    Implements prog text .skip a a where
  sound {n i slots s} h := ⟨i, [], n, Nat.le_refl n, ⟨rfl, rfl⟩, h⟩
  complete := by
    rintro n i j w slots s ⟨rfl, rfl⟩ h
    exact ⟨n, h⟩

/-- One piece of code behind another implements one meaning after the other. -/
theorem seq (hP : Implements prog text P a b) (hQ : Implements prog text Q b c) :
    Implements prog text (P.seq Q) a c where
  sound {n i slots s} h := by
    obtain ⟨j, u, m, hm, hPij, hb⟩ := hP.sound h
    obtain ⟨k, v, l, hl, hQjk, hc⟩ := hQ.sound hb
    refine ⟨k, v ++ u, l, Nat.le_trans hl hm, ⟨j, u, v, hPij, hQjk, rfl⟩, ?_⟩
    rwa [List.append_assoc]
  complete := by
    rintro n i k w slots s ⟨j, u, v, hPij, hQjk, rfl⟩ h
    rw [List.append_assoc] at h
    obtain ⟨m, hb⟩ := hQ.complete hQjk h
    exact hP.complete hPij hb

/-- An instruction for a set of characters takes one of them. -/
theorem take {set : Unicode.CharSet} (h : prog[a]? = some (.chars set)) :
    Implements prog text (.take text set.contains) a (a + 1) where
  sound {n i slots s} hAccepts := by
    obtain ⟨m, rfl, u, hu, hRest⟩ := (accepts_iff h (by simp)).mp hAccepts
    -- the instruction sends on one thread or none
    cases hc : text[i]? with
    | none => simp [Inst.next, hc] at hu
    | some c =>
      by_cases hSet : set.contains c = true
      · simp only [Inst.next, hc, hSet, if_true, List.mem_singleton] at hu
        subst hu
        exact ⟨i + 1, [], m, by omega, ⟨⟨c, hc, hSet⟩, rfl, rfl⟩, hRest⟩
      · simp [Inst.next, hc, hSet] at hu
  complete := by
    rintro n i j w slots s ⟨⟨c, hc, hSet⟩, rfl, rfl⟩ hAccepts
    refine ⟨n + 1, .step h ?_ hAccepts⟩
    simp [Inst.next, hc, hSet]

/-- An assertion lets a thread pass where it holds. -/
theorem check {assertion : Look} (h : prog[a]? = some (.look assertion)) :
    Implements prog text
      (.check fun i => assertion.holds (charBefore text i) text[i]?) a (a + 1) where
  sound {n i slots s} hAccepts := by
    obtain ⟨m, rfl, u, hu, hRest⟩ := (accepts_iff h (by simp)).mp hAccepts
    by_cases hHolds : assertion.holds (charBefore text i) text[i]? = true
    · simp only [Inst.next, hHolds, if_true, List.mem_singleton] at hu
      subst hu
      exact ⟨i, [], m, by omega, ⟨hHolds, rfl, rfl⟩, hRest⟩
    · simp [Inst.next, hHolds] at hu
  complete := by
    rintro n i j w slots s ⟨hHolds, rfl, rfl⟩ hAccepts
    refine ⟨n + 1, .step h ?_ hAccepts⟩
    simp [Inst.next, hHolds]

/-- Saving a place adds one entry to the slots, in front of those that there are. -/
theorem save {slot : Nat} (h : prog[a]? = some (.save slot)) :
    Implements prog text (.save slot) a (a + 1) where
  sound {n i slots s} hAccepts := by
    obtain ⟨m, rfl, u, hu, hRest⟩ := (accepts_iff h (by simp)).mp hAccepts
    rw [Inst.next, List.mem_singleton] at hu
    subst hu
    exact ⟨i, [(slot, i)], m, by omega, ⟨rfl, rfl⟩, hRest⟩
  complete := by
    rintro n i j w slots s ⟨rfl, rfl⟩ hAccepts
    exact ⟨n + 1, .step h (List.mem_singleton.mpr rfl) hAccepts⟩

/-- A jump takes nothing and saves nothing. -/
theorem jump (h : prog[a]? = some (.jump b)) : Implements prog text .skip a b where
  sound {n i slots s} hAccepts := by
    obtain ⟨m, rfl, u, hu, hRest⟩ := (accepts_iff h (by simp)).mp hAccepts
    rw [Inst.next, List.mem_singleton] at hu
    subst hu
    exact ⟨i, [], m, by omega, ⟨rfl, rfl⟩, hRest⟩
  complete := by
    rintro n i j w slots s ⟨rfl, rfl⟩ hAccepts
    exact ⟨n + 1, .step h (List.mem_singleton.mpr rfl) hAccepts⟩

/-- A choice sends a thread on to either of its two addresses. -/
theorem accepts_choice {greedy : Bool} {x y i : Nat} {slots s : Slots}
    (h : prog[a]? = some (Inst.choice greedy x y)) {n : Nat} :
    Accepts prog text n ⟨a, i, slots⟩ s ↔
      ∃ m, n = m + 1 ∧
        (Accepts prog text m ⟨x, i, slots⟩ s ∨ Accepts prog text m ⟨y, i, slots⟩ s) := by
  cases greedy with
  | false =>
    rw [accepts_iff h (by simp [Inst.choice])]
    simp [Inst.choice, Inst.next, or_comm]
  | true =>
    rw [accepts_iff h (by simp [Inst.choice])]
    simp [Inst.choice, Inst.next]

/-- A choice implements both ways if each of them leads to the same address. -/
theorem choice {greedy : Bool} {x y : Nat} (h : prog[a]? = some (Inst.choice greedy x y))
    (hP : Implements prog text P x c) (hQ : Implements prog text Q y c) :
    Implements prog text (P.or Q) a c where
  sound {n i slots s} hAccepts := by
    obtain ⟨m, rfl, hx | hy⟩ := (accepts_choice h).mp hAccepts
    · obtain ⟨j, w, l, hl, hPij, hc⟩ := hP.sound hx
      exact ⟨j, w, l, by omega, .inl hPij, hc⟩
    · obtain ⟨j, w, l, hl, hQij, hc⟩ := hQ.sound hy
      exact ⟨j, w, l, by omega, .inr hQij, hc⟩
  complete := by
    rintro n i j w slots s (hPij | hQij) hAccepts
    · obtain ⟨m, hx⟩ := hP.complete hPij hAccepts
      exact ⟨m + 1, (accepts_choice h).mpr ⟨m, rfl, .inl hx⟩⟩
    · obtain ⟨m, hy⟩ := hQ.complete hQij hAccepts
      exact ⟨m + 1, (accepts_choice h).mpr ⟨m, rfl, .inr hy⟩⟩

-- ---------------------------------------------------------------------------
-- Repetitions
-- ---------------------------------------------------------------------------

/-- A choice between a body that leads back to the choice and the way out of the loop. -/
theorem loop {greedy : Bool} {x : Nat} (h : prog[a]? = some (Inst.choice greedy x c))
    (hP : Implements prog text P x a) : Implements prog text (P.repeats 0 none) a c where
  sound {n i slots s} hAccepts := by
    -- every round takes a step at the choice, so the induction is on the steps that are left
    induction n using Nat.strongRecOn generalizing i slots with
    | ind n ih =>
      obtain ⟨m, rfl, hx | hc⟩ := (accepts_choice h).mp hAccepts
      · obtain ⟨j, u, l, hl, hPij, ha⟩ := hP.sound hx
        obtain ⟨k, v, o, ho, ⟨rounds, -, hRounds⟩, hc⟩ := ih l (by omega) ha
        rw [Nat.zero_add] at hRounds
        refine ⟨k, v ++ u, o, by omega, ⟨rounds + 1, by simp, ?_⟩, by rwa [List.append_assoc]⟩
        rw [Nat.zero_add]
        exact ⟨j, u, v, hPij, hRounds, rfl⟩
      · exact ⟨i, [], m, by omega, ⟨0, by simp, rfl, rfl⟩, hc⟩
  complete := by
    rintro n i j w slots s ⟨rounds, -, hRounds⟩ hAccepts
    rw [Nat.zero_add] at hRounds
    -- one round more is taken at the choice, before those that there are
    induction rounds generalizing i w slots with
    | zero =>
      obtain ⟨rfl, rfl⟩ := hRounds
      exact ⟨n + 1, (accepts_choice h).mpr ⟨n, rfl, .inr hAccepts⟩⟩
    | succ rounds ih =>
      obtain ⟨k, u, v, hPik, hRest, rfl⟩ := hRounds
      rw [List.append_assoc] at hAccepts
      obtain ⟨m, ha⟩ := ih hRest hAccepts
      obtain ⟨l, hx⟩ := hP.complete hPik ha
      exact ⟨l + 1, (accepts_choice h).mpr ⟨l, rfl, .inl hx⟩⟩

/-- Code that implements `P` wherever it stands. -/
def Everywhere (prog : Program) (text : Array Char) (P : Meaning) (code : Nat → List Inst)
    (size : Nat) : Prop :=
  ∀ a, (code a).length = size ∧
    (CodeAt prog a (code a) → Implements prog text P a (a + size))

/-- Copies of some code, one behind the other, implement as many rounds of its meaning. -/
theorem copies {code : Nat → List Inst} {size : Nat} (hP : Everywhere prog text P code size)
    {count : Nat} (h : CodeAt prog a (Regex.emitCopies code size count a)) :
    Implements prog text (P.pow count) a (a + count * size) := by
  induction count generalizing a with
  | zero =>
    rw [Nat.zero_mul]
    exact skip prog text a
  | succ count ih =>
    rw [Regex.emitCopies, codeAt_append, (hP a).1] at h
    have hEnd : a + (count + 1) * size = a + size + count * size := by
      rw [Nat.succ_mul]
      omega
    rw [hEnd]
    exact ((hP a).2 h.1).seq (ih h.2)

/-- The last of several copies stands after the others. -/
theorem emitCopies_succ (code : Nat → List Inst) (size count a : Nat) :
    Regex.emitCopies code size (count + 1) a =
      Regex.emitCopies code size count a ++ code (a + count * size) := by
  induction count generalizing a with
  | zero =>
    rw [Nat.zero_mul, Nat.add_zero]
    exact List.append_nil _
  | succ count ih =>
    have hLast : a + size + count * size = a + (count + 1) * size := by
      rw [Nat.succ_mul]
      omega
    rw [Regex.emitCopies, ih, hLast, ← List.append_assoc]
    rfl

/-- Copies of which the last may be run again and again. -/
theorem atLeast {code : Nat → List Inst} {size : Nat} (hP : Everywhere prog text P code size)
    {greedy : Bool} {count : Nat}
    (h : CodeAt prog a (Regex.emitCopies code size (count + 1) a))
    (hChoice : prog[a + (count + 1) * size]? =
      some (Inst.choice greedy (a + count * size) c)) :
    Implements prog text ((P.pow (count + 1)).seq (P.repeats 0 none)) a c := by
  have hCopies := copies hP h
  -- the last copy is the body of the loop as well
  rw [emitCopies_succ, codeAt_append,
    Regex.length_emitCopies (fun b => (hP b).1)] at h
  have hLast := (hP (a + count * size)).2 h.2
  have hEnd : a + count * size + size = a + (count + 1) * size := by
    rw [Nat.succ_mul]
    omega
  rw [hEnd] at hLast
  exact hCopies.seq (loop hChoice hLast)

/-- A loop that decides after each round whether to go on, with a choice of its own in
front. -/
theorem loopTwice {greedy : Bool} {x : Nat} (h : prog[a]? = some (Inst.choice greedy x c))
    (hP : Implements prog text P x b) (hAgain : prog[b]? = some (Inst.choice greedy x c)) :
    Implements prog text (P.repeats 0 none) a c := by
  -- the choice in front takes the first round, the one behind the body all others
  rw [Meaning.repeats_eq_or P none (by simp)]
  exact choice h (hP.seq (loop hAgain hP)) (skip prog text c)

/-- Copies that can each be left out, by a choice in front of it whose other way leads behind all of
them. -/
theorem optional {code : Nat → List Inst} {size : Nat} (hP : Everywhere prog text P code size)
    {greedy : Bool} {count : Nat}
    (h : CodeAt prog a (Regex.emitOptional code size greedy c count a))
    (hExit : a + count * (size + 1) = c) :
    Implements prog text (P.repeats 0 (some count)) a c := by
  induction count generalizing a with
  | zero =>
    rw [Nat.zero_mul, Nat.add_zero] at hExit
    subst hExit
    rw [Meaning.repeats_zero]
    exact skip prog text a
  | succ count ih =>
    rw [Regex.emitOptional, List.cons_append, codeAt_cons, codeAt_append, (hP (a + 1)).1] at h
    obtain ⟨hChoice, hBody, hRest⟩ := h
    rw [Nat.succ_mul] at hExit
    rw [Meaning.repeats_eq_or P (some (count + 1)) (by simp)]
    exact choice hChoice (((hP (a + 1)).2 hBody).seq (ih hRest (by omega))) (skip prog text c)

end Implements

-- ---------------------------------------------------------------------------
-- Expressions
-- ---------------------------------------------------------------------------

namespace Regex

/-- The instructions of an expression implement its meaning. -/
theorem implements_emit {prog : Program} {text : Array Char} (r : Regex) {a : Nat}
    (h : CodeAt prog a (r.emit a)) :
    Implements prog text (r.meaning text) a (a + r.codeSize) := by
  -- the address is left open, as each part stands at one of its own
  induction r generalizing a with
  | empty => exact .skip prog text a
  | chars set ascii => exact .take h.1
  | look assertion => exact .check h.1
  | cat r s ihr ihs =>
    rw [emit, codeAt_append, length_emit] at h
    rw [codeSize, ← Nat.add_assoc]
    exact (ihr h.1).seq (ihs h.2)
  | alt r s ihr ihs =>
    obtain ⟨hFork, hFirst, hJump, hSecond⟩ := layout_alt h
    have hEnd : a + 1 + r.codeSize + 1 + s.codeSize = a + (alt r s).codeSize := by
      rw [codeSize]
      omega
    have hFirst := (ihr hFirst).seq (.jump hJump)
    rw [Meaning.seq_skip] at hFirst
    rw [← hEnd]
    exact .choice hFork hFirst (ihs hSecond)
  | group k r ih =>
    obtain ⟨hOpen, hBody, hClose⟩ := layout_group h
    have hEnd : a + 1 + r.codeSize + 1 = a + (group k r).codeSize := by
      rw [codeSize]
      omega
    rw [← hEnd]
    exact (Implements.save hOpen).seq ((ih hBody).seq (.save hClose))
  | rep r least most greedy ih =>
    have hP : Implements.Everywhere prog text (r.meaning text) r.emit r.codeSize :=
      fun b => ⟨length_emit r b, ih⟩
    rw [meaning, Meaning.repeats_eq_seq]
    cases most with
    | some m =>
      obtain ⟨hCopies, hRest⟩ := layout_bounded h
      rw [codeSize, ← Nat.add_assoc]
      exact (Implements.copies hP hCopies).seq (Implements.optional hP hRest rfl)
    | none =>
      cases least with
      | zero =>
        have hEnd : a + (rep r 0 none greedy).codeSize = a + r.codeSize + 2 := rfl
        obtain ⟨hChoice, hBody, hAgain⟩ := layout_star h
        rw [Meaning.pow, Meaning.skip_seq, hEnd]
        -- the body leads back to the choice by a jump, or on to the choice behind it
        by_cases hConsumes : r.alwaysConsumes = true
        · rw [if_pos hConsumes] at hAgain
          have hRound := (ih hBody).seq (.jump hAgain)
          rw [Meaning.seq_skip] at hRound
          exact .loop hChoice hRound
        · rw [if_neg hConsumes] at hAgain
          exact .loopTwice hChoice (ih hBody) hAgain
      | succ count =>
        obtain ⟨hCopies, hChoice⟩ := layout_atLeast h
        exact Implements.atLeast hP hCopies hChoice

-- ---------------------------------------------------------------------------
-- Whole programs
-- ---------------------------------------------------------------------------

/-- A program saves where a match begins, runs its expression, saves where the match ends and
accepts. -/
theorem program_layout (r : Regex) :
    r.program[0]? = some (.save 0) ∧ CodeAt r.program 1 (r.emit 1) ∧
      r.program[1 + r.codeSize]? = some (.save 1) ∧
      r.program[1 + r.codeSize + 1]? = some .accept := by
  have hCode : CodeAt r.program 0 (.save 0 :: r.emit 1 ++ [.save 1, .accept]) :=
    codeAt_toArray [] _
  rw [List.cons_append, codeAt_cons, codeAt_append, codeAt_cons, codeAt_cons, length_emit]
    at hCode
  obtain ⟨hOpen, hBody, hClose, hAccept, -⟩ := hCode
  exact ⟨hOpen, hBody, hClose, hAccept⟩

/-- A program starts in a thread without slots and accepts with the two ends of a match
around the slots that its expression saves. -/
theorem accepts_program_iff {text : Array Char} (r : Regex) {i : Nat} {s : Slots} :
    (∃ n, Accepts r.program text n ⟨0, i, []⟩ s) ↔
      ∃ j w, r.meaning text i j w ∧ s = (1, j) :: w ++ [(0, i)] := by
  obtain ⟨hOpen, hr, hClose, hAccept⟩ := r.program_layout
  have hSave : Implements r.program text (.save 0) 0 1 := .save hOpen
  have hWhole := hSave.seq
    ((r.implements_emit hr).seq (.save hClose))
  constructor
  · rintro ⟨n, hAccepts⟩
    obtain ⟨j, w, m, -, hMeaning, hEnd⟩ := hWhole.sound hAccepts
    -- the saves of the two ends stand around everything that the expression saves
    obtain ⟨u, hu, rfl⟩ := Meaning.save_seq_save_iff.mp hMeaning
    refine ⟨j, u, hu, ?_⟩
    rw [slots_of_accepts hAccept hEnd, List.append_nil]
  · rintro ⟨j, w, hMeaning, rfl⟩
    rw [← List.append_nil (_ :: w ++ _)]
    exact hWhole.complete (Meaning.save_seq_save_iff.mpr ⟨w, hMeaning, rfl⟩) (.accept hAccept)

end Regex

end TypedSteps
