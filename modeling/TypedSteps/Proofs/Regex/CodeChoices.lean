import TypedSteps.Proofs.Regex.Priority

/-!
# The instructions of an expression make its choices

The instructions of an expression try its ways in the order in which the expression prefers them.
They come to an end as long as every round of a loop without a bound takes a character.

* `le_of_minLength?`, `meaning_bounds` — how far a match reaches;
* `Regex.loopsConsume` — expressions whose loops without a bound take a character in each round;
* `Chooses` — between two addresses the choices of a `Choice` are made, and made at last;
* `chooses_emit` — the instructions of an expression make its choices;
* `find_program_first` — the match that is found for an expression.
-/

namespace TypedSteps

-- ---------------------------------------------------------------------------
-- Lengths
-- ---------------------------------------------------------------------------

namespace Regex

variable {text : Array Char} {i j : Nat} {w : Slots}

/-- If a round takes so many characters at least, so many rounds take that many times as much. -/
theorem le_of_pow {M : Meaning} {n : Nat} (hM : ∀ {i j w}, M i j w → i + n ≤ j) {count : Nat}
    (h : M.pow count i j w) : i + n * count ≤ j := by
  induction count generalizing i w with
  | zero => exact Nat.le_of_eq h.1.symm
  | succ count ih =>
    obtain ⟨k, u, v, hFirst, hRest, -⟩ := h
    have hle := hM hFirst
    have hle' := ih hRest
    rw [Nat.mul_succ]
    omega

/-- The bound that is kept for the length of matches is one. -/
theorem le_of_minLength? {r : Regex} {n : Nat} (hn : r.minLength? = some n)
    (h : r.meaning text i j w) : i + n ≤ j := by
  induction r generalizing n i j w with
  | empty =>
    cases hn
    exact Nat.le_of_eq h.1.symm
  | look assertion =>
    cases hn
    exact Nat.le_of_eq h.2.1.symm
  | chars set ascii =>
    rw [minLength?] at hn
    split at hn
    · cases hn
    · cases hn
      exact Nat.le_of_eq h.2.1.symm
  | cat a b iha ihb =>
    simp only [minLength?, Option.bind_eq_bind, Option.pure_def, Option.bind_eq_some_iff,
      Option.some.injEq] at hn
    obtain ⟨x, hx, y, hy, rfl⟩ := hn
    obtain ⟨k, u, v, ha, hb, -⟩ := h
    have hLeA := iha hx ha
    have hLeB := ihb hy hb
    omega
  | alt a b iha ihb =>
    simp only [minLength?, Option.bind_eq_bind, Option.pure_def, Option.bind_eq_some_iff,
      Option.some.injEq] at hn
    obtain ⟨x, hx, y, hy, rfl⟩ := hn
    rcases h with ha | hb
    · have hle := iha hx ha
      omega
    · have hle := ihb hy hb
      omega
  | rep r least most greedy ih =>
    rw [minLength?, Option.map_eq_some_iff] at hn
    obtain ⟨x, hx, rfl⟩ := hn
    -- there may be more rounds than are needed, each of which only adds to the length
    obtain ⟨count, -, hPow⟩ := h
    have hle := le_of_pow (fun hr => ih hx hr) hPow
    rw [Nat.mul_add] at hle
    omega
  | group k r ih =>
    obtain ⟨u, hr, -⟩ := Meaning.save_seq_save_iff.mp h
    exact ih hn hr

/-- Rounds that stay within the text stay there together. -/
theorem bounds_of_pow {M : Meaning} (hM : ∀ {i j w}, M i j w → i ≤ j ∧ (j = i ∨ j ≤ text.size))
    {count : Nat} (h : M.pow count i j w) : i ≤ j ∧ (j = i ∨ j ≤ text.size) := by
  induction count generalizing i w with
  | zero => exact ⟨Nat.le_of_eq h.1.symm, .inl h.1⟩
  | succ count ih =>
    obtain ⟨k, u, v, hFirst, hRest, -⟩ := h
    obtain ⟨hle, hSize⟩ := hM hFirst
    obtain ⟨hle', hSize'⟩ := ih hRest
    omega

/-- A match does not go back, and where it takes anything it ends within the text. -/
theorem meaning_bounds {r : Regex} (h : r.meaning text i j w) :
    i ≤ j ∧ (j = i ∨ j ≤ text.size) := by
  induction r generalizing i j w with
  | empty => exact ⟨Nat.le_of_eq h.1.symm, .inl h.1⟩
  | look assertion => exact ⟨Nat.le_of_eq h.2.1.symm, .inl h.2.1⟩
  | chars set ascii =>
    obtain ⟨⟨c, hc, -⟩, rfl, -⟩ := h
    exact ⟨Nat.le_succ i, .inr (Array.getElem?_eq_some_iff.mp hc).1⟩
  | cat a b iha ihb =>
    obtain ⟨k, u, v, ha, hb, -⟩ := h
    obtain ⟨hle, hSize⟩ := iha ha
    obtain ⟨hle', hSize'⟩ := ihb hb
    omega
  | alt a b iha ihb =>
    rcases h with ha | hb
    · exact iha ha
    · exact ihb hb
  | rep r least most greedy ih =>
    obtain ⟨count, -, hPow⟩ := h
    exact bounds_of_pow (fun hr => ih hr) hPow
  | group k r ih =>
    obtain ⟨u, hr, -⟩ := Meaning.save_seq_save_iff.mp h
    exact ih hr

/-- An expression with a positive bound for its length takes a character. -/
theorem advances_of_alwaysConsumes {r : Regex} (hr : r.alwaysConsumes = true)
    (h : r.meaning text i j w) : i < j ∧ j ≤ text.size := by
  obtain ⟨n, hn, hPos⟩ := (Option.any_eq_true _ _).mp hr
  have hle := le_of_minLength? hn h
  have hPos : 0 < n := of_decide_eq_true hPos
  obtain ⟨-, hSize⟩ := meaning_bounds h
  omega

/-- Every loop without a bound takes a character in each of its rounds. -/
def loopsConsume : Regex → Bool
  | empty | chars _ _ | look _ => true
  | cat a b | alt a b => a.loopsConsume && b.loopsConsume
  | rep r _ most _ => r.loopsConsume && (most.isSome || r.alwaysConsumes)
  | group _ r => r.loopsConsume

/-- The loops of an expression are those of its factors. -/
theorem loopsConsume_iff_factors (r : Regex) :
    r.loopsConsume = true ↔ ∀ s ∈ r.factors, s.loopsConsume = true := by
  induction r with
  | cat a b iha ihb =>
    rw [loopsConsume, factors, Bool.and_eq_true, List.forall_mem_append, iha, ihb]
  | empty => exact iff_of_true rfl (List.forall_mem_nil _)
  | chars | look | alt | rep | group =>
    show _ ↔ ∀ s ∈ [_], loopsConsume s = true
    rw [List.forall_mem_singleton]

/-- The loops of a sequence of factors are theirs. -/
theorem loopsConsume_ofFactors (rs : List Regex) :
    (ofFactors rs).loopsConsume = true ↔ ∀ r ∈ rs, r.loopsConsume = true := by
  induction rs with
  | nil => exact iff_of_true rfl (List.forall_mem_nil _)
  | cons r rs ih =>
    cases rs with
    | nil =>
      rw [List.forall_mem_singleton]
      rfl
    | cons s rs =>
      rw [List.forall_mem_cons, ← ih, ← Bool.and_eq_true]
      rfl

/-- The loops of a sequence are those of its parts. -/
theorem loopsConsume_concat (rs : List Regex) :
    (concat rs).loopsConsume = true ↔ ∀ r ∈ rs, r.loopsConsume = true := by
  rw [concat, loopsConsume_ofFactors, List.forall_mem_flatMap]
  exact forall₂_congr fun r _ => r.loopsConsume_iff_factors.symm

end Regex

-- ---------------------------------------------------------------------------
-- Choices between two addresses
-- ---------------------------------------------------------------------------

/-- Between the addresses `a` and `b` what can happen is what `C` says, every way there ends if
it ends behind `b`, and the preferred way from `a` is the one that `C` prefers. -/
structure Chooses (prog : Program) (text : Array Char) (C : Choice) (a b : Nat) : Prop
    extends Implements prog text C.can a b where
  ends : ∀ {i : Nat}, (∀ {j w}, C.can i j w → Ends prog text (b, j)) → Ends prog text (a, i)
  prefers : ∀ {n i : Nat} {slots s : Slots}, Prefers prog text n [⟨a, i, slots⟩] s →
    ∃ j w m, m ≤ n ∧ C.first (fun k => Alive prog text (b, k)) i j w ∧
      Prefers prog text m [⟨b, j, w ++ slots⟩] s

/-- A place lives if one behind the code does that can be got to. -/
theorem Implements.alive_iff {prog : Program} {text : Array Char} {M : Meaning} {a b : Nat}
    (h : Implements prog text M a b) {i : Nat} :
    Alive prog text (a, i) ↔ M.Reaches (fun k => Alive prog text (b, k)) i := by
  constructor
  · rintro ⟨n, s, hAccepts⟩
    obtain ⟨j, w, m, -, hM, hb⟩ := h.sound hAccepts
    exact ⟨j, w, hM, TypedSteps.alive_iff.mpr ⟨m, s, hb⟩⟩
  · rintro ⟨j, w, hM, n, s, hb⟩
    have hSame : SamePlace ⟨b, j, []⟩ ⟨b, j, w ++ []⟩ := ⟨rfl, rfl⟩
    obtain ⟨s', hs'⟩ := hb.congr hSame
    obtain ⟨m, hm⟩ := h.complete hM hs'
    exact ⟨m, s', hm⟩

namespace Chooses

variable {prog : Program} {text : Array Char} {A B : Choice} {a b c : Nat}

theorem skip (prog : Program) (text : Array Char) (a : Nat) :
    Chooses prog text (.of .skip) a a where
  toImplements := .skip prog text a
  ends h := h ⟨rfl, rfl⟩
  prefers {n i _ _} h := ⟨i, [], n, Nat.le_refl n, ⟨⟨rfl, rfl⟩, h.alive⟩, h⟩

/-- An instruction that sends a thread on to the next address, if at all, leaves no choice. -/
theorem single {inst : Inst} {M : Meaning} (hInst : prog[a]? = some inst) (hne : inst ≠ .accept)
    (hImplements : Implements prog text M a b)
    (hNext : ∀ i slots, inst.next text ⟨a, i, slots⟩ = [] ∨
      ∃ j w, M i j w ∧ inst.next text ⟨a, i, slots⟩ = [⟨b, j, w ++ slots⟩]) :
    Chooses prog text (.of M) a b where
  toImplements := hImplements
  ends {i} h := by
    refine ends_of_next hInst fun u hu => ?_
    -- `Ends` does not see the slots, so any will do
    rcases hNext i [] with hNil | ⟨j, w, hM, hOne⟩
    · rw [hNil] at hu
      cases hu
    · rw [hOne, List.mem_singleton] at hu
      subst hu
      exact h hM
  prefers {n i slots s} h := by
    obtain ⟨m, rfl, hPrefers⟩ := (prefers_iff hInst hne).mp h
    rcases hNext i slots with hNil | ⟨j, w, hM, hOne⟩
    · rw [hNil] at hPrefers
      exact absurd hPrefers not_prefers_nil
    · rw [hOne] at hPrefers
      exact ⟨j, w, m, Nat.le_succ m, ⟨hM, hPrefers.alive⟩, hPrefers⟩

/-- A set of characters leaves no choice: the next character is taken or the thread ends. -/
theorem take {set : Unicode.CharSet} (h : prog[a]? = some (.chars set)) :
    Chooses prog text (.of (.take text set.contains)) a (a + 1) := by
  refine single h (by simp) (.take h) fun i slots => ?_
  rw [Inst.next]
  cases hc : text[i]? with
  | none => exact .inl rfl
  | some c =>
    by_cases hSet : set.contains c = true
    · exact .inr ⟨i + 1, [], ⟨⟨c, hc, hSet⟩, rfl, rfl⟩, if_pos hSet⟩
    · exact .inl (if_neg hSet)

/-- An assertion leaves no choice: it lets the thread pass or ends it. -/
theorem check {assertion : Look} (h : prog[a]? = some (.look assertion)) :
    Chooses prog text (.of (.check fun i => assertion.holds (charBefore text i) text[i]?)) a
      (a + 1) := by
  refine single h (by simp) (.check h) fun i slots => ?_
  rw [Inst.next]
  by_cases hHolds : assertion.holds (charBefore text i) text[i]? = true
  · exact .inr ⟨i, [], ⟨hHolds, rfl, rfl⟩, if_pos hHolds⟩
  · exact .inl (if_neg hHolds)

theorem save {slot : Nat} (h : prog[a]? = some (.save slot)) :
    Chooses prog text (.of (.save slot)) a (a + 1) :=
  single h (by simp) (.save h) fun i _ => .inr ⟨i, [(slot, i)], ⟨rfl, rfl⟩, rfl⟩

theorem jump (h : prog[a]? = some (.jump b)) : Chooses prog text (.of .skip) a b :=
  single h (by simp) (.jump h) fun i _ => .inr ⟨i, [], ⟨rfl, rfl⟩, rfl⟩

/-- What is preferred first is preferred among the ways that can be gone on with. -/
theorem seq (hA : Chooses prog text A a b) (hB : Chooses prog text B b c) :
    Chooses prog text (A.seq B) a c where
  toImplements := hA.toImplements.seq hB.toImplements
  ends h := hA.ends fun hi => hB.ends fun hj => h ⟨_, _, _, hi, hj, rfl⟩
  prefers {n i slots s} h := by
    -- what lives at the address between is what the second piece can go on from
    have hAlive : (fun k => Alive prog text (b, k)) =
        B.can.Reaches fun k => Alive prog text (c, k) :=
      funext fun k => propext hB.toImplements.alive_iff
    obtain ⟨j, u, m, hm, hFirst, hb⟩ := hA.prefers h
    obtain ⟨k, v, l, hl, hSecond, hc⟩ := hB.prefers hb
    rw [hAlive] at hFirst
    refine ⟨k, v ++ u, l, Nat.le_trans hl hm, ⟨j, u, v, hFirst, hSecond, rfl⟩, ?_⟩
    rwa [List.append_assoc]

/-- A jump behind some code changes none of its choices. -/
theorem seq_jump (hA : Chooses prog text A a b) (h : prog[b]? = some (.jump c)) :
    Chooses prog text A a c where
  toImplements := by
    have hImplements := hA.toImplements.seq (.jump h)
    rwa [Meaning.seq_skip] at hImplements
  ends hEnds := hA.ends fun hi => (jump h).ends fun hj => by
    obtain ⟨rfl, -⟩ := hj
    exact hEnds hi
  prefers {n i slots s} hPrefers := by
    have hAlive : (fun k => Alive prog text (b, k)) = fun k => Alive prog text (c, k) := by
      funext k
      rw [(jump h).toImplements.alive_iff]
      refine propext ⟨?_, fun hc => ⟨k, [], ⟨rfl, rfl⟩, hc⟩⟩
      rintro ⟨j, w, ⟨rfl, -⟩, hc⟩
      exact hc
    obtain ⟨j, w, m, hm, hFirst, hb⟩ := hA.prefers hPrefers
    obtain ⟨k, v, l, hl, ⟨⟨rfl, rfl⟩, -⟩, hc⟩ := (jump h).prefers hb
    rw [hAlive] at hFirst
    exact ⟨k, w, l, Nat.le_trans hl hm, hFirst, hc⟩

-- ---------------------------------------------------------------------------
-- Forks
-- ---------------------------------------------------------------------------

section Forks

variable {greedy : Bool} {x y : Nat}

/-- Every way from a fork ends if those of both turns do. -/
theorem ends_fork (h : prog[a]? = some (Inst.choice greedy x y)) {i : Nat}
    (hx : Ends prog text (x, i)) (hy : Ends prog text (y, i)) : Ends prog text (a, i) := by
  refine ends_of_next h fun u hu => ?_
  have hu : u = ⟨x, i, []⟩ ∨ u = ⟨y, i, []⟩ := by
    cases greedy with
    | false => simpa [Inst.choice, Inst.next, or_comm] using hu
    | true => simpa [Inst.choice, Inst.next] using hu
  rcases hu with rfl | rfl
  · exact hx
  · exact hy

/-- A fork takes the turn that greed asks for, and the other where that one is dead. -/
theorem prefers_fork (h : prog[a]? = some (Inst.choice greedy x y)) {n i : Nat}
    {slots s : Slots} (hPrefers : Prefers prog text n [⟨a, i, slots⟩] s) :
    ∃ m, n = m + 1 ∧
      ((greedy = false → ¬ Alive prog text (y, i)) ∧ Prefers prog text m [⟨x, i, slots⟩] s ∨
        (greedy = true → ¬ Alive prog text (x, i)) ∧ Prefers prog text m [⟨y, i, slots⟩] s) := by
  cases greedy with
  | false =>
    obtain ⟨m, rfl, hNext⟩ := (prefers_iff h (by simp [Inst.choice])).mp hPrefers
    rcases Prefers.cons hNext with hy | ⟨hDead, hx⟩
    · exact ⟨m, rfl, .inr ⟨fun h => absurd h Bool.false_ne_true, hy⟩⟩
    · exact ⟨m, rfl, .inl ⟨fun _ => hDead, hx⟩⟩
  | true =>
    obtain ⟨m, rfl, hNext⟩ := (prefers_iff h (by simp [Inst.choice])).mp hPrefers
    rcases Prefers.cons hNext with hx | ⟨hDead, hy⟩
    · exact ⟨m, rfl, .inl ⟨fun h => absurd h.symm Bool.false_ne_true, hx⟩⟩
    · exact ⟨m, rfl, .inr ⟨fun _ => hDead, hy⟩⟩

/-- A fork makes the choice between what its two turns can do. -/
theorem fork (h : prog[a]? = some (Inst.choice greedy x y)) (hA : Chooses prog text A x c)
    (hB : Chooses prog text B y c) : Chooses prog text (Choice.either greedy A B) a c where
  toImplements := by
    rw [Choice.can_either]
    exact .choice h hA.toImplements hB.toImplements
  ends hEnds := by
    rw [Choice.can_either] at hEnds
    exact ends_fork h (hA.ends fun hi => hEnds (.inl hi)) (hB.ends fun hi => hEnds (.inr hi))
  prefers {n i slots s} hPrefers := by
    obtain ⟨m, rfl, ⟨hTurn, hx⟩ | ⟨hTurn, hy⟩⟩ := prefers_fork h hPrefers
    · rw [hB.toImplements.alive_iff] at hTurn
      obtain ⟨j, w, l, hl, hFirst, hc⟩ := hA.prefers hx
      exact ⟨j, w, l, Nat.le_succ_of_le hl, Choice.first_either.mpr (.inl ⟨hTurn, hFirst⟩), hc⟩
    · rw [hA.toImplements.alive_iff] at hTurn
      obtain ⟨j, w, l, hl, hFirst, hc⟩ := hB.prefers hy
      exact ⟨j, w, l, Nat.le_succ_of_le hl, Choice.first_either.mpr (.inr ⟨hTurn, hFirst⟩), hc⟩

/-- A loop whose rounds take characters comes to an end, as the text does. -/
theorem loop (h : prog[a]? = some (Inst.choice greedy x c)) (hA : Chooses prog text A x a)
    (hConsumes : ∀ {i j w}, A.can i j w → i < j ∧ j ≤ text.size) :
    Chooses prog text (A.loop greedy) a c where
  toImplements := .loop h hA.toImplements
  ends {i} hEnds := by
    -- each round takes a character, so what is left of the text becomes less
    induction hLeft : text.size - i using Nat.strongRecOn generalizing i with
    | ind left ih =>
      have hExit : Ends prog text (c, i) := hEnds ⟨0, by simp, rfl, rfl⟩
      refine ends_fork h (hA.ends fun {j u} hRound => ?_) hExit
      obtain ⟨hlt, hSize⟩ := hConsumes hRound
      refine ih (text.size - j) (by omega) (fun {k v} hRest => ?_) rfl
      have hAgain : A.can.repeats 0 none i k (v ++ u) := by
        rw [Meaning.repeats_eq_or A.can none (by simp)]
        exact .inl ⟨j, u, v, hRound, hRest, rfl⟩
      exact hEnds hAgain
  prefers {n i slots s} hPrefers := by
    have hAlive : (fun k => Alive prog text (a, k)) =
        (A.can.repeats 0 none).Reaches fun k => Alive prog text (c, k) :=
      funext fun k => propext (Implements.loop h hA.toImplements).alive_iff
    -- every round takes a step at the fork, so the induction is on the steps that are left
    induction n using Nat.strongRecOn generalizing i slots with
    | ind n ih =>
      obtain ⟨m, rfl, ⟨hTurn, hx⟩ | ⟨hTurn, hc⟩⟩ := prefers_fork h hPrefers
      · -- the round is the first that leads on to the fork, and behind it the loop goes on
        obtain ⟨k, u, l, hl, hBody, ha⟩ := hA.prefers hx
        obtain ⟨j, v, o, ho, hRest, hc⟩ := ih l (by omega) ha
        rw [hAlive] at hBody
        refine ⟨j, v ++ u, o, by omega, .again hTurn hBody hRest, ?_⟩
        rwa [List.append_assoc]
      · rw [hA.toImplements.alive_iff, hAlive] at hTurn
        exact ⟨i, [], m, Nat.le_succ m, .stop hTurn hc.alive, hc⟩

end Forks

-- ---------------------------------------------------------------------------
-- Repetitions
-- ---------------------------------------------------------------------------

/-- Code that makes the choices of `A` wherever it stands. -/
def Everywhere (prog : Program) (text : Array Char) (A : Choice) (code : Nat → List Inst)
    (size : Nat) : Prop :=
  ∀ a, (code a).length = size ∧ (CodeAt prog a (code a) → Chooses prog text A a (a + size))

section Repetitions

variable {code : Nat → List Inst} {size count : Nat} {greedy : Bool}

/-- Copies of some code make its choices one after the other. -/
theorem copies (hA : Everywhere prog text A code size)
    (h : CodeAt prog a (Regex.emitCopies code size count a)) :
    Chooses prog text (A.pow count) a (a + count * size) := by
  induction count generalizing a with
  | zero =>
    rw [Nat.zero_mul]
    exact skip prog text a
  | succ count ih =>
    rw [Regex.emitCopies, codeAt_append, (hA a).1] at h
    have hEnd : a + (count + 1) * size = a + size + count * size := by
      rw [Nat.succ_mul]
      omega
    rw [hEnd]
    exact ((hA a).2 h.1).seq (ih h.2)

/-- Copies of which the last may be run again and again. -/
theorem atLeast (hA : Everywhere prog text A code size)
    (hConsumes : ∀ {i j w}, A.can i j w → i < j ∧ j ≤ text.size)
    (h : CodeAt prog a (Regex.emitCopies code size (count + 1) a))
    (hChoice : prog[a + (count + 1) * size]? =
      some (Inst.choice greedy (a + count * size) c)) :
    Chooses prog text ((A.pow (count + 1)).seq (A.loop greedy)) a c := by
  have hCopies := copies hA h
  rw [Implements.emitCopies_succ, codeAt_append,
    Regex.length_emitCopies (fun b => (hA b).1)] at h
  have hLast := (hA (a + count * size)).2 h.2
  have hEnd : a + count * size + size = a + (count + 1) * size := by
    rw [Nat.succ_mul]
    omega
  rw [hEnd] at hLast
  exact hCopies.seq (loop hChoice hLast hConsumes)

/-- Copies behind a fork each make the choices of rounds that need not be gone. -/
theorem optional (hA : Everywhere prog text A code size)
    (h : CodeAt prog a (Regex.emitOptional code size greedy c count a))
    (hExit : a + count * (size + 1) = c) : Chooses prog text (A.upTo greedy count) a c := by
  induction count generalizing a with
  | zero =>
    rw [Nat.zero_mul, Nat.add_zero] at hExit
    subst hExit
    exact skip prog text a
  | succ count ih =>
    rw [Regex.emitOptional, List.cons_append, codeAt_cons, codeAt_append, (hA (a + 1)).1] at h
    obtain ⟨hChoice, hBody, hRest⟩ := h
    rw [Nat.succ_mul] at hExit
    exact fork hChoice (((hA (a + 1)).2 hBody).seq (ih hRest (by omega))) (skip prog text c)

end Repetitions

end Chooses

-- ---------------------------------------------------------------------------
-- Expressions
-- ---------------------------------------------------------------------------

namespace Regex

/-- The instructions of an expression make its choices. -/
theorem chooses_emit {prog : Program} {text : Array Char} (r : Regex)
    (hr : r.loopsConsume = true) {a : Nat} (h : CodeAt prog a (r.emit a)) :
    Chooses prog text (r.choice text) a (a + r.codeSize) := by
  -- each case puts together the choices of the parts as the code puts together their instructions
  induction r generalizing a with
  | empty => exact .skip prog text a
  | chars set ascii => exact .take h.1
  | look assertion => exact .check h.1
  | cat r s ihr ihs =>
    rw [loopsConsume, Bool.and_eq_true] at hr
    rw [emit, codeAt_append, length_emit] at h
    rw [codeSize, ← Nat.add_assoc]
    exact (ihr hr.1 h.1).seq (ihs hr.2 h.2)
  | alt r s ihr ihs =>
    rw [loopsConsume, Bool.and_eq_true] at hr
    obtain ⟨hFork, hFirst, hJump, hSecond⟩ := layout_alt h
    have hEnd : a + 1 + r.codeSize + 1 + s.codeSize = a + (alt r s).codeSize := by
      rw [codeSize]
      omega
    rw [← hEnd]
    exact .fork hFork ((ihr hr.1 hFirst).seq_jump hJump) (ihs hr.2 hSecond)
  | group k r ih =>
    obtain ⟨hOpen, hBody, hClose⟩ := layout_group h
    have hEnd : a + 1 + r.codeSize + 1 = a + (group k r).codeSize := by
      rw [codeSize]
      omega
    rw [← hEnd]
    exact (Chooses.save hOpen).seq ((ih hr hBody).seq (.save hClose))
  | rep r least most greedy ih =>
    rw [loopsConsume, Bool.and_eq_true] at hr
    have hA : Chooses.Everywhere prog text (r.choice text) r.emit r.codeSize :=
      fun b => ⟨length_emit r b, ih hr.1⟩
    cases most with
    | some m =>
      -- rounds that are needed, without a choice; then one choice for each of the others
      obtain ⟨hCopies, hRest⟩ := layout_bounded h
      rw [codeSize, ← Nat.add_assoc]
      exact (Chooses.copies hA hCopies).seq (Chooses.optional hA hRest rfl)
    | none =>
      -- a loop without a bound is the one place where the assumption on rounds is used
      have hAlways : r.alwaysConsumes = true := hr.2
      have hConsumes : ∀ {i j w}, (r.choice text).can i j w → i < j ∧ j ≤ text.size := by
        intro i j w hCan
        rw [can_choice] at hCan
        exact advances_of_alwaysConsumes hAlways hCan
      cases least with
      | zero =>
        have hEnd : a + (rep r 0 none greedy).codeSize = a + r.codeSize + 2 := rfl
        obtain ⟨hChoice, hBody, hJump⟩ := layout_star h
        rw [if_pos hAlways] at hJump
        rw [hEnd]
        exact (Chooses.skip prog text a).seq
          (.loop hChoice ((ih hr.1 hBody).seq_jump hJump) hConsumes)
      | succ count =>
        obtain ⟨hCopies, hChoice⟩ := layout_atLeast h
        exact Chooses.atLeast hA hConsumes hCopies hChoice

-- ---------------------------------------------------------------------------
-- Whole programs
-- ---------------------------------------------------------------------------

section Programs

variable {r : Regex} {text : Array Char}

/-- A program has a match from a place on if its expression does. -/
theorem alive_program_iff {i : Nat} :
    Alive r.program text (0, i) ↔ ∃ j w, r.meaning text i j w := by
  constructor
  · rintro ⟨n, s, hAccepts⟩
    obtain ⟨j, w, hMeaning, -⟩ := (accepts_program_iff r).mp ⟨n, hAccepts⟩
    exact ⟨j, w, hMeaning⟩
  · rintro ⟨j, w, hMeaning⟩
    obtain ⟨n, hAccepts⟩ := (accepts_program_iff r).mpr ⟨j, w, hMeaning, rfl⟩
    exact ⟨n, _, hAccepts⟩

/-- **The match that is found for an expression** begins at the leftmost place from which there is
one, and is the one that the expression prefers there. -/
theorem find_program_first (hr : r.loopsConsume = true) {start : Nat} {m : Match}
    (h : r.program.find text start = some m) :
    ∃ i j w, start ≤ i ∧ i ≤ text.size ∧
      (∀ i', start ≤ i' → i' < i → ¬ ∃ j w, r.meaning text i' j w) ∧
      (r.choice text).first (fun _ => True) i j w ∧ m.slots = (1, j) :: w ++ [(0, i)] := by
  obtain ⟨hOpen, hBody, hClose, hAccept⟩ := r.program_layout
  have hSave : Chooses r.program text (.of (.save 0)) 0 1 := .save hOpen
  have hEnd : Chooses r.program text (.of (.save 1)) (1 + r.codeSize) (1 + r.codeSize + 1) :=
    .save hClose
  have hExpr : Chooses r.program text (r.choice text) 1 (1 + r.codeSize) :=
    r.chooses_emit hr hBody
  -- every search comes to an end, so the match that is found is the preferred one
  have hEnds (i : Nat) : Ends r.program text (0, i) := by
    refine (hSave.seq (hExpr.seq hEnd)).ends fun _ => ?_
    refine ends_of_next hAccept fun u hu => ?_
    cases hu
  obtain ⟨i, n, hStart, hSize, hDead, hPrefers⟩ := find_prefers (fun i _ => hEnds i) h
  -- the three pieces of the program, each left by its preferred way
  obtain ⟨_, _, n₁, -, ⟨⟨rfl, rfl⟩, -⟩, hPrefers⟩ := hSave.prefers hPrefers
  obtain ⟨j, w, n₂, -, hFirst, hPrefers⟩ := hExpr.prefers hPrefers
  obtain ⟨_, _, n₃, -, ⟨⟨rfl, rfl⟩, -⟩, hPrefers⟩ := hEnd.prefers hPrefers
  -- behind the expression everything lives: the end is saved and the match accepted
  have hAlive : (fun k => Alive r.program text (1 + r.codeSize, k)) = fun _ => True := by
    funext k
    rw [hEnd.toImplements.alive_iff]
    exact eq_true ⟨k, [(1, k)], ⟨rfl, rfl⟩, 0, [], .accept hAccept⟩
  rw [hAlive] at hFirst
  refine ⟨_, _, w, hStart, hSize, ?_, hFirst, slots_of_prefers hAccept hPrefers⟩
  intro i' hi' hlt hMeaning
  exact hDead i' hi' hlt (alive_program_iff.mpr hMeaning)

end Programs

end Regex

end TypedSteps
