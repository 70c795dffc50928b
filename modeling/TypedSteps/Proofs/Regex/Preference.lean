import TypedSteps.Proofs.Regex.Meaning

/-!
# Which match is preferred

An expression may match in several ways from one place. A search takes the first of them that
leads to a match as a whole, so which way that is depends on what comes behind the expression:
on the places from which the rest still succeeds.

* `Meaning.Reaches` — a place of some kind can be got to;
* `Choice` — what can happen, and what happens first where only some places are of use behind
  it; `Choice.seq`, `Choice.or`, `Choice.pow`, `Choice.upTo`, `Choice.loop`;
* `Regex.choice`, `can_choice` — the choices of an expression, between the ways that it means;
* `Choice.Rounds.stops`, `Choice.Rounds.invariant` — where a loop ends;
* `first_repeated_take` — a greedy repetition of one character takes all the characters that it
  can;
* `first_group` — a group takes what its body does;
* `first_ofFactors_concat` — how a sequence ends is how its last part does.
-/

namespace TypedSteps

/-- A place with the property `K` can be got to. -/
def Meaning.Reaches (M : Meaning) (K : Nat → Prop) (i : Nat) : Prop :=
  ∃ j w, M i j w ∧ K j

/-- Where any place will do, going no further is enough. -/
theorem Meaning.reaches_repeats {M : Meaning} {K : Nat → Prop} (hK : ∀ k, K k) (i : Nat) :
    (M.repeats 0 none).Reaches K i :=
  ⟨i, [], ⟨0, nofun, rfl, rfl⟩, hK i⟩

/-- What can happen on a text, and which way comes first among those that end at a place with a
given property. -/
structure Choice where
  can : Meaning
  first : (Nat → Prop) → Meaning
  sound : ∀ {K : Nat → Prop} {i j : Nat} {w : Slots}, first K i j w → can i j w ∧ K j

namespace Choice

-- ---------------------------------------------------------------------------
-- Choices
-- ---------------------------------------------------------------------------

/-- What can happen in one way only. -/
def of (M : Meaning) : Choice where
  can := M
  first K i j w := M i j w ∧ K j
  sound h := h

/-- First `A` happens, in the preferred of the ways from which `B` can go on, then `B`. -/
def seq (A B : Choice) : Choice where
  can := A.can.seq B.can
  first K := (A.first (B.can.Reaches K)).seq (B.first K)
  sound := by
    rintro K i k w ⟨j, u, v, hA, hB, rfl⟩
    obtain ⟨hAcan, -⟩ := A.sound hA
    obtain ⟨hBcan, hK⟩ := B.sound hB
    exact ⟨⟨j, u, v, hAcan, hBcan, rfl⟩, hK⟩

/-- `A` happens if it can, and else `B`. -/
def or (A B : Choice) : Choice where
  can := A.can.or B.can
  first K i j w := A.first K i j w ∨ ¬ A.can.Reaches K i ∧ B.first K i j w
  sound := by
    rintro K i j w (hA | ⟨-, hB⟩)
    · exact ⟨.inl (A.sound hA).1, (A.sound hA).2⟩
    · exact ⟨.inr (B.sound hB).1, (B.sound hB).2⟩

/-- A choice between going on inside and leaving, in the order that greed asks for. -/
def either (greedy : Bool) (inside outside : Choice) : Choice :=
  if greedy then inside.or outside else outside.or inside

/-- The second of two choices is taken where the preferred one is dead. -/
theorem first_either {greedy : Bool} {A B : Choice} {K : Nat → Prop} {i j : Nat} {w : Slots} :
    (either greedy A B).first K i j w ↔
      (greedy = false → ¬ B.can.Reaches K i) ∧ A.first K i j w ∨
        (greedy = true → ¬ A.can.Reaches K i) ∧ B.first K i j w := by
  cases greedy with
  | false => simp [either, or, or_comm]
  | true => simp [either, or]

/-- `A` happens a number of times. -/
def pow (A : Choice) : Nat → Choice
  | 0 => of .skip
  | n + 1 => A.seq (A.pow n)

/-- `A` happens up to a number of times. -/
def upTo (A : Choice) (greedy : Bool) : Nat → Choice
  | 0 => of .skip
  | n + 1 => either greedy (A.seq (A.upTo greedy n)) (of .skip)

/-- The rounds of a loop. A greedy loop stops where no further round leads on, and any other goes
on where it cannot stop. -/
inductive Rounds (A : Choice) (greedy : Bool) (K : Nat → Prop) : Nat → Nat → Slots → Prop
  | again {i k j : Nat} {u v : Slots} (hTurn : greedy = false → ¬ K i)
      (hBody : A.first ((A.can.repeats 0 none).Reaches K) i k u) (hRest : Rounds A greedy K k j v) :
      Rounds A greedy K i j (v ++ u)
  | stop {i : Nat} (hTurn : greedy = true →
      ¬ A.can.Reaches ((A.can.repeats 0 none).Reaches K) i) (hK : K i) : Rounds A greedy K i i []

/-- Rounds that are preferred can be gone. -/
theorem Rounds.sound {A : Choice} {greedy : Bool} {K : Nat → Prop} {i j : Nat} {w : Slots}
    (h : Rounds A greedy K i j w) : A.can.repeats 0 none i j w ∧ K j := by
  induction h with
  | stop _ hK => exact ⟨⟨0, by simp, rfl, rfl⟩, hK⟩
  | @again i k j u v _ hBody _ ih =>
    refine ⟨?_, ih.2⟩
    rw [Meaning.repeats_eq_or _ none (by simp)]
    exact .inl ⟨k, u, v, (A.sound hBody).1, ih.1, rfl⟩

/-- A greedy loop ends where no further round leads on. -/
theorem Rounds.stops {A : Choice} {K : Nat → Prop} {i j : Nat} {w : Slots}
    (h : Rounds A true K i j w) : ¬ A.can.Reaches ((A.can.repeats 0 none).Reaches K) j := by
  induction h with
  | stop hTurn _ => exact hTurn rfl
  | again _ _ _ ih => exact ih

/-- What holds where a loop begins, and behind every round, holds where it ends. -/
theorem Rounds.invariant {A : Choice} {greedy : Bool} {K : Nat → Prop} {i j : Nat} {w : Slots}
    {P : Nat → Prop} (h : Rounds A greedy K i j w) (hBegin : P i)
    (hRound : ∀ {i k u}, A.first ((A.can.repeats 0 none).Reaches K) i k u → P k) : P j := by
  induction h with
  | stop _ _ => exact hBegin
  | again _ hBody _ ih => exact ih (hRound hBody)

/-- `A` happens any number of times. -/
def loop (A : Choice) (greedy : Bool) : Choice where
  can := A.can.repeats 0 none
  first := Rounds A greedy
  sound := Rounds.sound

theorem can_pow (A : Choice) (n : Nat) : (A.pow n).can = A.can.pow n := by
  induction n with
  | zero => rfl
  | succ n ih =>
    show A.can.seq (A.pow n).can = _
    rw [ih]
    rfl

theorem can_either (greedy : Bool) (A B : Choice) : (either greedy A B).can = A.can.or B.can := by
  cases greedy with
  | true => rfl
  | false =>
    funext i j w
    exact propext or_comm

/-- Rounds that need not be gone are a repetition with a bound. -/
theorem can_upTo (A : Choice) (greedy : Bool) (n : Nat) :
    (A.upTo greedy n).can = A.can.repeats 0 (some n) := by
  induction n with
  | zero => exact (Meaning.repeats_zero A.can).symm
  | succ n ih =>
    rw [upTo, can_either, Meaning.repeats_eq_or _ (some (n + 1)) (by simp)]
    show (A.can.seq (A.upTo greedy n).can).or .skip = _
    rw [ih]
    rfl

end Choice

-- ---------------------------------------------------------------------------
-- Expressions
-- ---------------------------------------------------------------------------

namespace Regex

/-- The choices that an expression leaves on a text. -/
def choice (text : Array Char) : Regex → Choice
  | empty => .of .skip
  | chars set _ => .of (.take text set.contains)
  | look assertion => .of (.check fun i => assertion.holds (charBefore text i) text[i]?)
  | cat a b => (a.choice text).seq (b.choice text)
  | alt a b => (a.choice text).or (b.choice text)
  | group k r =>
    (Choice.of (.save (2 * k))).seq ((r.choice text).seq (.of (.save (2 * k + 1))))
  | rep r least most greedy =>
    ((r.choice text).pow least).seq
      (match most with
      | some m => (r.choice text).upTo greedy (m - least)
      | none => (r.choice text).loop greedy)

/-- The ways to choose from are those that the expression means. -/
theorem can_choice (text : Array Char) (r : Regex) : (r.choice text).can = r.meaning text := by
  induction r with
  | empty | chars | look => rfl
  | cat a b iha ihb =>
    rw [meaning, ← iha, ← ihb]
    rfl
  | alt a b iha ihb =>
    rw [meaning, ← iha, ← ihb]
    rfl
  | group k r ih =>
    rw [meaning, ← ih]
    rfl
  | rep r least most greedy ih =>
    rw [meaning, ← ih, Meaning.repeats_eq_seq, ← Choice.can_pow]
    cases most with
    | some m =>
      show Meaning.seq _ ((r.choice text).upTo greedy (m - least)).can = _
      rw [Choice.can_upTo]
      rfl
    | none => rfl

end Regex

-- ---------------------------------------------------------------------------
-- One character again and again
-- ---------------------------------------------------------------------------

section Characters

variable {text : Array Char} {p : Char → Bool} {K : Nat → Prop} {i j : Nat} {w : Slots}

/-- A greedy repetition of one character, behind which any place will do, goes on to the first
character that it cannot take. -/
theorem first_repeated_take (hK : ∀ k, K k) {least : Nat}
    (h : (((Choice.of (.take text p)).pow least).seq
      ((Choice.of (.take text p)).loop true)).first K i j w) :
    ∀ c, text[j]? = some c → p c = false := by
  obtain ⟨k, u, v, -, hLoop, -⟩ := h
  intro c hc
  refine Bool.eq_false_iff.mpr fun hp => Choice.Rounds.stops hLoop ?_
  exact ⟨j + 1, [], ⟨⟨c, hc, hp⟩, rfl, rfl⟩, Meaning.reaches_repeats hK _⟩

/-- A group behind which any place will do takes what its body prefers there. -/
theorem first_group (hK : ∀ k, K k) {index : Nat} {r : Regex}
    (h : ((Regex.group index r).choice text).first K i j w) :
    ∃ K' u, (∀ k, K' k) ∧ (r.choice text).first K' i j u := by
  obtain ⟨k, _, v, ⟨⟨rfl, rfl⟩, -⟩, ⟨l, u, _, hBody, ⟨⟨rfl, rfl⟩, -⟩, -⟩, -⟩ := h
  exact ⟨_, u, fun k => ⟨k, _, ⟨rfl, rfl⟩, hK k⟩, hBody⟩

/-- How a sequence ends is how its last part does. -/
theorem first_ofFactors_concat {rs : List Regex} {r : Regex}
    (h : ((Regex.ofFactors (rs ++ [r])).choice text).first K i j w) :
    ∃ k u, (r.choice text).first K k j u := by
  induction rs generalizing i w with
  | nil => exact ⟨i, w, h⟩
  | cons s rs ih =>
    have hCat : Regex.ofFactors (s :: rs ++ [r]) = .cat s (.ofFactors (rs ++ [r])) := by
      cases rs <;> rfl
    rw [hCat] at h
    obtain ⟨k, u, v, -, hRest, -⟩ := h
    exact ih hRest

end Characters

end TypedSteps
