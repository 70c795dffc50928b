import TypedSteps.Regex.Normal
import TypedSteps.Regex.Search

/-!
# What expressions match

An expression means a relation between the place of a text where a match begins, the
place where it ends and the slots that are saved on the way. Preferences play no part in
it: they settle which match is found, not which matches there are.

* `Meaning` — such relations, with `Meaning.seq`, `Meaning.pow` and `Meaning.repeats`;
* `Regex.meaning` — the relation of an expression on a text;
* `meaning_concat` — a sequence means its parts one after the other.
-/

namespace TypedSteps

/-- What may happen on a text: where it begins, where it ends, and the slots that are
saved on the way, the newest first. -/
abbrev Meaning := Nat → Nat → Slots → Prop

namespace Meaning

/-- Nothing happens. -/
def skip : Meaning :=
  fun i j w => j = i ∧ w = []

/-- One character with the property `p` is taken. -/
def take (text : Array Char) (p : Char → Bool) : Meaning :=
  fun i j w => (∃ c, text[i]? = some c ∧ p c = true) ∧ j = i + 1 ∧ w = []

/-- The place has the property `p`. -/
def check (p : Nat → Bool) : Meaning :=
  fun i j w => p i = true ∧ j = i ∧ w = []

/-- The place is saved in a slot. -/
def save (slot : Nat) : Meaning :=
  fun i j w => j = i ∧ w = [(slot, i)]

/-- First `P` happens, then `Q`. -/
def seq (P Q : Meaning) : Meaning :=
  fun i k w => ∃ j u v, P i j u ∧ Q j k v ∧ w = v ++ u

/-- One of the two happens. -/
def or (P Q : Meaning) : Meaning :=
  fun i j w => P i j w ∨ Q i j w

/-- `P` happens a number of times. -/
def pow (P : Meaning) : Nat → Meaning
  | 0 => skip
  | n + 1 => P.seq (P.pow n)

/-- `P` happens `least` times and then on, up to `most` times in all if there is a bound. -/
def repeats (P : Meaning) (least : Nat) (most : Option Nat) : Meaning :=
  fun i j w => ∃ n, (∀ m, most = some m → n ≤ m - least) ∧ P.pow (least + n) i j w

/-- Several things happen one after the other. -/
def seqAll (Ps : List Meaning) : Meaning :=
  Ps.foldr seq skip

-- ---------------------------------------------------------------------------
-- Algebra
-- ---------------------------------------------------------------------------

/-- Nothing in front of `P` changes nothing. -/
theorem skip_seq (P : Meaning) : skip.seq P = P := by
  funext i k w
  apply propext
  constructor
  · rintro ⟨j, u, v, ⟨rfl, rfl⟩, hP, rfl⟩
    rwa [List.append_nil]
  · intro hP
    exact ⟨i, [], w, ⟨rfl, rfl⟩, hP, (List.append_nil w).symm⟩

/-- Nothing behind `P` changes nothing. -/
theorem seq_skip (P : Meaning) : P.seq skip = P := by
  funext i k w
  apply propext
  constructor
  · rintro ⟨j, u, v, hP, ⟨rfl, rfl⟩, rfl⟩
    exact hP
  · intro hP
    exact ⟨k, w, [], hP, ⟨rfl, rfl⟩, rfl⟩

/-- Three things in order need no parentheses. -/
theorem seq_assoc (P Q R : Meaning) : (P.seq Q).seq R = P.seq (Q.seq R) := by
  funext i l w
  apply propext
  constructor
  · -- slots are saved newest first, so they are appended the other way round
    rintro ⟨k, -, z, ⟨j, x, y, hP, hQ, rfl⟩, hR, rfl⟩
    exact ⟨j, x, z ++ y, hP, ⟨k, y, z, hQ, hR, rfl⟩, (List.append_assoc z y x).symm⟩
  · rintro ⟨j, x, -, hP, ⟨k, y, z, hQ, hR, rfl⟩, rfl⟩
    exact ⟨k, y ++ x, z, ⟨j, x, y, hP, hQ, rfl⟩, hR, List.append_assoc z y x⟩

/-- Two slots saved around `P` stand around what `P` saves. -/
theorem save_seq_save_iff {P : Meaning} {a b i j : Nat} {w : Slots} :
    (save a).seq (P.seq (save b)) i j w ↔ ∃ u, P i j u ∧ w = (b, j) :: u ++ [(a, i)] := by
  constructor
  · rintro ⟨k, -, v, ⟨rfl, rfl⟩, ⟨l, u, -, hP, ⟨rfl, rfl⟩, rfl⟩, rfl⟩
    exact ⟨u, hP, rfl⟩
  · rintro ⟨u, hP, rfl⟩
    exact ⟨i, [(a, i)], (b, j) :: u, ⟨rfl, rfl⟩, ⟨j, u, [(b, j)], hP, ⟨rfl, rfl⟩, rfl⟩, rfl⟩

/-- Two checks around `P` look at its two ends. -/
theorem check_seq_check_iff {P : Meaning} {p q : Nat → Bool} {i j : Nat} {w : Slots} :
    (check p).seq (P.seq (check q)) i j w ↔ p i = true ∧ P i j w ∧ q j = true := by
  constructor
  · rintro ⟨k, -, v, ⟨hp, rfl, rfl⟩, ⟨l, u, -, hP, ⟨hq, rfl, rfl⟩, rfl⟩, rfl⟩
    exact ⟨hp, by rwa [List.append_nil], hq⟩
  · rintro ⟨hp, hP, hq⟩
    exact ⟨i, [], w, ⟨hp, rfl, rfl⟩, ⟨j, w, [], hP, ⟨hq, rfl, rfl⟩, rfl⟩,
      (List.append_nil w).symm⟩

/-- Rounds may be counted in two parts. -/
theorem pow_add (P : Meaning) (m n : Nat) : P.pow (m + n) = (P.pow m).seq (P.pow n) := by
  induction m with
  | zero => rw [Nat.zero_add, pow, skip_seq]
  | succ m ih => rw [Nat.succ_add, pow, pow, ih, seq_assoc]

/-- A repetition is its least number of rounds and then the rounds that may follow. -/
theorem repeats_eq_seq (P : Meaning) (least : Nat) (most : Option Nat) :
    P.repeats least most = (P.pow least).seq (P.repeats 0 (most.map (· - least))) := by
  funext i k w
  apply propext
  constructor
  · rintro ⟨n, hn, hP⟩
    rw [pow_add] at hP
    obtain ⟨j, u, v, hLeast, hRest, rfl⟩ := hP
    refine ⟨j, u, v, hLeast, ⟨n, ?_, by rwa [Nat.zero_add]⟩, rfl⟩
    intro m hm
    obtain ⟨b, hb, rfl⟩ := Option.map_eq_some_iff.mp hm
    exact hn b hb
  · rintro ⟨j, u, v, hLeast, ⟨n, hn, hRest⟩, rfl⟩
    rw [Nat.zero_add] at hRest
    refine ⟨n, ?_, ?_⟩
    · rintro m rfl
      exact hn _ rfl
    · rw [pow_add]
      exact ⟨j, u, v, hLeast, hRest, rfl⟩

/-- A repetition that is bounded by no round at all does nothing. -/
theorem repeats_zero (P : Meaning) : P.repeats 0 (some 0) = skip := by
  funext i j w
  apply propext
  constructor
  · rintro ⟨n, hn, hP⟩
    obtain rfl : n = 0 := Nat.le_zero.mp (hn 0 rfl)
    exact hP
  · intro hSkip
    exact ⟨0, fun _ _ => Nat.zero_le _, hSkip⟩

/-- A repetition goes through one round and on, or ends, and a bound is lowered by one. -/
theorem repeats_eq_or (P : Meaning) (most : Option Nat) (hMost : most ≠ some 0) :
    P.repeats 0 most = (P.seq (P.repeats 0 (most.map (· - 1)))).or skip := by
  funext i k w
  apply propext
  constructor
  · rintro ⟨n, hn, hP⟩
    cases n with
    | zero => exact .inr hP
    | succ n =>
      rw [Nat.zero_add] at hP
      obtain ⟨j, u, v, hFirst, hRest, rfl⟩ := hP
      refine .inl ⟨j, u, v, hFirst, ⟨n, ?_, by rwa [Nat.zero_add]⟩, rfl⟩
      intro m hm
      obtain ⟨b, hb, rfl⟩ := Option.map_eq_some_iff.mp hm
      have hle := hn b hb
      omega
  · rintro (⟨j, u, v, hFirst, ⟨n, hn, hRest⟩, rfl⟩ | hSkip)
    · rw [Nat.zero_add] at hRest
      refine ⟨n + 1, ?_, by rw [Nat.zero_add]; exact ⟨j, u, v, hFirst, hRest, rfl⟩⟩
      rintro m rfl
      have hle := hn (m - 1) rfl
      -- the bound is not zero, so lowering it by one leaves room for all rounds but the first
      have hPos : m ≠ 0 := fun hm => hMost (congrArg some hm)
      omega
    · exact ⟨0, fun _ _ => Nat.zero_le _, hSkip⟩

theorem seqAll_nil : seqAll [] = skip := rfl

theorem seqAll_cons (P : Meaning) (Ps : List Meaning) : seqAll (P :: Ps) = P.seq (seqAll Ps) := rfl

theorem seqAll_singleton (P : Meaning) : seqAll [P] = P :=
  seq_skip P

/-- Two lists of things happen one after the other. -/
theorem seqAll_append (Ps Qs : List Meaning) :
    seqAll (Ps ++ Qs) = (seqAll Ps).seq (seqAll Qs) := by
  induction Ps with
  | nil => rw [List.nil_append, seqAll_nil, skip_seq]
  | cons P Ps ih => rw [List.cons_append, seqAll_cons, seqAll_cons, ih, seq_assoc]

end Meaning

-- ---------------------------------------------------------------------------
-- Expressions
-- ---------------------------------------------------------------------------

namespace Regex

/-- What an expression means on a text. -/
def meaning (text : Array Char) : Regex → Meaning
  | empty => .skip
  | chars set _ => .take text set.contains
  | look assertion => .check fun i => assertion.holds (charBefore text i) text[i]?
  | cat a b => (a.meaning text).seq (b.meaning text)
  | alt a b => (a.meaning text).or (b.meaning text)
  | rep r least most _ => (r.meaning text).repeats least most
  | group k r => (Meaning.save (2 * k)).seq ((r.meaning text).seq (.save (2 * k + 1)))

/-- What a sequence of expressions means. -/
def meaningAll (text : Array Char) (rs : List Regex) : Meaning :=
  .seqAll (rs.map (·.meaning text))

theorem meaningAll_cons (text : Array Char) (r : Regex) (rs : List Regex) :
    meaningAll text (r :: rs) = (r.meaning text).seq (meaningAll text rs) := rfl

/-- A sequence may be cut in two. -/
theorem meaningAll_append (text : Array Char) (rs ss : List Regex) :
    meaningAll text (rs ++ ss) = (meaningAll text rs).seq (meaningAll text ss) := by
  rw [meaningAll, List.map_append, Meaning.seqAll_append]
  rfl

theorem meaningAll_singleton (text : Array Char) (r : Regex) :
    meaningAll text [r] = r.meaning text :=
  Meaning.seqAll_singleton _

/-- An expression means its factors in order. -/
theorem meaningAll_factors (text : Array Char) (r : Regex) :
    meaningAll text r.factors = r.meaning text := by
  induction r with
  | cat a b iha ihb =>
    rw [factors, meaningAll_append, iha, ihb]
    rfl
  | empty => rfl
  | chars | look | alt | rep | group => exact meaningAll_singleton text _

/-- Factors that are put together mean what they mean in order. -/
theorem meaning_ofFactors (text : Array Char) (rs : List Regex) :
    (ofFactors rs).meaning text = meaningAll text rs := by
  induction rs with
  | nil => rfl
  | cons r rs ih =>
    cases rs with
    -- a single factor is not put into a sequence
    | nil => exact (meaningAll_singleton text r).symm
    | cons s rs =>
      show (r.meaning text).seq ((ofFactors (s :: rs)).meaning text) = _
      rw [ih, meaningAll_cons text r]

/-- A sequence means its parts one after the other. -/
theorem meaning_concat (text : Array Char) (rs : List Regex) :
    (concat rs).meaning text = meaningAll text rs := by
  rw [concat, meaning_ofFactors]
  induction rs with
  | nil => rfl
  | cons r rs ih =>
    rw [List.flatMap_cons, meaningAll_append, ih, meaningAll_factors, meaningAll_cons]

end Regex

end TypedSteps
