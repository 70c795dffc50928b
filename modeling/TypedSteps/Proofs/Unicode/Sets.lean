import TypedSteps.Unicode.CharSet

/-!
# What sets of characters contain

The members of the sets that the operations on ranges build, for sets whose ranges are in
good order.

* `CharSet.Proper`, `CharSet.contains_union` — no range is upside down;
* `CharSet.Ordered`, `CharSet.contains_complement` — the ranges ascend with gaps between
  them, and no surrogate bounds one.
-/

namespace TypedSteps.Unicode.CharSet

/-- Whether a range holds a code point. -/
def InRange (n : Nat) (r : Nat × Nat) : Prop :=
  r.1 ≤ n ∧ n ≤ r.2

/-- Whether one of several ranges holds a code point. -/
def Covers (n : Nat) (rs : List (Nat × Nat)) : Prop :=
  ∃ r ∈ rs, InRange n r

theorem covers_nil (n : Nat) : ¬ Covers n [] := by
  rintro ⟨r, hr, -⟩
  cases hr

theorem covers_cons {n : Nat} {r : Nat × Nat} {rs : List (Nat × Nat)} :
    Covers n (r :: rs) ↔ InRange n r ∨ Covers n rs := by
  simp [Covers]

/-- A set has the characters that its ranges cover. -/
theorem contains_iff {s : CharSet} {c : Char} :
    s.contains c = true ↔ Covers c.toNat s.ranges := by
  simp [contains, containsCode, Covers, InRange]

/-- A set of one range has the characters of that range. -/
theorem contains_ofRange {lo hi : Nat} {c : Char} :
    (ofRange lo hi).contains c = true ↔ lo ≤ c.toNat ∧ c.toNat ≤ hi := by
  rw [contains_iff, ofRange, covers_cons, or_iff_left (covers_nil _)]
  rfl

-- ---------------------------------------------------------------------------
-- Unions
-- ---------------------------------------------------------------------------

/-- No range of the set is upside down. -/
def Proper (s : CharSet) : Prop :=
  ∀ r ∈ s.ranges, r.1 ≤ r.2

theorem proper_empty : empty.Proper := by
  intro r hr
  cases hr

theorem proper_ofChar (c : Char) : (ofChar c).Proper := by
  intro r hr
  rw [ofChar, List.mem_singleton] at hr
  subst hr
  exact Nat.le_refl c.toNat

/-- Adding a range adds its code points, also where it grows together with others. -/
theorem covers_insertRange {lo hi : Nat} {rs : List (Nat × Nat)} (h : lo ≤ hi)
    (hrs : ∀ r ∈ rs, r.1 ≤ r.2) (n : Nat) :
    Covers n (insertRange lo hi rs) ↔ InRange n (lo, hi) ∨ Covers n rs := by
  induction rs generalizing lo hi with
  | nil => exact covers_cons
  | cons r rest ih =>
    obtain ⟨a, b⟩ := r
    have hab : a ≤ b := hrs (a, b) List.mem_cons_self
    have hRest : ∀ r ∈ rest, r.1 ≤ r.2 := fun r hr => hrs r (List.mem_cons_of_mem _ hr)
    rw [insertRange]
    by_cases hBefore : hi + 1 < a
    · rw [if_pos hBefore, covers_cons]
    · by_cases hAfter : b + 1 < lo
      · rw [if_neg hBefore, if_pos hAfter, covers_cons, ih h hRest, covers_cons, or_left_comm]
      · -- the two ranges touch and cover what lies between their bounds
        have hMerged : InRange n (min lo a, max hi b) ↔ InRange n (lo, hi) ∨ InRange n (a, b) := by
          simp only [InRange]
          omega
        rw [if_neg hBefore, if_neg hAfter, ih (by omega) hRest, hMerged, covers_cons, or_assoc]

/-- To insert a range turns none upside down. -/
theorem proper_insertRange {lo hi : Nat} {rs : List (Nat × Nat)} (h : lo ≤ hi)
    (hrs : ∀ r ∈ rs, r.1 ≤ r.2) : ∀ r ∈ insertRange lo hi rs, r.1 ≤ r.2 := by
  induction rs generalizing lo hi with
  | nil =>
    intro r hr
    rw [insertRange, List.mem_singleton] at hr
    rw [hr]
    exact h
  | cons r rest ih =>
    obtain ⟨a, b⟩ := r
    have hab : a ≤ b := hrs (a, b) List.mem_cons_self
    have hRest : ∀ r ∈ rest, r.1 ≤ r.2 := fun r hr => hrs r (List.mem_cons_of_mem _ hr)
    rw [insertRange]
    split
    · exact List.forall_mem_cons.mpr ⟨h, hrs⟩
    · split
      · exact List.forall_mem_cons.mpr ⟨hab, ih h hRest⟩
      · exact ih (by omega) hRest

theorem union_cons (r : Nat × Nat) (rs : List (Nat × Nat)) (t : CharSet) :
    (union ⟨r :: rs⟩ t).ranges = insertRange r.1 r.2 (union ⟨rs⟩ t).ranges := rfl

/-- A union has no range that is upside down if neither set does. -/
theorem Proper.union {s t : CharSet} (hs : s.Proper) (ht : t.Proper) : (s.union t).Proper := by
  obtain ⟨rs⟩ := s
  induction rs with
  | nil => exact ht
  | cons r rs ih =>
    have hr : r.1 ≤ r.2 := hs r List.mem_cons_self
    have hrs : Proper ⟨rs⟩ := fun q hq => hs q (List.mem_cons_of_mem _ hq)
    rw [Proper, union_cons]
    exact proper_insertRange hr (ih hrs)

/-- A union contains what either set contains. -/
theorem contains_union {s t : CharSet} (hs : s.Proper) (ht : t.Proper) (c : Char) :
    (s.union t).contains c = true ↔ s.contains c = true ∨ t.contains c = true := by
  rw [contains_iff, contains_iff, contains_iff]
  obtain ⟨rs⟩ := s
  induction rs with
  | nil => exact (or_iff_right (covers_nil _)).symm
  | cons r rs ih =>
    have hr : r.1 ≤ r.2 := hs r List.mem_cons_self
    have hrs : Proper ⟨rs⟩ := fun q hq => hs q (List.mem_cons_of_mem _ hq)
    rw [union_cons, covers_insertRange hr (hrs.union ht), ih hrs, covers_cons, or_assoc]

-- ---------------------------------------------------------------------------
-- Complements
-- ---------------------------------------------------------------------------

/-- Whether ranges ascend with a gap between any two of them, up to the highest code
point, and begin and end outside the surrogates. -/
def orderedRanges : List (Nat × Nat) → Bool
  | [] => true
  | [r] => decide (r.1 ≤ r.2 ∧ r.2 ≤ maxCodePoint) && bounds r
  | r :: s :: rest =>
    decide (r.1 ≤ r.2 ∧ next r.2 ≤ prev s.1) && bounds r && orderedRanges (s :: rest)
where
  /-- Whether no surrogate bounds a range. -/
  bounds (r : Nat × Nat) : Bool :=
    decide ((r.1 < 0xD800 ∨ 0xDFFF < r.1) ∧ (r.2 < 0xD800 ∨ 0xDFFF < r.2))

/-- The ranges of the set are in order. -/
def Ordered (s : CharSet) : Prop :=
  orderedRanges s.ranges = true

instance (s : CharSet) : Decidable s.Ordered :=
  inferInstanceAs (Decidable (orderedRanges s.ranges = true))

/-- The code points of characters: no surrogates, and none above the highest. -/
theorem code_cases (c : Char) : (c.toNat < 0xD800 ∨ 0xDFFF < c.toNat) ∧ c.toNat ≤ maxCodePoint := by
  have hValid := c.valid
  simp only [UInt32.isValidChar, Nat.isValidChar] at hValid
  show (c.val.toNat < 0xD800 ∨ 0xDFFF < c.val.toNat) ∧ c.val.toNat ≤ 0x10FFFF
  omega

/-- The code point after a range lies above it, and below the next range. -/
theorem next_cases (n : Nat) : n < next n ∧ (next n = n + 1 ∨ n = 0xD7FF ∧ next n = 0xE000) := by
  rw [next]
  by_cases h : n = 0xD7FF
  · rw [if_pos h]
    omega
  · rw [if_neg h]
    omega

/-- The code point before another, across the surrogates. -/
theorem prev_cases (n : Nat) : prev n ≤ n ∧ (prev n = n - 1 ∨ n = 0xE000 ∧ prev n = 0xD7FF) := by
  rw [prev]
  by_cases h : n = 0xE000
  · rw [if_pos h]
    omega
  · rw [if_neg h]
    omega

/-- What lies below the first range lies in no range and in no gap. -/
theorem not_covers_of_lt {r : Nat × Nat} {rest : List (Nat × Nat)}
    (h : orderedRanges (r :: rest) = true) {n : Nat} (hn : n < r.1) :
    ¬ Covers n (r :: rest) ∧ ¬ Covers n (gaps (r :: rest)) := by
  induction rest generalizing r with
  | nil =>
    simp only [orderedRanges, Bool.and_eq_true, decide_eq_true_eq] at h
    obtain ⟨hNext, -⟩ := next_cases r.2
    refine ⟨?_, ?_⟩
    · rw [covers_cons, or_iff_left (covers_nil n), InRange]
      omega
    · rw [gaps]
      by_cases hLast : r.2 < maxCodePoint
      · rw [if_pos hLast, covers_cons, or_iff_left (covers_nil n), InRange]
        omega
      · rw [if_neg hLast]
        exact covers_nil n
  | cons s rest ih =>
    simp only [orderedRanges, Bool.and_eq_true, decide_eq_true_eq] at h
    obtain ⟨⟨⟨hle, hGap⟩, -⟩, hRest⟩ := h
    obtain ⟨hNext, -⟩ := next_cases r.2
    obtain ⟨hPrev, -⟩ := prev_cases s.1
    -- below the first range is also below the second
    obtain ⟨hRanges, hGaps⟩ := ih hRest (by omega)
    refine ⟨?_, ?_⟩
    · rw [covers_cons, or_iff_left hRanges, InRange]
      omega
    · rw [gaps, covers_cons, or_iff_left hGaps, between, InRange]
      omega

/-- The gap between two ranges holds the characters between them. -/
theorem inRange_between {r s : Nat × Nat} (hGap : next r.2 ≤ prev s.1) {n : Nat}
    (hn : n < 0xD800 ∨ 0xDFFF < n) :
    InRange n (between r s) ↔ r.2 < n ∧ n < s.1 := by
  obtain ⟨hNext, hNexts⟩ := next_cases r.2
  obtain ⟨hPrev, hPrevs⟩ := prev_cases s.1
  simp only [InRange, between, Nat.min_eq_left hGap, Nat.max_eq_right hGap]
  omega

/-- The ends of an ordered range are no surrogates. -/
theorem bounds_of_orderedRanges {r : Nat × Nat} {rest : List (Nat × Nat)}
    (h : orderedRanges (r :: rest) = true) :
    r.1 ≤ r.2 ∧ (r.1 < 0xD800 ∨ 0xDFFF < r.1) ∧ (r.2 < 0xD800 ∨ 0xDFFF < r.2) := by
  cases rest with
  | nil =>
    simp only [orderedRanges, orderedRanges.bounds, Bool.and_eq_true, decide_eq_true_eq] at h
    exact ⟨h.1.1, h.2⟩
  | cons s rest =>
    simp only [orderedRanges, orderedRanges.bounds, Bool.and_eq_true, decide_eq_true_eq] at h
    exact ⟨h.1.1.1, h.1.2⟩

/-- From the first range on, a character lies in a range or in a gap, and not in both. -/
theorem covers_gaps_iff {r : Nat × Nat} {rest : List (Nat × Nat)}
    (h : orderedRanges (r :: rest) = true) {c : Char} (hr : r.1 ≤ c.toNat) :
    Covers c.toNat (gaps (r :: rest)) ↔ ¬ Covers c.toNat (r :: rest) := by
  obtain ⟨hCode, hMax⟩ := code_cases c
  induction rest generalizing r with
  | nil =>
    simp only [orderedRanges, orderedRanges.bounds, Bool.and_eq_true, decide_eq_true_eq] at h
    obtain ⟨hNext, hNexts⟩ := next_cases r.2
    rw [gaps, covers_cons, or_iff_left (covers_nil _)]
    by_cases hLast : r.2 < maxCodePoint
    · rw [if_pos hLast, covers_cons, or_iff_left (covers_nil _), InRange, InRange]
      omega
    · rw [if_neg hLast, InRange]
      exact ⟨fun hc => absurd hc (covers_nil _), fun hOut => absurd ⟨hr, by omega⟩ hOut⟩
  | cons s rest ih =>
    obtain ⟨hle, -⟩ := bounds_of_orderedRanges h
    simp only [orderedRanges, Bool.and_eq_true, decide_eq_true_eq] at h
    obtain ⟨⟨⟨-, hGap⟩, -⟩, hRest⟩ := h
    -- between two ranges a character that is no surrogate lies in the gap
    have hBetween := inRange_between hGap hCode
    obtain ⟨hNext, -⟩ := next_cases r.2
    obtain ⟨hPrev, -⟩ := prev_cases s.1
    rw [gaps, covers_cons, covers_cons, hBetween, InRange]
    by_cases hs : s.1 ≤ c.toNat
    · rw [ih hRest hs, or_iff_right (by omega), or_iff_right (by omega)]
    · -- below the second range only the first one and the gap behind it are left
      obtain ⟨hRanges, hGaps⟩ := not_covers_of_lt hRest (n := c.toNat) (by omega)
      rw [or_iff_left hGaps, or_iff_left hRanges]
      omega

theorem covers_append {n : Nat} {rs ss : List (Nat × Nat)} :
    Covers n (rs ++ ss) ↔ Covers n rs ∨ Covers n ss := by
  simp only [Covers, List.mem_append, or_and_right, exists_or]

/-- A complement contains what the set does not. -/
theorem contains_complement {s : CharSet} (h : s.Ordered) (c : Char) :
    s.complement.contains c = true ↔ ¬ s.contains c = true := by
  obtain ⟨ranges⟩ := s
  obtain ⟨hCode, hMax⟩ := code_cases c
  rw [contains_iff, contains_iff, complement]
  cases ranges with
  | nil =>
    refine ⟨fun _ => covers_nil _, fun _ => ?_⟩
    rw [covers_cons, InRange]
    exact .inl ⟨Nat.zero_le _, hMax⟩
  | cons r rest =>
    obtain ⟨-, hBound, -⟩ := bounds_of_orderedRanges h
    -- what lies below the first range is a gap of its own, unless that begins at zero
    have hFirst : Covers c.toNat (if 0 < r.1 then [(0, prev r.1)] else []) ↔ c.toNat < r.1 := by
      obtain ⟨hPrev, hPrevs⟩ := prev_cases r.1
      by_cases hr : 0 < r.1
      · rw [if_pos hr, covers_cons, or_iff_left (covers_nil _), InRange]
        omega
      · rw [if_neg hr]
        exact ⟨fun hc => absurd hc (covers_nil _), fun hlt => by omega⟩
    show Covers _ ((if 0 < r.1 then [(0, prev r.1)] else []) ++ gaps (r :: rest)) ↔ _
    rw [covers_append, hFirst]
    by_cases hLow : c.toNat < r.1
    · obtain ⟨hRanges, -⟩ := not_covers_of_lt h hLow
      exact ⟨fun _ => hRanges, fun _ => .inl hLow⟩
    · rw [or_iff_right hLow]
      exact covers_gaps_iff h (by omega)

end TypedSteps.Unicode.CharSet
