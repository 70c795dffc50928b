/-!
# Sets of characters

A set of characters is kept as the list of its code-point ranges, lowest first, with
a gap between any two of them. Every operation below keeps that form. The surrogates,
which are code points of no character, may lie inside a range but never bound one: the
code point after `0xD7FF` is taken to be `0xE000`.

* `CharSet.contains` — membership, the view through which sets are read;
* `CharSet.ofRange`, `CharSet.ofChar`, `CharSet.ofRanges` — small sets;
* `CharSet.union`, `CharSet.complement`, `CharSet.inter`, `CharSet.diff`,
  `CharSet.symmDiff` — the set algebra of bracketed classes.
-/

namespace TypedSteps.Unicode

/-- A set of characters, as inclusive ranges of code points in ascending order. -/
structure CharSet where
  ranges : List (Nat × Nat)
  deriving DecidableEq, Repr

namespace CharSet

/-- The highest code point. -/
def maxCodePoint : Nat := 0x10FFFF

/-- Whether some range of the set holds the code point `n`. -/
def containsCode (s : CharSet) (n : Nat) : Bool :=
  s.ranges.any fun r => decide (r.1 ≤ n) && decide (n ≤ r.2)

/-- Whether the character `c` is in the set. -/
def contains (s : CharSet) (c : Char) : Bool :=
  s.containsCode c.toNat

/-- The set without members. -/
def empty : CharSet := .mk []

/-- Whether the set has no members. -/
def isEmpty (s : CharSet) : Bool :=
  s.ranges.isEmpty

/-- Whether the set has exactly one member. -/
def isSingleton (s : CharSet) : Bool :=
  match s.ranges with
  | [(lo, hi)] => lo == hi
  | _ => false

/-- Whether the set meets the code points from `lo` to `hi`. -/
def meets (s : CharSet) (lo hi : Nat) : Bool :=
  s.ranges.any fun r => decide (r.1 ≤ hi) && decide (lo ≤ r.2)

/-- Whether all members are ASCII characters. -/
def isAscii (s : CharSet) : Bool :=
  s.ranges.all fun r => decide (r.2 ≤ 0x7F)

-- ---------------------------------------------------------------------------
-- Ranges
-- ---------------------------------------------------------------------------

/-- The code point of a character that follows `n`. -/
def next (n : Nat) : Nat :=
  if n = 0xD7FF then 0xE000 else n + 1

/-- The code point of a character that precedes `n`. -/
def prev (n : Nat) : Nat :=
  if n = 0xE000 then 0xD7FF else n - 1

/-- Adds a range to an ascending list of ranges; ranges that touch become one. -/
def insertRange (lo hi : Nat) : List (Nat × Nat) → List (Nat × Nat)
  | [] => [(lo, hi)]
  | (a, b) :: rest =>
    if hi + 1 < a then (lo, hi) :: (a, b) :: rest
    else if b + 1 < lo then (a, b) :: insertRange lo hi rest
    else insertRange (min lo a) (max hi b) rest

/-- The range between two ranges. Two ranges with nothing but surrogates between them do
not touch, and what counts as the range between them is their two bounds. -/
def between (r s : Nat × Nat) : Nat × Nat :=
  (min (next r.2) (prev s.1), max (next r.2) (prev s.1))

/-- The ranges after each range of an ascending list. -/
def gaps : List (Nat × Nat) → List (Nat × Nat)
  | [] => []
  | [r] => if r.2 < maxCodePoint then [(next r.2, maxCodePoint)] else []
  | r :: s :: rest => between r s :: gaps (s :: rest)

/-- The part of a range that lies in another one. -/
def overlap? (r s : Nat × Nat) : Option (Nat × Nat) :=
  if max r.1 s.1 ≤ min r.2 s.2 then some (max r.1 s.1, min r.2 s.2) else none

/-- The parts of the range `r` that lie below and above the range `s`. -/
def cut (r s : Nat × Nat) : List (Nat × Nat) :=
  (if r.1 < s.1 then [(r.1, min r.2 (prev s.1))] else []) ++
    (if s.2 < r.2 then [(max r.1 (next s.2), r.2)] else [])

/-- The characters from `lo` to `hi`. -/
def ofRange (lo hi : Nat) : CharSet :=
  .mk [(lo, hi)]

/-- The set with the one member `c`. -/
def ofChar (c : Char) : CharSet :=
  .mk [(c.toNat, c.toNat)]

-- ---------------------------------------------------------------------------
-- Algebra
-- ---------------------------------------------------------------------------

/-- The characters in either set. -/
def union (s t : CharSet) : CharSet :=
  .mk (s.ranges.foldr (fun r acc => insertRange r.1 r.2 acc) t.ranges)

/-- The characters of a list of ranges, in any order. -/
def ofRanges (rs : List (Nat × Nat)) : CharSet :=
  .mk (rs.foldr (fun r acc => insertRange r.1 r.2 acc) [])

/-- The characters that are not in the set. -/
def complement (s : CharSet) : CharSet :=
  match s.ranges with
  | [] => .mk [(0, maxCodePoint)]
  | r :: rest => .mk ((if 0 < r.1 then [(0, prev r.1)] else []) ++ gaps (r :: rest))

/-- The characters in both sets. -/
def inter (s t : CharSet) : CharSet :=
  .mk (s.ranges.flatMap fun r => t.ranges.filterMap (overlap? r))

/-- The characters of `s` that are not in `t`. -/
def diff (s t : CharSet) : CharSet :=
  .mk (s.ranges.flatMap fun r =>
    t.ranges.foldl (fun parts q => parts.flatMap fun part => cut part q) [r])

/-- The characters in exactly one of the two sets. -/
def symmDiff (s t : CharSet) : CharSet :=
  (s.union t).diff (s.inter t)

-- ---------------------------------------------------------------------------
-- Membership
-- ---------------------------------------------------------------------------

theorem contains_empty (c : Char) : empty.contains c = false := rfl

theorem contains_ofChar (c d : Char) : (ofChar c).contains d = (d == c) := by
  have h : (c.toNat ≤ d.toNat ∧ d.toNat ≤ c.toNat) ↔ d = c := by
    constructor
    · intro ⟨h₁, h₂⟩
      exact Char.ext (UInt32.toNat_inj.mp (Nat.le_antisymm h₂ h₁))
    · rintro rfl
      exact ⟨Nat.le_refl _, Nat.le_refl _⟩
  rw [Bool.eq_iff_iff, beq_iff_eq, ← h]
  simp [contains, containsCode, ofChar]

end CharSet

end TypedSteps.Unicode
