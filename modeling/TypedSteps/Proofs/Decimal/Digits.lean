import TypedSteps.Decimal.Whole

/-!
# Decimal digits

Digits have the value that their places give them. Reading them one after the other yields that
value, and writing it yields the digits again, unless zeros stand in front of them that count for
nothing.

* `value`, `NoSpareZero` — what digits are worth, and whether all of them are needed;
* `ofDigitChars_eq_value` — digits are read as what they are worth;
* `toDigits_ofDigitChars_iff` — digits without a spare zero are those that are written.
-/

namespace TypedSteps.Decimal

/-- What digits are worth: each counts ten times as much as one in the place behind it. -/
def value : List Char → Nat
  | [] => 0
  | c :: cs => (c.toNat - '0'.toNat) * powerOfTen cs.length + value cs

/-- Only the numeral of zero begins with a zero. -/
def NoSpareZero (cs : List Char) : Prop :=
  cs.head? = some '0' → cs = ['0']

/-- The number that digits are read as is their positional value. -/
theorem ofDigitChars_eq_value (cs : List Char) : Nat.ofDigitChars 10 cs 0 = value cs := by
  induction cs with
  | nil => rfl
  | cons c cs ih =>
    rw [Nat.ofDigitChars_cons, Nat.mul_zero, Nat.zero_add, Nat.ofDigitChars_eq_ofDigitChars_zero,
      ih, Nat.mul_comm]
    rfl

/-- A digit is the character of a number below ten. -/
theorem exists_digitChar {c : Char} (h : c.isDigit = true) : ∃ d, d < 10 ∧ c = d.digitChar := by
  rw [Char.isDigit_iff_toNat] at h
  have hLow : 48 ≤ c.toNat := h.1
  have hHigh : c.toNat ≤ 57 := h.2
  have hlt : c.toNat - 48 < 10 := by omega
  refine ⟨c.toNat - 48, hlt, ?_⟩
  rw [← Char.toNat_inj, Nat.toNat_digitChar_of_lt_ten hlt]
  omega

/-- Digits behind a number that is not zero are the digits it goes on with. -/
theorem toDigits_ofDigitChars {n : Nat} (hPos : 0 < n) {cs : List Char}
    (h : ∀ c ∈ cs, c.isDigit = true) :
    Nat.toDigits 10 (Nat.ofDigitChars 10 cs n) = Nat.toDigits 10 n ++ cs := by
  induction cs generalizing n with
  | nil => rw [Nat.ofDigitChars_nil, List.append_nil]
  | cons c cs ih =>
    obtain ⟨hc, hcs⟩ := List.forall_mem_cons.mp h
    obtain ⟨d, hd, rfl⟩ := exists_digitChar hc
    rw [Nat.ofDigitChars_cons_digitChar_of_lt_ten hd, ih (by omega) hcs,
      ← Nat.toDigits_append_toDigits (by decide) hPos hd, Nat.toDigits_of_lt_base hd,
      List.append_assoc, List.singleton_append]

theorem powerOfTen_succ (n : Nat) : powerOfTen (n + 1) = powerOfTen n * 10 := rfl

/-- Digits are read as a number below the power of ten with as many zeros. -/
theorem ofDigitChars_lt {cs : List Char} (h : ∀ c ∈ cs, c.isDigit = true) :
    Nat.ofDigitChars 10 cs 0 < powerOfTen cs.length := by
  induction cs with
  | nil => exact Nat.one_pos
  | cons c cs ih =>
    obtain ⟨hc, hcs⟩ := List.forall_mem_cons.mp h
    obtain ⟨d, hd, rfl⟩ := exists_digitChar hc
    have hRest : Nat.ofDigitChars 10 cs d =
        powerOfTen cs.length * d + Nat.ofDigitChars 10 cs 0 :=
      Nat.ofDigitChars_eq_ofDigitChars_zero
    rw [Nat.ofDigitChars_cons_digitChar_of_lt_ten hd, Nat.mul_zero, Nat.zero_add, hRest,
      List.length_cons, powerOfTen_succ]
    generalize powerOfTen cs.length = power at ih
    calc power * d + Nat.ofDigitChars 10 cs 0
      _ < power * d + power := Nat.add_lt_add_left (ih hcs) _
      _ = power * (d + 1) := (Nat.mul_succ _ _).symm
      _ ≤ power * 10 := Nat.mul_le_mul_left _ hd

/-- A number has no more digits than it was read from. -/
theorem length_toDigits_ofDigitChars_le {cs : List Char} (hSome : cs ≠ [])
    (h : ∀ c ∈ cs, c.isDigit = true) :
    (Nat.toDigits 10 (Nat.ofDigitChars 10 cs 0)).length ≤ cs.length :=
  (Nat.length_toDigits_le_iff (by decide) (List.length_pos_iff.mpr hSome)).mpr (ofDigitChars_lt h)

/-- Digits are written as they were read just if none of them is a spare zero. -/
theorem toDigits_ofDigitChars_iff {cs : List Char} (hSome : cs ≠ [])
    (h : ∀ c ∈ cs, c.isDigit = true) :
    Nat.toDigits 10 (Nat.ofDigitChars 10 cs 0) = cs ↔ NoSpareZero cs := by
  obtain ⟨c, cs, rfl⟩ := List.exists_cons_of_ne_nil hSome
  obtain ⟨hc, hcs⟩ := List.forall_mem_cons.mp h
  obtain ⟨d, hd, rfl⟩ := exists_digitChar hc
  rw [Nat.ofDigitChars_cons_digitChar_of_lt_ten hd, Nat.mul_zero, Nat.zero_add]
  by_cases hZero : d = 0
  · subst hZero
    by_cases hNil : cs = []
    · subst hNil
      exact iff_of_true rfl fun _ => rfl
    · refine iff_of_false ?_ fun hSpare => hNil (List.cons.inj (hSpare rfl)).2
      intro hWritten
      -- the zero adds nothing to the number, so that what is written is one digit shorter
      have hLength := length_toDigits_ofDigitChars_le hNil hcs
      rw [hWritten, List.length_cons] at hLength
      exact Nat.not_succ_le_self _ hLength
  · have hHead : d.digitChar ≠ '0' := fun heq => hZero (Nat.digitChar_eq_zero.mp heq)
    have hSpare : NoSpareZero (d.digitChar :: cs) := fun heq => absurd (Option.some.inj heq) hHead
    have hWritten := toDigits_ofDigitChars (Nat.pos_of_ne_zero hZero) hcs
    rw [Nat.toDigits_of_lt_base hd, List.singleton_append] at hWritten
    exact iff_of_true hWritten hSpare

end TypedSteps.Decimal
