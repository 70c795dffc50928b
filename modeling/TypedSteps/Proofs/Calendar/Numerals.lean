import TypedSteps.Calendar.DateFormat
import TypedSteps.Proofs.Builtin.Shapes
import TypedSteps.Proofs.Decimal.Digits

/-!
# Numbers of a fixed width

The parts of a date are numbers with a fixed number of digits, zeros in front where the
number itself is shorter. Writing and reading them are inverse to each other.

* `Numeral`, `Numeral.value`, `Numeral.ofDigits` — numbers as they are written;
* `Numeral.padded_value` — the digits of a number are those it is written with;
* `readDigitsUpTo?_digits`, `readYear?_digits` — digits are read as the number they write.
-/

namespace TypedSteps.Calendar

open Decimal (exists_digitChar toDigits_ofDigitChars ofDigitChars_lt
  length_toDigits_ofDigitChars_le)

instance (n : Nat) (v : List Char) : Decidable (Digits n v) :=
  decidable_of_iff (v.length = n ∧ v.all Char.isDigit = true)
    (and_congr Iff.rfl List.all_eq_true)

/-- A number that is written with a fixed number of digits. -/
structure Numeral (width : Nat) where
  digits : List Char
  isNumeral : Digits width digits

/-- The number that is written. -/
def Numeral.value {width : Nat} (n : Numeral width) : Nat :=
  Nat.ofDigitChars 10 n.digits 0

-- ---------------------------------------------------------------------------
-- Digits
-- ---------------------------------------------------------------------------

/-- The digits of numbers are digits, one for each. -/
theorem digits_map_digitChar (ds : List Nat) :
    Digits ds.length (ds.map fun d => (d % 10).digitChar) := by
  refine ⟨List.length_map _, ?_⟩
  intro c hc
  obtain ⟨d, -, rfl⟩ := List.mem_map.mp hc
  rw [Nat.isDigit_digitChar]
  exact decide_eq_true (Nat.mod_lt d (by decide))

/-- The number with the given digits. -/
def Numeral.ofDigits (ds : List Nat) : Numeral ds.length where
  digits := ds.map fun d => (d % 10).digitChar
  isNumeral := digits_map_digitChar ds

/-- The digits of a number with zeros in front are the digits it was read from. -/
theorem padded_ofDigitChars {cs : List Char} (hSome : cs ≠ []) (h : ∀ c ∈ cs, c.isDigit = true) :
    padded cs.length (Nat.ofDigitChars 10 cs 0) = String.ofList cs := by
  induction cs with
  | nil => exact absurd rfl hSome
  | cons c cs ih =>
    obtain ⟨hc, hcs⟩ := List.forall_mem_cons.mp h
    obtain ⟨d, hd, rfl⟩ := exists_digitChar hc
    rw [Nat.ofDigitChars_cons_digitChar_of_lt_ten hd, Nat.mul_zero, Nat.zero_add]
    by_cases hZero : d = 0
    · subst hZero
      by_cases hNil : cs = []
      · subst hNil
        rfl
      · -- a leading zero is one zero more in front of the digits of the rest
        have hLength := length_toDigits_ofDigitChars_le hNil hcs
        have hRest := String.ofList_injective (ih hNil hcs)
        rw [padded, List.length_cons, Nat.succ_sub hLength, List.replicate_succ, List.cons_append,
          hRest]
        rfl
    · have hPos : 0 < d := Nat.pos_of_ne_zero hZero
      rw [padded, toDigits_ofDigitChars hPos hcs, Nat.toDigits_of_lt_base hd,
        List.singleton_append, Nat.sub_self, List.replicate_zero, List.nil_append]

-- ---------------------------------------------------------------------------
-- Numerals
-- ---------------------------------------------------------------------------

section Numerals

variable {width : Nat} (n : Numeral width)

/-- A numeral of so many digits stands for a number below that power of ten. -/
theorem Numeral.value_lt : n.value < Decimal.powerOfTen width := by
  obtain ⟨digits, rfl, hDigits⟩ := n
  exact ofDigitChars_lt hDigits

theorem Numeral.notMem {c : Char} (h : c.isDigit = false) : c ∉ n.digits := by
  intro hMem
  rw [n.isNumeral.2 c hMem] at h
  cases h

theorem Numeral.exists_cons (hPos : 0 < width) :
    ∃ c cs, n.digits = c :: cs ∧ c.isDigit = true := by
  obtain ⟨c, cs, hCons⟩ := List.exists_cons_of_length_pos (n.isNumeral.1 ▸ hPos)
  exact ⟨c, cs, hCons, n.isNumeral.2 c (hCons ▸ List.mem_cons_self)⟩

/-- The number of a numeral is written with the digits of it, zeros in front included. -/
theorem Numeral.padded_value (hPos : 0 < width) : padded width n.value = String.ofList n.digits := by
  obtain ⟨digits, rfl, hDigits⟩ := n
  exact padded_ofDigitChars (List.length_pos_iff.mp hPos) hDigits

-- ---------------------------------------------------------------------------
-- Reading
-- ---------------------------------------------------------------------------

theorem isWhiteSpace_of_isDigit {c : Char} (h : c.isDigit = true) :
    Unicode.isWhiteSpace c = false := by
  obtain ⟨d, hd, rfl⟩ := exists_digitChar h
  have hAll : ∀ d, d < 10 → Unicode.isWhiteSpace (Nat.digitChar d) = false := by decide
  exact hAll d hd

/-- No white space is dropped in front of a number. -/
theorem Numeral.dropWhile_isWhiteSpace (hPos : 0 < width) (rest : List Char) :
    (n.digits ++ rest).dropWhile Unicode.isWhiteSpace = n.digits ++ rest := by
  obtain ⟨c, cs, hCons, hc⟩ := n.exists_cons hPos
  rw [hCons, List.cons_append, List.dropWhile_cons_of_neg]
  rw [isWhiteSpace_of_isDigit hc]
  exact Bool.false_ne_true

/-- A number is read to its end, where the width is used up or a character comes that is no
digit. -/
theorem readDigitsUpTo?_digits {limit : Nat} (hPos : 0 < width) (hle : width ≤ limit)
    {rest : List Char} (hStop : (rest.take (limit - width)).takeWhile Char.isDigit = []) :
    readDigitsUpTo? limit (n.digits ++ rest) = some (n.value, rest) := by
  obtain ⟨digits, rfl, hDigits⟩ := n
  have hTake : ((digits ++ rest).take limit).takeWhile Char.isDigit = digits := by
    rw [List.take_append, List.take_of_length_le hle, List.takeWhile_append_of_pos hDigits, hStop,
      List.append_nil]
  have hSome : digits.isEmpty = false := List.isEmpty_eq_false_iff.mpr (List.length_pos_iff.mp hPos)
  rw [readDigitsUpTo?, hTake]
  dsimp only
  rw [hSome, if_neg Bool.false_ne_true, List.drop_left]
  rfl

/-- A number of two digits. -/
theorem readDigitsUpTo?_two (n : Numeral 2) (rest : List Char) :
    readDigitsUpTo? 2 ((n.digits ++ rest).dropWhile Unicode.isWhiteSpace) =
      some (n.value, rest) := by
  rw [n.dropWhile_isWhiteSpace (by decide)]
  exact readDigitsUpTo?_digits n (by decide) (Nat.le_refl 2) rfl

/-- A number without a sign is read as a year of four digits at most. -/
theorem readYear?_digits (hPos : 0 < width) (hle : width ≤ 4) {rest : List Char}
    (hStop : (rest.take (4 - width)).takeWhile Char.isDigit = []) :
    readYear? ((n.digits ++ rest).dropWhile Unicode.isWhiteSpace) =
      some ((n.value : Int), rest) := by
  rw [n.dropWhile_isWhiteSpace hPos]
  have hRead := readDigitsUpTo?_digits n hPos hle hStop
  obtain ⟨c, cs, hCons, hc⟩ := n.exists_cons hPos
  have hSign {sign : Char} (hSign : sign.isDigit = false) (after : List Char)
      (heq : c :: (cs ++ rest) = sign :: after) : False := by
    rw [(List.cons.inj heq).1, hSign] at hc
    cases hc
  rw [hCons, List.cons_append] at hRead ⊢
  rw [readYear?.eq_3 _ (hSign (by decide)) (hSign (by decide)), hRead]
  rfl

end Numerals

end TypedSteps.Calendar
