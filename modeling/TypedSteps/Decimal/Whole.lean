/-!
# Whole numbers

Reading whole numbers of 64 bits: an optional sign, then ASCII digits. The bounds of
such numbers are `-2^63` and `2^63`.
-/

namespace TypedSteps.Decimal

/-- Splits a sign off a text; `true` stands for the minus sign. -/
def splitSign (cs : List Char) : Bool × List Char :=
  match cs with
  | '-' :: rest => (true, rest)
  | '+' :: rest => (false, rest)
  | rest => (false, rest)

/-- The powers of ten. -/
def powerOfTen (n : Nat) : Nat :=
  Nat.pow 10 n

/-- The number with the given sign and size. -/
def withSign (negative : Bool) (n : Nat) : Int :=
  if negative then -(n : Int) else n

/-- Whether a number fits 64 bits with a sign. -/
def fitsWord (n : Int) : Bool :=
  decide (-0x8000000000000000 ≤ n) && decide (n < 0x8000000000000000)

/-- The whole number that a text shows, if it is one of 64 bits. -/
def readWhole? (text : String) : Option Int :=
  let (negative, digits) := splitSign text.toList
  if digits.isEmpty || !digits.all Char.isDigit then none
  else
    let n := withSign negative (Nat.ofDigitChars 10 digits 0)
    if fitsWord n then some n else none

end TypedSteps.Decimal
