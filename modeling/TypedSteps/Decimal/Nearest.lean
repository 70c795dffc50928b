import TypedSteps.Decimal.Whole
import TypedSteps.Text.Basic

/-!
# Reading decimal fractions

A decimal number is read exactly, as a fraction of two natural numbers, and then
rounded once to the nearest binary floating-point number, a tie going to the even one.
Everything but the last step is arithmetic on natural numbers.

* `nearestBits` — the bits of the number nearest to a fraction;
* `readFloat?` — the number that a text shows.
-/

namespace TypedSteps.Decimal

/-- The number of different fractions that the 52 bits of a fraction can show. -/
def fractionCount : Nat := 0x10000000000000

/-- The bits of positive infinity. -/
def infinityBits : Nat := 0x7FF0000000000000

/-- The bit that makes a number negative. -/
def signBit : Nat := 0x8000000000000000

/-- The quotient of two natural numbers, rounded to the nearest; a tie goes to the even
quotient. -/
def divideNearest (num den : Nat) : Nat :=
  let q := num / den
  let twice := 2 * (num % den)
  if twice < den then q
  else if den < twice then q + 1
  else if q % 2 = 0 then q else q + 1

/-- The quotient `num / (den * 2 ^ e)` as a pair of a numerator and a denominator. -/
def scaleBinary (num den : Nat) (e : Int) : Nat × Nat :=
  if 0 ≤ e then (num, den <<< e.toNat) else (num <<< (-e).toNat, den)

/-- The exponent of the last binary place that the number nearest to `num / den` has:
it leaves 53 places, or fewer for numbers too small for that. -/
def lastPlace (num den : Nat) : Int :=
  let guess := (num.log2 : Int) - den.log2 - 52
  let (n, d) := scaleBinary num den guess
  let exact := if n / d < fractionCount then guess - 1 else guess
  max exact (-1074)

/-- The bits of the positive number nearest to `num / den`; beyond the greatest number
they are those of infinity. -/
def nearestBits (num den : Nat) : Nat :=
  if num = 0 then 0
  else
    let e := lastPlace num den
    let (n, d) := scaleBinary num den e
    let q := divideNearest n d
    -- The leading bit of `q` adds one to the exponent field, as it should.
    min (q + (e + 1074).toNat * fractionCount) infinityBits

/-- The bits of the number nearest to `digits * 10 ^ exponent`. Far outside the range
of such numbers the answer is settled without computing the power. -/
def nearestBitsOfScientific (digits : Nat) (exponent : Int) : Nat :=
  if digits = 0 then 0
  else
    let magnitude := (Nat.toDigits 10 digits).length + exponent
    if 310 < magnitude then infinityBits
    else if magnitude < -330 then 0
    else if 0 ≤ exponent then nearestBits (digits * powerOfTen exponent.toNat) 1
    else nearestBits digits (powerOfTen (-exponent).toNat)

/-- The number with the given sign and bits. -/
def floatOfBits (negative : Bool) (bits : Nat) : Float :=
  Float.ofBits (UInt64.ofNat (if negative then bits + signBit else bits))

/-- The bits of a number that is not a number. -/
def nanBits : Nat := 0x7FF8000000000000

/-- Reads an exponent: nothing, or a letter `e`, a sign and digits. -/
def readExponent? (cs : List Char) : Option Int :=
  match cs with
  | [] => some 0
  | c :: rest =>
    if c.toLower = 'e' then
      let (negative, digits) := splitSign rest
      if digits.isEmpty || !digits.all Char.isDigit then none
      else some (withSign negative (Nat.ofDigitChars 10 digits 0))
    else none

/-- Reads the bits of a number without a sign: digits with at most one point among
them, and an exponent. -/
def readMagnitude? (cs : List Char) : Option Nat :=
  let whole := cs.takeWhile Char.isDigit
  let rest := cs.drop whole.length
  let (fraction, tail) :=
    match rest with
    | '.' :: after => (after.takeWhile Char.isDigit, after.dropWhile Char.isDigit)
    | rest => ([], rest)
  if whole.isEmpty && fraction.isEmpty then none
  else
    (readExponent? tail).map fun e =>
      nearestBitsOfScientific (Nat.ofDigitChars 10 (whole ++ fraction) 0) (e - fraction.length)

/-- The floating-point number that a text shows: a decimal number, or the name of an
infinity or of the number that is none, in any case. -/
def readFloat? (text : String) : Option Float :=
  let (negative, body) := splitSign text.toList
  match Text.asciiLowercase (String.ofList body) with
  | "inf" => some (floatOfBits negative infinityBits)
  | "infinity" => some (floatOfBits negative infinityBits)
  | "nan" => some (floatOfBits negative nanBits)
  | _ => (readMagnitude? body).map (floatOfBits negative)

end TypedSteps.Decimal
