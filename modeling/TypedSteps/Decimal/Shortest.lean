import TypedSteps.Decimal.Nearest

/-!
# The shortest decimal that reads back

A floating-point number is written with the fewest digits that read back as the same
number, and among those with the nearest ones. A finite number is `m * 2 ^ q`; the
decimals that read back as it fill the interval up to the midpoints towards its two
neighbours, ends included when `m` is even. On a grid of powers of ten only the two
points around the number can be in the interval, so those two are tried, on finer and
finer grids.

* `shortest` — the digits and the exponent;
* `showFloat` — how floating-point numbers are written.
-/

namespace TypedSteps.Decimal

/-- A finite positive number as `significand * 2 ^ exponent`. -/
structure Binary where
  significand : Nat
  exponent : Int

/-- The number with the given bits, sign left out. -/
def Binary.ofBits (bits : Nat) : Binary :=
  let field : Nat := bits / fractionCount
  let fraction := bits % fractionCount
  if field = 0 then ⟨fraction, -1074⟩ else ⟨fraction + fractionCount, (field : Int) - 1075⟩

/-- Where a number lies among its neighbours, over one denominator: the number itself
and the ends of the interval of what reads back as it. -/
structure Interval where
  value : Nat
  low : Nat
  high : Nat
  den : Nat
  closed : Bool

/-- The interval of the decimals that read back as a number. Below the least number of
a binary order the neighbour is only half as far. -/
def Binary.interval (b : Binary) : Interval :=
  let up := b.exponent.toNat
  let step := if b.significand = fractionCount && b.exponent != -1074 then 1 else 2
  { value := (4 * b.significand) <<< up
    low := (4 * b.significand - step) <<< up
    high := (4 * b.significand + 2) <<< up
    den := 4 <<< (-b.exponent).toNat
    closed := b.significand % 2 == 0 }

/-- The decimal `digits * 10 ^ place` over the denominator of an interval, together with
what the interval has to be scaled by to be compared with it. -/
def Interval.onGrid (i : Interval) (digits : Nat) (place : Int) : Nat × Nat :=
  (digits * i.den * powerOfTen place.toNat, powerOfTen (-place).toNat)

/-- Whether a decimal reads back as the number. -/
def Interval.contains (i : Interval) (digits : Nat) (place : Int) : Bool :=
  let (point, scale) := i.onGrid digits place
  if i.closed then decide (i.low * scale ≤ point) && decide (point ≤ i.high * scale)
  else decide (i.low * scale < point) && decide (point < i.high * scale)

/-- The distance of a decimal from the number. -/
def Interval.distance (i : Interval) (digits : Nat) (place : Int) : Nat :=
  let (point, scale) := i.onGrid digits place
  (point - i.value * scale) + (i.value * scale - point)

/-- The decimal of a grid that reads back as the number, the nearer one if both of its
neighbours do; of two as near the greater. -/
def Interval.pick? (i : Interval) (place : Int) : Option Nat :=
  let below := i.value * powerOfTen (-place).toNat / (i.den * powerOfTen place.toNat)
  match i.contains below place, i.contains (below + 1) place with
  | true, true =>
    some (if i.distance below place < i.distance (below + 1) place then below else below + 1)
  | true, false => some below
  | false, true => some (below + 1)
  | false, false => none

/-- The first grid with a decimal that reads back, from `place` on downwards. -/
def Interval.search (i : Interval) : Nat → Int → Nat × Int
  | 0, place => (i.value, place)
  | fuel + 1, place =>
    match i.pick? place with
    | some digits => (digits, place)
    | none => i.search fuel (place - 1)

/-- The exponent of the leading decimal digit of a number, found from a place above it
downwards. -/
def Interval.leadingPlace (i : Interval) : Nat → Int → Int
  | 0, place => place
  | fuel + 1, place =>
    let (point, scale) := i.onGrid 1 place
    if point ≤ i.value * scale then place else i.leadingPlace fuel (place - 1)

/-- Drops zeros at the end of some digits. -/
def dropZeros : Nat → Nat × Int → Nat × Int
  | 0, p => p
  | fuel + 1, (digits, place) =>
    if digits % 10 = 0 then dropZeros fuel (digits / 10, place + 1) else (digits, place)

/-- The fewest digits that read back as the number, as digits and the exponent of the
last one. -/
def shortest (bits : Nat) : Nat × Int :=
  let i := (Binary.ofBits bits).interval
  dropZeros 20 (i.search 20 (i.leadingPlace 700 310))

-- ---------------------------------------------------------------------------
-- Writing
-- ---------------------------------------------------------------------------

/-- Writes digits and the exponent of the last one. Numbers from 10^-4 up to below
10^16 are written out, with at least one place after the point; others show one digit
before the point and an exponent. -/
def writeDecimal (digits : Nat) (place : Int) : String :=
  let ds := Nat.toDigits 10 digits
  let leading := place + ds.length - 1
  let text :=
    if -4 ≤ leading ∧ leading < 16 then
      if 0 ≤ place then ds ++ List.replicate place.toNat '0' ++ ['.', '0']
      else if 0 ≤ leading then
        ds.take (leading.toNat + 1) ++ '.' :: ds.drop (leading.toNat + 1)
      else '0' :: '.' :: List.replicate ((-leading).toNat - 1) '0' ++ ds
    else
      let fraction := ds.drop 1
      ds.take 1 ++ (if fraction.isEmpty then [] else '.' :: fraction) ++
        'e' :: (if leading < 0 then ['-'] else []) ++ Nat.toDigits 10 leading.natAbs
  String.ofList text

/-- A floating-point number as it is written. -/
def showFloat (x : Float) : String :=
  let bits := x.toBits.toNat
  let magnitude := bits % signBit
  let sign := if signBit ≤ bits then "-" else ""
  if infinityBits < magnitude then "NaN"
  else if magnitude = infinityBits then sign ++ "inf"
  else if magnitude = 0 then sign ++ "0.0"
  else
    let (digits, place) := shortest magnitude
    sign ++ writeDecimal digits place

end TypedSteps.Decimal
