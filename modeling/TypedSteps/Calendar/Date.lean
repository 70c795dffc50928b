/-!
# Calendar dates

Dates of the Gregorian calendar, carried on without bounds before its introduction and
after today, and the numbering of days that goes with them. Day `0` is 1970-01-01.

* `Date`, `Date.isValid` — years, months and days;
* `Date.dayNumber` — the number of the day that a date names;
* `Date.ofDayNumber` — the date of a day.
-/

namespace TypedSteps.Calendar

/-- A year, a month and a day, each counted from one; years before the first count on
downwards. -/
structure Date where
  year : Int
  month : Nat
  day : Nat
  deriving DecidableEq, Repr

/-- Whether a year has a 29 February. -/
def isLeapYear (year : Int) : Bool :=
  year % 4 == 0 && (year % 100 != 0 || year % 400 == 0)

/-- The lengths of the months of a year. -/
def monthLengths (year : Int) : List Nat :=
  [31, if isLeapYear year then 29 else 28, 31, 30, 31, 30, 31, 31, 30, 31, 30, 31]

/-- Whether a date is one of the calendar. -/
def Date.isValid (d : Date) : Bool :=
  decide (1 ≤ d.month) && decide (1 ≤ d.day) &&
    match (monthLengths d.year)[d.month - 1]? with
    | some length => decide (d.day ≤ length)
    | none => false

/-- The number of days from 1 January of the year 1 to 1 January of another year. -/
def daysBeforeYear (year : Int) : Int :=
  365 * (year - 1) + (year - 1) / 4 - (year - 1) / 100 + (year - 1) / 400

/-- The number of days from 1 January to the first of a month. -/
def daysBeforeMonth (year : Int) (month : Nat) : Nat :=
  ((monthLengths year).take (month - 1)).foldr (· + ·) 0

/-- The number of days from 1 January of the year 1 to day `0`. -/
def dayZero : Int := 719162

/-- The number of the day that a date names. -/
def Date.dayNumber (d : Date) : Int :=
  daysBeforeYear d.year + daysBeforeMonth d.year d.month + d.day - 1 - dayZero

/-- The year in which a day lies, given how many days after 1 January of the year 1 it
is. The mean length of a year gives it up to one. -/
def yearOfDay (days : Int) : Int :=
  let guess := 400 * days / 146097 + 1
  if days < daysBeforeYear guess then guess - 1
  else if daysBeforeYear (guess + 1) ≤ days then guess + 1
  else guess

/-- Splits a day of the year, counted from zero, into the number of whole months before
it and the day of its month, counted from zero too. -/
def splitMonths : List Nat → Nat → Nat × Nat
  | [], days => (0, days)
  | length :: rest, days =>
    if days < length then (0, days)
    else
      let (months, day) := splitMonths rest (days - length)
      (months + 1, day)

/-- The date of a day. -/
def Date.ofDayNumber (n : Int) : Date :=
  let days := n + dayZero
  let year := yearOfDay days
  let (months, day) := splitMonths (monthLengths year) (days - daysBeforeYear year).toNat
  ⟨year, months + 1, day + 1⟩

/-- The day of the week of a day, Sunday being `0`. -/
def weekday (n : Int) : Nat :=
  ((n + 4) % 7).toNat

end TypedSteps.Calendar
