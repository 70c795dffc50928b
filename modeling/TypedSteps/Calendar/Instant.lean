import TypedSteps.Calendar.Date

/-!
# Times and instants

A wall clock shows a date and a time of day; an instant is a point on the time line.
A clock may show the second `60` of a leap second. On the time line that second lies
within second `59`, one whole second of nanoseconds further on.

* `WallTime` — a date with a time of day;
* `Instant` — a point in time;
* `Instant.render`, `Instant.renderUtc` — how instants are written.
-/

namespace TypedSteps.Calendar

/-- The number of seconds of a day. -/
def secondsPerDay : Int := 86400

/-- The number of nanoseconds of a second. -/
def nanosPerSecond : Nat := 1000000000

/-- A date with a time of day, as a clock on the wall shows it. -/
structure WallTime where
  date : Date
  hour : Nat := 0
  minute : Nat := 0
  second : Nat := 0
  deriving DecidableEq, Repr

/-- A point in time: seconds since the start of day `0`, and nanoseconds. -/
structure Instant where
  seconds : Int
  nanos : Nat := 0
  deriving DecidableEq, Repr

/-- Whether a clock can show a time. -/
def WallTime.isValid (t : WallTime) : Bool :=
  t.date.isValid && decide (t.hour ≤ 23) && decide (t.minute ≤ 59) && decide (t.second ≤ 60)

/-- The seconds from the start of day `0` to a wall time, as if the clock ran in UTC; a
leap second counts as the second before it. -/
def WallTime.seconds (t : WallTime) : Int :=
  t.date.dayNumber * secondsPerDay + t.hour * 3600 + t.minute * 60 + min t.second 59

/-- The nanoseconds of a wall time: those of a leap second. -/
def WallTime.nanos (t : WallTime) : Nat :=
  if t.second = 60 then nanosPerSecond else 0

/-- The instant at which a clock in UTC shows a time. -/
def WallTime.atUtc (t : WallTime) : Instant :=
  ⟨t.seconds, t.nanos⟩

/-- What a clock in UTC shows at an instant. -/
def Instant.wallTime (i : Instant) : WallTime :=
  let time := (i.seconds % secondsPerDay).toNat
  { date := .ofDayNumber (i.seconds / secondsPerDay)
    hour := time / 3600
    minute := time / 60 % 60
    second := time % 60 + i.nanos / nanosPerSecond }

-- ---------------------------------------------------------------------------
-- Range
-- ---------------------------------------------------------------------------

/-- The first year that dates can be in. -/
def firstYear : Int := -262143

/-- The last year that dates can be in. -/
def lastYear : Int := 262142

/-- Whether an instant lies in the years that dates can be in. -/
def Instant.inRange (i : Instant) : Bool :=
  decide (daysBeforeYear firstYear - dayZero ≤ i.seconds / secondsPerDay) &&
    decide (i.seconds / secondsPerDay < daysBeforeYear (lastYear + 1) - dayZero)

-- ---------------------------------------------------------------------------
-- Writing
-- ---------------------------------------------------------------------------

/-- A number with zeros in front up to a width. -/
def padded (width n : Nat) : String :=
  let digits := Nat.toDigits 10 n
  String.ofList (List.replicate (width - digits.length) '0' ++ digits)

/-- A year: four digits, and a sign where four digits are not enough. -/
def showYear (year : Int) : String :=
  if 0 ≤ year ∧ year ≤ 9999 then padded 4 year.toNat
  else (if year < 0 then "-" else "+") ++ padded 4 year.natAbs

/-- A date and a time with the letter `T` between them. -/
def WallTime.render (t : WallTime) : String :=
  showYear t.date.year ++ "-" ++ padded 2 t.date.month ++ "-" ++ padded 2 t.date.day ++ "T" ++
    padded 2 t.hour ++ ":" ++ padded 2 t.minute ++ ":" ++ padded 2 t.second

/-- An instant in UTC, with the offset of UTC written as hours and minutes. -/
def Instant.render (i : Instant) : String :=
  i.wallTime.render ++ "+00:00"

/-- An instant in UTC, marked by the letter `Z`. -/
def Instant.renderUtc (i : Instant) : String :=
  i.wallTime.render ++ "Z"

end TypedSteps.Calendar
