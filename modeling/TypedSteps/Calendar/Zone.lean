import TypedSteps.Calendar.Instant

/-!
# Local time

A time zone either keeps one offset from UTC or changes twice a year between standard
and daylight time. When daylight time begins the clock skips some times of the day, and
when it ends the clock shows some times twice.

* `Zone`, `DaylightRule` — time zones;
* `Zone.resolve` — the offset in force when a clock shows a time;
* `Zone.instantOf?` — the instant at which a clock of the zone shows a time.
-/

namespace TypedSteps.Calendar

/-- The day of the year on which a change happens. -/
inductive ChangeDay where
  /-- A weekday of a month, Sunday being `0`; week `5` is the last one. -/
  | monthWeek (month week weekday : Nat)
  /-- The day of the year counted from one, 29 February never counted. -/
  | julian (day : Nat)
  /-- The day of the year counted from zero, 29 February counted. -/
  | ordinal (day : Nat)
  deriving DecidableEq, Repr

/-- A yearly change: the day, and the wall time in seconds from its start. -/
structure Change where
  day : ChangeDay
  time : Int
  deriving DecidableEq, Repr

/-- Daylight time: how far the clock is put forward, and when it begins and ends. It is never
behind standard time; zones that put the clock back for the winter are left out. -/
structure DaylightRule where
  saving : Nat
  start : Change
  finish : Change
  deriving DecidableEq, Repr

/-- A time zone: the seconds by which standard time is ahead of UTC, and daylight time
if there is any. -/
structure Zone where
  offset : Int
  daylight : Option DaylightRule := none
  deriving DecidableEq, Repr

/-- Coordinated universal time. -/
def Zone.utc : Zone := { offset := 0 }

-- ---------------------------------------------------------------------------
-- Changes
-- ---------------------------------------------------------------------------

/-- The number of the day on which a change happens in a year. -/
def ChangeDay.dayNumber (year : Int) : ChangeDay → Int
  | monthWeek month week day =>
    let first := (Date.mk year month 1).dayNumber
    let toDay := (day + 7 - weekday first) % 7
    let length := (monthLengths year).getD (month - 1) 0
    let wanted := toDay + (week - 1) * 7
    first + (if wanted < length then wanted else wanted - 7)
  | julian day =>
    let shift := if isLeapYear year && decide (60 ≤ day) then 1 else 0
    (Date.mk year 1 1).dayNumber + day - 1 + shift
  | ordinal day => (Date.mk year 1 1).dayNumber + day

/-- The month in which a change happens in a year. A day that the year is too short for still
belongs to its December. -/
def ChangeDay.month (year : Int) (d : ChangeDay) : Nat :=
  let last := daysBeforeYear (year + 1) - dayZero - 1
  let day := d.dayNumber year
  (Date.ofDayNumber (if last < day then last else day)).month

/-- The wall time of a change in a year, in seconds as of a clock in UTC. -/
def Change.seconds (c : Change) (year : Int) : Int :=
  c.day.dayNumber year * secondsPerDay + c.time

-- ---------------------------------------------------------------------------
-- From wall time to instant
-- ---------------------------------------------------------------------------

/-- What a time on the clock says about the offset in force. -/
inductive Resolution where
  /-- The clock skips the time. -/
  | skipped
  /-- The clock shows the time once, with this offset. -/
  | once (offset : Int)
  /-- The clock shows the time twice. The offset of standard time comes first. -/
  | twice (standard daylight : Int)
  deriving DecidableEq, Repr

/-- The offset in force when the clock shows the time `seconds` of a year, where
daylight time begins and ends in that year. When it begins in an earlier month than it
ends, it lies within the year; otherwise the year begins and ends with it. -/
def DaylightRule.resolve (rule : DaylightRule) (offset : Int) (year seconds : Int) : Resolution :=
  let standard := offset
  let daylight := offset + rule.saving
  let start := rule.start.seconds year
  let finish := rule.finish.seconds year
  if rule.start.day.month year < rule.finish.day.month year then
    if seconds ≤ start then .once standard
    else if seconds < start + rule.saving then .skipped
    else if seconds < finish - rule.saving then .once daylight
    else if seconds ≤ finish then .twice standard daylight
    else .once standard
  else
    if seconds < finish - rule.saving then .once daylight
    else if seconds ≤ finish then .twice standard daylight
    else if seconds < start then .once standard
    else if seconds < start + rule.saving then .skipped
    else .once daylight

/-- The offset in force when a clock of the zone shows a time. -/
def Zone.resolve (z : Zone) (t : WallTime) : Resolution :=
  match z.daylight with
  | none => .once z.offset
  | some rule => rule.resolve z.offset t.date.year t.seconds

/-- The offset that a time on the clock is read with; a time shown twice is taken as
standard time. -/
def Resolution.offset? : Resolution → Option Int
  | skipped => none
  | once offset => some offset
  | twice standard _ => some standard

/-- The instant at which a clock of the zone shows a time, if it ever does so within
the years that dates can be in. -/
def Zone.instantOf? (z : Zone) (t : WallTime) : Option Instant :=
  match (z.resolve t).offset? with
  | none => none
  | some offset =>
    let instant : Instant := ⟨t.seconds - offset, t.nanos⟩
    if instant.inRange then some instant else none

end TypedSteps.Calendar
