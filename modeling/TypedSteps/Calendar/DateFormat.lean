import TypedSteps.Calendar.Zone
import TypedSteps.Unicode.WhiteSpace

/-!
# Reading dates

A date is written year first with hyphens or month first with slashes, and a time of
day may follow. Of the formats below the first that fits the whole text counts; one
that gives no date of the calendar does not fit.

* `Field`, `readFields?` — the parts of a format;
* `readWallTime?` — the date and time that a text shows;
* `readInstant` — the instant that a text denotes: in UTC where the text has a hyphen or
  ends in `Z`, in local time otherwise.
-/

namespace TypedSteps.Calendar

/-- Why a text denotes no instant. -/
inductive DateError where
  /-- The text is no date of the calendar. -/
  | invalid
  /-- The local clock never shows the time. -/
  | skipped
  deriving DecidableEq, Repr

/-- A part of a format. -/
inductive Field where
  | year
  | month
  | day
  | hour
  | minute
  | second
  /-- White space, or none. -/
  | blank
  | literal (c : Char)
  deriving DecidableEq, Repr

/-- Reads from one to `width` digits. -/
def readDigitsUpTo? (width : Nat) (cs : List Char) : Option (Nat × List Char) :=
  let digits := (cs.take width).takeWhile Char.isDigit
  if digits.isEmpty then none
  else some (Nat.ofDigitChars 10 digits 0, cs.drop digits.length)

/-- Reads a year: up to four digits, or any number of digits after a sign. -/
def readYear? (cs : List Char) : Option (Int × List Char) :=
  match cs with
  | '-' :: rest => (readDigitsUpTo? rest.length rest).map fun (n, after) => (-(n : Int), after)
  | '+' :: rest => (readDigitsUpTo? rest.length rest).map fun (n, after) => ((n : Int), after)
  | _ => (readDigitsUpTo? 4 cs).map fun (n, after) => ((n : Int), after)

/-- Sets the field of a wall time. -/
def Field.set (f : Field) (n : Nat) (t : WallTime) : WallTime :=
  match f with
  | month => { t with date.month := n }
  | day => { t with date.day := n }
  | hour => { t with hour := n }
  | minute => { t with minute := n }
  | second => { t with second := n }
  | _ => t

/-- Reads the parts of a format from the start of a text; white space before a number is
ignored. Nothing may be left over. -/
def readFields? : List Field → WallTime → List Char → Option WallTime
  | [], t, cs => if cs.isEmpty then some t else none
  | .literal c :: fields, t, cs =>
    match cs with
    | d :: rest => if d = c then readFields? fields t rest else none
    | [] => none
  | .blank :: fields, t, cs => readFields? fields t (cs.dropWhile Unicode.isWhiteSpace)
  | .year :: fields, t, cs =>
    match readYear? (cs.dropWhile Unicode.isWhiteSpace) with
    | some (n, rest) => readFields? fields { t with date.year := n } rest
    | none => none
  | field :: fields, t, cs =>
    match readDigitsUpTo? 2 (cs.dropWhile Unicode.isWhiteSpace) with
    | some (n, rest) => readFields? fields (field.set n t) rest
    | none => none

/-- Hours, minutes and seconds with colons between them. -/
def timeFields : List Field :=
  [.hour, .literal ':', .minute, .literal ':', .second]

/-- Year, month and day with hyphens between them. -/
def hyphenFields : List Field :=
  [.year, .literal '-', .month, .literal '-', .day]

/-- Month, day and year with slashes between them. -/
def slashFields : List Field :=
  [.month, .literal '/', .day, .literal '/', .year]

/-- The formats of dates, in the order in which they are tried. -/
def dateFormats : List (List Field) :=
  [hyphenFields ++ .literal 'T' :: timeFields, slashFields ++ .blank :: timeFields,
    hyphenFields, slashFields]

/-- Whether a date lies in the years that dates can be in. -/
def Date.inRange (d : Date) : Bool :=
  decide (firstYear ≤ d.year) && decide (d.year ≤ lastYear)

/-- The date and time that a text shows in one format. -/
def readFormat? (format : List Field) (cs : List Char) : Option WallTime :=
  (readFields? format { date := ⟨0, 0, 0⟩ } cs).filter fun t => t.isValid && t.date.inRange

/-- The date and time that a text shows, midnight where no time is given. -/
def readWallTime? (cs : List Char) : Option WallTime :=
  dateFormats.findSome? fun format => readFormat? format cs

/-- The instant that a text denotes. A final `Z` or a hyphen anywhere makes it a time in
UTC; otherwise it is a time of the local clock. -/
def readInstant (zone : Zone) (text : String) : Except DateError Instant :=
  let cs := text.toList
  if cs.getLast? = some 'Z' then
    match readWallTime? cs.dropLast with
    | some t => .ok t.atUtc
    | none => .error .invalid
  else
    match readWallTime? cs with
    | none => .error .invalid
    | some t =>
      if cs.contains '-' then .ok t.atUtc
      else
        match zone.instantOf? t with
        | some i => .ok i
        | none => .error .skipped

end TypedSteps.Calendar
