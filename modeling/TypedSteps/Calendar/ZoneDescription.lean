import TypedSteps.Calendar.Zone

/-!
# Reading time zones

A time zone is described by one line of text: a name and the hours that standard time
is behind UTC; then, for daylight time, a second name, perhaps its own offset, and the
rules for its begin and end, as in `EST5EDT,M3.2.0,M11.1.0`. Whatever is out of range is refused,
and so is daylight time behind standard time, which no rule can say.

* `Zone.read?` — the zone that a text describes.
-/

namespace TypedSteps.Calendar

/-- Reads a number from the start of a text. -/
def readNatural? (cs : List Char) : Option (Nat × List Char) :=
  let digits := cs.takeWhile Char.isDigit
  if digits.isEmpty then none
  else some (Nat.ofDigitChars 10 digits 0, cs.drop digits.length)

/-- Whether characters name a zone: three to seven letters, digits and signs. -/
def isZoneName (name : List Char) : Bool :=
  decide (3 ≤ name.length) && decide (name.length ≤ 7) &&
    name.all fun c => c.isAlphanum || c == '+' || c == '-'

/-- Reads a name: letters, or what stands in angle brackets. -/
def readZoneName? (cs : List Char) : Option (List Char) :=
  match cs with
  | '<' :: rest =>
    match rest.dropWhile (· != '>') with
    | _ :: after => if isZoneName (rest.takeWhile (· != '>')) then some after else none
    | [] => none
  | _ => if isZoneName (cs.takeWhile Char.isAlpha) then some (cs.dropWhile Char.isAlpha) else none

/-- Reads minutes or seconds behind a colon; without a colon there are none. -/
def readSixtieths? (cs : List Char) : Option (Nat × List Char) :=
  match cs with
  | ':' :: rest => readNatural? rest
  | _ => some (0, cs)

/-- Reads hours with optional minutes and seconds, as a number of seconds. A day is the most that
hours come to. -/
def readClock? (cs : List Char) : Option (Nat × List Char) := do
  let (hours, rest) ← readNatural? cs
  let (minutes, rest) ← readSixtieths? rest
  let (seconds, rest) ← readSixtieths? rest
  if hours ≤ 24 ∧ minutes ≤ 59 ∧ seconds ≤ 59 then
    return (hours * 3600 + minutes * 60 + seconds, rest)
  else none

/-- Reads hours, minutes and seconds with an optional sign. -/
def readSignedClock? (cs : List Char) : Option (Int × List Char) :=
  match cs with
  | '-' :: rest => (readClock? rest).map fun (n, after) => (-(n : Int), after)
  | '+' :: rest => (readClock? rest).map fun (n, after) => ((n : Int), after)
  | _ => (readClock? cs).map fun (n, after) => ((n : Int), after)

/-- Reads the day of a change. -/
def readChangeDay? (cs : List Char) : Option (ChangeDay × List Char) :=
  match cs with
  | 'M' :: rest => do
    let (month, rest) ← readNatural? rest
    let rest ← match rest with | '.' :: r => some r | _ => none
    let (week, rest) ← readNatural? rest
    let rest ← match rest with | '.' :: r => some r | _ => none
    let (day, rest) ← readNatural? rest
    if 1 ≤ month ∧ month ≤ 12 ∧ 1 ≤ week ∧ week ≤ 5 ∧ day ≤ 6 then
      return (.monthWeek month week day, rest)
    else none
  | 'J' :: rest => do
    let (day, rest) ← readNatural? rest
    if 1 ≤ day ∧ day ≤ 365 then return (.julian day, rest) else none
  | _ => do
    let (day, rest) ← readNatural? cs
    if day ≤ 365 then return (.ordinal day, rest) else none

/-- Reads a change, which happens at two o'clock unless a time of the day is given. -/
def readChange? (cs : List Char) : Option (Change × List Char) := do
  let (day, rest) ← readChangeDay? cs
  match rest with
  | '/' :: rest =>
    let (time, rest) ← readClock? rest
    return (⟨day, time⟩, rest)
  | _ => return (⟨day, 7200⟩, rest)

/-- Reads the rules of daylight time, which is `saving` seconds ahead. -/
def readDaylight? (saving : Nat) (cs : List Char) : Option DaylightRule := do
  let rest ← match cs with | ',' :: r => some r | _ => none
  let (start, rest) ← readChange? rest
  let rest ← match rest with | ',' :: r => some r | _ => none
  let (finish, rest) ← readChange? rest
  if rest.isEmpty then return ⟨saving, start, finish⟩ else none

/-- The zone that a text describes; daylight time is an hour ahead unless its own offset
is given. An offset of a whole day is read as it stands, though no clock runs so far from UTC. -/
def Zone.read? (text : String) : Option Zone := do
  let rest ← readZoneName? text.toList
  let (behind, rest) ← readSignedClock? rest
  if rest.isEmpty then return { offset := -behind }
  else
    let rest ← readZoneName? rest
    match rest with
    | ',' :: _ => return { offset := -behind, daylight := some (← readDaylight? 3600 rest) }
    | _ =>
      let (daylightBehind, rest) ← readSignedClock? rest
      if daylightBehind ≤ behind then
        let rule ← readDaylight? (behind - daylightBehind).toNat rest
        return { offset := -behind, daylight := some rule }
      else none

end TypedSteps.Calendar
