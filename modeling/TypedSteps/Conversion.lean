import TypedSteps.Builtin
import TypedSteps.Value
import TypedSteps.Text.Basic
import TypedSteps.Calendar.DateFormat

/-!
# Converting captured text

The text that a placeholder of a built-in type captured becomes a value. Numbers and
dates may turn out not to be convertible; all other conversions succeed.

* `Builtin.convert` — the conversion of each built-in type;
* `unquote`, `listItems` — the conversions of quoted text and of lists.
-/

namespace TypedSteps

open Calendar (Zone)

/-- Why a captured text could not be converted. -/
inductive ConversionError where
  | integerOutOfRange
  | invalidFloat
  | invalidDate
  | nonexistentLocalTime
  deriving DecidableEq, Repr

/-- The text between two quotes of the given kind, if it stands between such. -/
def betweenQuotes? (quote : Char) (cs : List Char) : Option (List Char) :=
  match cs with
  | c :: rest => if c = quote ∧ rest.getLast? = some quote then some rest.dropLast else none
  | [] => none

/-- A text without the pair of quotes around it, double or single; a text without such
a pair stays as it is. -/
def unquote (text : String) : String :=
  let cs := text.toList
  match betweenQuotes? '"' cs with
  | some inner => String.ofList inner
  | none =>
    match betweenQuotes? '\'' cs with
    | some inner => String.ofList inner
    | none => text

/-- The items of a comma-separated list, without the white space around them. -/
def listItems (text : String) : List String :=
  (Text.splitAt ',' text.toList).map fun item => String.ofList (Text.trimCharacters item)

/-- Converts the text that a placeholder of a built-in type captured. -/
def Builtin.convert (b : Builtin) (zone : Zone) (text : String) : Except ConversionError Value :=
  match b with
  | string => .ok (.string (unquote text))
  | number =>
    match Decimal.readWhole? text with
    | some n => .ok (.integer n)
    | none => .error .integerOutOfRange
  | float =>
    match Decimal.readFloat? text with
    | some x => .ok (.float x)
    | none => .error .invalidFloat
  | boolean => .ok (.boolean (text == "true"))
  | word | char | email => .ok (.string text)
  | list => .ok (.list (listItems text))
  | date =>
    match Calendar.readInstant zone text with
    | .ok instant => .ok (.date instant)
    | .error .invalid => .error .invalidDate
    | .error .skipped => .error .nonexistentLocalTime

end TypedSteps
