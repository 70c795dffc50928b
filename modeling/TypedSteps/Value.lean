import TypedSteps.Calendar.Instant
import TypedSteps.Decimal.Shortest
import TypedSteps.Text.Quoted

/-!
# Values

What a placeholder yields. A value of a custom type may carry a payload with an
identity of its own, which sets it apart from all other payloads, even those with the
same content.

* `Value` — the values;
* `Value.same` — when two values count as equal;
* `Value.describe` — a value written for diagnosis.
-/

namespace TypedSteps

open Calendar (Instant)

/-- The payload of a custom value. -/
structure Payload where
  identity : Nat
  content : String
  deriving DecidableEq, Repr

/-- The values that placeholders yield. -/
inductive Value where
  | integer (n : Int)
  | float (x : Float)
  | boolean (b : Bool)
  | string (text : String)
  | list (items : List String)
  | date (instant : Instant)
  | custom (payload : Payload)

namespace Value

/-- Whether two values are equal. Numbers with a fraction are compared as numbers, so
one that is not a number differs from itself; payloads are equal only when they are one
and the same. -/
def same : Value → Value → Bool
  | integer a, integer b => a == b
  | float a, float b => a == b
  | boolean a, boolean b => a == b
  | string a, string b => a == b
  | list a, list b => a == b
  | date a, date b => a == b
  | custom a, custom b => a.identity == b.identity
  | _, _ => false

/-- The whole number of a value, if it is one. -/
def integer? : Value → Option Int
  | integer n => some n
  | _ => none

/-- The number with a fraction of a value, if it is one. -/
def float? : Value → Option Float
  | float x => some x
  | _ => none

/-- The truth value of a value, if it is one. -/
def boolean? : Value → Option Bool
  | boolean b => some b
  | _ => none

/-- The text of a value, if it is one. -/
def string? : Value → Option String
  | string text => some text
  | _ => none

/-- The items of a value, if it is a list. -/
def list? : Value → Option (List String)
  | list items => some items
  | _ => none

/-- The instant of a value, if it is a date. -/
def date? : Value → Option Instant
  | date instant => some instant
  | _ => none

/-- The content of a value's payload, if it is a custom value. -/
def payload? : Value → Option String
  | custom payload => some payload.content
  | _ => none

/-- The name of the type that payloads have. -/
def payloadType : String := "alloc::string::String"

/-- A value as it is written for diagnosis. -/
def describe : Value → String
  | integer n => "Integer(" ++ toString n ++ ")"
  | float x => "Float(" ++ Decimal.showFloat x ++ ")"
  | boolean b => "Boolean(" ++ toString b ++ ")"
  | string text => "String(" ++ Text.quoted text ++ ")"
  | list items => "List(" ++ Text.quotedList items ++ ")"
  | date instant => "Date(" ++ instant.renderUtc ++ ")"
  | custom _ =>
    "Custom(CustomValue \x7b type_name: " ++ Text.quoted payloadType ++ ", .. \x7d)"

end Value

end TypedSteps
