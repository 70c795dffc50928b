import TypedSteps.Registry.Basic

/-!
# Ready-made transforms

What a custom type makes of its text is up to the caller who registers it. The transforms here
stand for such callers: there is one for each kind of value, some that keep or create payloads, and
some that act on the shared registry while a step is matched. No built-in type has one of them, and
what is proved about transforms holds for all.

* `text`, `uppercase`, `length`, `halfLength`, `evenLength`, `items`, `day` — values made of the text;
* `payload`, `constant` — payloads of the caller's own;
* `resetting`, `defining` — effects on the shared registry.
-/

namespace TypedSteps.Transform

open Calendar (Instant secondsPerDay)

/-- The number of characters of a text. -/
def characterCount (text : String) : Nat :=
  text.toList.length

/-- The text itself. -/
def text : Transform := fun t => .yield (.string t)

/-- The text with its ASCII letters in upper case. -/
def uppercase : Transform := fun t => .yield (.string (Text.asciiUppercase t))

/-- The number of characters. -/
def length : Transform := fun t => .yield (.integer (characterCount t))

/-- Half the number of characters. -/
def halfLength : Transform := fun t =>
  .yield (.float (Float.ofNat (characterCount t) / 2.0))

/-- Whether the number of characters is even. -/
def evenLength : Transform := fun t => .yield (.boolean (characterCount t % 2 == 0))

/-- The pieces between semicolons. -/
def items : Transform := fun t =>
  .yield (.list ((Text.splitAt ';' t.toList).map String.ofList))

/-- The start of the day whose number is the number of characters. -/
def day : Transform := fun t =>
  .yield (.date { seconds := characterCount t * secondsPerDay })

/-- A new payload with the text as its content. -/
def payload : Transform := fun t => .create t fun p => .yield (.custom p)

/-- The same value for every text. -/
def constant (value : Value) : Transform := fun _ => .yield value

/-- Clears the shared registry and yields the text. -/
def resetting : Transform := fun t => .reset (.yield (.string t))

/-- Registers a type with the shared registry and yields the text, with a note of
whether that succeeded. -/
def defining (name pattern : String) : Transform := fun t =>
  .define name pattern text fun failure =>
    .yield (.string (t ++ ":" ++ toString failure.isNone))

end TypedSteps.Transform
