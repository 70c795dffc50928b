import TypedSteps.Unicode.Age
import TypedSteps.Unicode.Script
import TypedSteps.Unicode.Segmentation

/-!
# Properties in patterns

A pattern names the characters with a property by `\p{…}`: by a name that says it all,
such as `Lu`, `Greek` or `Alphabetic`, or by a property and a value, such as
`Script=Greek`. Names are compared without regard to case, blanks, underscores and
hyphens.

* `comparableName` — the form in which names are compared;
* `PropertyQuery`, `PropertyQuery.ofText` — how a pattern names a property;
* `PropertyQuery.members?` — the characters that are meant.
-/

namespace TypedSteps.Unicode

-- ---------------------------------------------------------------------------
-- Names
-- ---------------------------------------------------------------------------

/-- The characters of a name that count, in lower case: ASCII characters other than
spaces, underscores and hyphens. -/
def significantCharacters (cs : List Char) : List Char :=
  (cs.filter fun c => decide (c.toNat ≤ 0x7F) && c != ' ' && c != '_' && c != '-').map Char.toLower

/-- The form in which names are compared. A leading `is` does not count, but `isc` is the
name of a property and not the category `c`. -/
def comparableName (cs : List Char) : String :=
  match cs with
  | i :: s :: rest =>
    if i.toLower == 'i' && s.toLower == 's' then
      match significantCharacters rest with
      | ['c'] => "isc"
      | name => String.ofList name
    else String.ofList (significantCharacters cs)
  | _ => String.ofList (significantCharacters cs)

-- ---------------------------------------------------------------------------
-- Queries
-- ---------------------------------------------------------------------------

/-- How a pattern names a set of characters. -/
inductive PropertyQuery where
  | named (name : List Char)
  | valued (property value : List Char)
  deriving DecidableEq, Repr

namespace PropertyQuery

/-- What stands before and after the first place where `separator` stands in a text. -/
def cutAt? (separator : List Char) : List Char → Option (List Char × List Char)
  | [] => none
  | c :: cs =>
    if separator.isPrefixOf (c :: cs) then some ([], (c :: cs).drop separator.length)
    else (cutAt? separator cs).map fun (before, after) => (c :: before, after)

/-- The query in a text: a value follows `!=` if that stands anywhere, else the first
colon, else the first equals sign. All three mean the same. -/
def ofText (cs : List Char) : PropertyQuery :=
  match cutAt? ['!', '='] cs <|> cutAt? [':'] cs <|> cutAt? ['='] cs with
  | some (property, value) => .valued property value
  | none => .named cs

/-- The set that a name alone stands for: a property, a general category or a script, in
this order. -/
def namedSet? (name : String) : Option CharSet :=
  findNamed? BooleanProperty.all name <|> findNamed? generalCategories name <|>
    findNamed? scriptSets name

/-- The set of the characters for which a property has a value. -/
def valuedSet? (property value : String) : Option CharSet :=
  match property with
  | "gc" | "generalcategory" => findNamed? generalCategories value
  | "sc" | "script" => findNamed? scriptSets value
  | "scx" | "scriptextensions" => findNamed? scriptExtensions value
  | "age" => assignedBy? value
  | "gcb" | "graphemeclusterbreak" => findNamed? GraphemeBreak.classes value
  | "wb" | "wordbreak" => findNamed? WordBreak.classes value
  | "sb" | "sentencebreak" => findNamed? SentenceBreak.classes value
  | _ => none

/-- The characters that a query means, if it names anything. -/
def members? : PropertyQuery → Option CharSet
  | named name => namedSet? (comparableName name)
  | valued property value => valuedSet? (comparableName property) (comparableName value)

end PropertyQuery

end TypedSteps.Unicode
