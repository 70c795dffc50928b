import TypedSteps.Regex.Reading
import TypedSteps.Regex.Search

/-!
# Patterns

A pattern is a text that could be read as a regular expression, ready to be searched
for.

* `Pattern.ofSource` — reads the source text of a pattern;
* `Pattern.isMatch` — whether a text has a match;
* `Pattern.captures` — what the named groups captured in all matches;
* `escapeLiteral` — the pattern that matches a text and nothing else.
-/

namespace TypedSteps

/-- A regular expression with the names of its groups, ready to be searched for. -/
structure Pattern where
  regex : Regex
  /-- The names of the groups, from group `1` on. -/
  names : List (Option String)
  program : Program

/-- What a named group captured in one match. -/
structure Capture where
  group : String
  text : String
  deriving DecidableEq, Repr

namespace Pattern

/-- The pattern with the given source. A pattern is refused for its syntax alone: no limit is set
to the size of its program. -/
def ofSource (source : String) : Except SyntaxError Pattern :=
  match Regex.read source.toList with
  | .ok (regex, names) => .ok ⟨regex, names, regex.program⟩
  | .error e => .error e

/-- Whether the pattern matches somewhere in a text. -/
def isMatch (p : Pattern) (text : String) : Bool :=
  (p.program.find text.toList.toArray 0).isSome

/-- The groups that have a name, in order, each with its index. -/
def namedGroups (p : Pattern) : List (String × Nat) :=
  (p.names.zipIdx 1).filterMap fun (name, index) => name.map fun n => (n, index)

/-- What the named groups captured in one match, in the order of the groups. A group
that took no part in the match captured nothing. -/
def capturesOf (p : Pattern) (text : Array Char) (m : Match) : List Capture :=
  p.namedGroups.filterMap fun (name, index) =>
    (m.span? index).map fun (a, b) => ⟨name, String.ofList (text.extract a b).toList⟩

/-- What the named groups captured in all matches that do not overlap, match by
match. -/
def captures (p : Pattern) (text : String) : List Capture :=
  let chars := text.toList.toArray
  (p.program.allMatches chars).flatMap (p.capturesOf chars)

end Pattern

-- ---------------------------------------------------------------------------
-- Literal text
-- ---------------------------------------------------------------------------

/-- The characters with a meaning of their own in patterns. -/
def metaCharacters : List Char :=
  ['\\', '.', '+', '*', '?', '(', ')', '|', '[', ']', '{', '}', '^', '$', '#', '&', '-', '~']

/-- Whether a character is escaped in literal text. -/
def isMetaCharacter (c : Char) : Bool :=
  metaCharacters.contains c

/-- The characters of a pattern that matches the given characters literally. -/
def escapeCharacters : List Char → List Char
  | [] => []
  | c :: cs =>
    if isMetaCharacter c then '\\' :: c :: escapeCharacters cs
    else c :: escapeCharacters cs

/-- The source of a pattern that matches the given text literally: characters with a
meaning of their own get a backslash. -/
def escapeLiteral (text : String) : String :=
  String.ofList (escapeCharacters text.toList)

/-- Characters are escaped one by one. -/
theorem escapeCharacters_append (cs ds : List Char) :
    escapeCharacters (cs ++ ds) = escapeCharacters cs ++ escapeCharacters ds := by
  induction cs with
  | nil => rfl
  | cons c cs ih =>
    simp only [List.cons_append, escapeCharacters, ih]
    split <;> rfl

end TypedSteps
