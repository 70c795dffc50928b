/-!
# Parameters of templates

A parameter is a type that templates can ask for: the name that stands between braces
in the template, and the pattern of the texts that may stand in its place. Templates
are read against a table of parameters; of two entries with one name the first counts.
-/

namespace TypedSteps

/-- A parameter type as templates see it. -/
structure Parameter where
  name : String
  pattern : String
  deriving DecidableEq, Repr

/-- The characters that stand for a parameter in a template: its name in braces. -/
def keywordCharacters (name : List Char) : List Char :=
  '{' :: name ++ ['}']

/-- The text that stands for the type with the given name in a template. -/
def keyword (name : String) : String :=
  String.ofList (keywordCharacters name.toList)

/-- Whether the keyword of a parameter stands at the start of a text. -/
def Parameter.standsAt (p : Parameter) (cs : List Char) : Bool :=
  (keywordCharacters p.name.toList).isPrefixOf cs

/-- Whether a text starts with the keyword of a parameter. -/
def Parameter.startsText (p : Parameter) (text : String) : Bool :=
  p.standsAt text.toList

end TypedSteps
