import TypedSteps.Text.Basic

/-!
# Whether literal text is escaped

Literal text of a template is taken as part of the pattern or escaped first. Unless a
registry settles it for itself, a setting made in the program decides; without one a
variable of the environment does, and without that text is not escaped.
-/

namespace TypedSteps

/-- The setting made in the program, and the value of the environment variable. -/
structure Escaping where
  override : Option Bool := none
  environment : Option String := none
  deriving DecidableEq, Repr

/-- The truth value that a word of the environment stands for; other words are
ignored. -/
def readSwitch? (word : String) : Option Bool :=
  let w := Text.asciiLowercase (Text.trim word)
  if ["1", "true", "yes", "on"].contains w then some true
  else if ["0", "false", "no", "off"].contains w then some false
  else none

/-- Whether literal text is escaped where no registry settles it. -/
def Escaping.inForce (e : Escaping) : Bool :=
  match e.override with
  | some b => b
  | none =>
    match e.environment.bind readSwitch? with
    | some b => b
    | none => false

end TypedSteps
