import TypedSteps.Language.Basic

/-!
# Language scopes

A selection of languages holds until the next one. A scope puts another selection in
its place for a while: opening it notes the selection that was in force and closing it
puts back the one noted, in whatever order scopes are closed.

* `Scopes` — the selection, and the scopes opened so far;
* `Scopes.openScope`, `Scopes.closeScope?` — begin and end of a scope;
* `Scopes.current` — the languages in force.
-/

namespace TypedSteps

/-- A scope: the override that was in force when it was opened, if there was
one, and whether it is still open. -/
structure Scope where
  previous : Option (List Language)
  isOpen : Bool
  deriving DecidableEq, Repr

/-- The selected languages, and the scopes opened so far in the order of opening. -/
structure Scopes where
  /-- The languages selected outside scopes. -/
  selected : List Language
  /-- The languages of the scope in force. -/
  override : Option (List Language)
  scopes : List Scope
  deriving DecidableEq, Repr

namespace Scopes

/-- English, and no scopes. -/
def initial : Scopes := ⟨[.english], none, []⟩

/-- The languages in force. -/
def current (s : Scopes) : List Language :=
  s.override.getD s.selected

/-- The language of messages. -/
def language (s : Scopes) : Language :=
  Language.first s.current

/-- Selects languages outside scopes. -/
def select (s : Scopes) (tags : List String) : Scopes :=
  { s with selected := Language.select tags }

/-- Opens a scope with a selection of its own. -/
def openScope (s : Scopes) (tags : List String) : Scopes :=
  { s with
    override := some (Language.select tags)
    scopes := s.scopes ++ [⟨s.override, true⟩] }

/-- Closes the scope with the given number, counted from zero in the order of opening;
`none` if there is no such scope that is open. -/
def closeScope? (s : Scopes) (index : Nat) : Option Scopes :=
  match s.scopes[index]? with
  | some ⟨previous, true⟩ =>
    some { s with override := previous, scopes := s.scopes.set index ⟨none, false⟩ }
  | _ => none

end Scopes

end TypedSteps
