import TypedSteps.Template.GroupName
import TypedSteps.Template.Token
import TypedSteps.Regex.Pattern

/-!
# The pattern of a template

The source of a template's pattern is put together from the template's tokens: literal
text goes in as it is, or escaped; a placeholder becomes the pattern of its parameter
in a group of its own. The occurrences of each parameter are counted from one.

* `Slot` — a placeholder of a template with its group;
* `TemplateSource`, `TemplateSource.ofTemplate` — source and slots of a template;
* `CompiledTemplate` — a template whose pattern could be read.
-/

namespace TypedSteps

/-- A placeholder of a template: its parameter, its number among the placeholders of
that parameter, the name of its group and the offset of its keyword. -/
structure Slot where
  name : String
  occurrence : Nat
  group : String
  start : Nat
  deriving DecidableEq, Repr

/-- What a token contributes to the pattern of a template. -/
inductive Piece where
  | literal (text : List Char)
  | slot (slot : Slot) (pattern : String)
  deriving DecidableEq, Repr

/-- The pieces for some tokens, where `seen` names the parameters of the placeholders
before them. -/
def piecesFrom (table : List Parameter) (seen : List String) : List Token → List Piece
  | [] => []
  | .literal text :: rest => .literal text :: piecesFrom table seen rest
  | .placeholder start index :: rest =>
    match table[index]? with
    | none => piecesFrom table seen rest
    | some p =>
      let occurrence := seen.count p.name + 1
      .slot ⟨p.name, occurrence, groupName p.name occurrence, start⟩ p.pattern ::
        piecesFrom table (p.name :: seen) rest

/-- The pieces of a template. -/
def pieces (table : List Parameter) (template : String) : List Piece :=
  piecesFrom table [] (tokens table template)

/-- The pattern text of a piece. -/
def Piece.text (escape : Bool) : Piece → List Char
  | literal cs => if escape then escapeCharacters cs else cs
  | slot s pattern => (fragment s.name s.occurrence pattern).toList

/-- The slot of a piece. -/
def Piece.slot? : Piece → Option Slot
  | literal _ => none
  | slot s _ => some s

/-- The source of a template's pattern, and the placeholders in it. -/
structure TemplateSource where
  source : String
  slots : List Slot
  deriving DecidableEq, Repr

/-- The source of a template, its literal text escaped or not. -/
def TemplateSource.ofTemplate (table : List Parameter) (escape : Bool) (template : String) :
    TemplateSource :=
  let parts := pieces table template
  ⟨String.ofList (parts.flatMap (·.text escape)), parts.filterMap Piece.slot?⟩

/-- A template with its pattern. -/
structure CompiledTemplate extends TemplateSource where
  pattern : Pattern

/-- Compiles a template against a table. -/
def CompiledTemplate.ofTemplate (table : List Parameter) (escape : Bool) (template : String) :
    Except SyntaxError CompiledTemplate :=
  let built := TemplateSource.ofTemplate table escape template
  match Pattern.ofSource built.source with
  | .ok pattern => .ok { built with pattern := pattern }
  | .error e => .error e

/-- Whether a compiled template has placeholders. -/
def CompiledTemplate.hasPlaceholders (t : CompiledTemplate) : Bool :=
  !t.slots.isEmpty

end TypedSteps
