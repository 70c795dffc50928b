import TypedSteps.Text.Basic

/-!
# Steps

A step is a keyword and the text that follows it. The keyword does not matter for
matching; it shows in messages.

* `Keyword`, `Keyword.read` — the keywords of steps;
* `Step`, `Step.diagnostic` — steps, and how messages name them;
* `Step.ofDocument` — a step of a parsed document.
-/

namespace TypedSteps

/-- The keyword of a step. -/
inductive Keyword where
  | given
  | when
  | «then»
  | and
  | but
  deriving DecidableEq, Repr

/-- A text that is no keyword. -/
structure KeywordError where
  word : String
  deriving DecidableEq, Repr

namespace Keyword

/-- All keywords. -/
def all : List Keyword :=
  [given, when, «then», and, but]

/-- A keyword as it is written. -/
def spelling : Keyword → String
  | given => "Given"
  | when => "When"
  | «then» => "Then"
  | and => "And"
  | but => "But"

/-- Reads a keyword in any ASCII case, white space around it ignored. -/
def read (text : String) : Except KeywordError Keyword :=
  let word := Text.trim text
  match all.find? fun k => Text.asciiLowercase k.spelling == Text.asciiLowercase word with
  | some k => .ok k
  | none => .error ⟨word⟩

end Keyword

/-- What a step of a document does, once its keyword is resolved. -/
inductive StepType where
  | given
  | when
  | «then»
  deriving DecidableEq, Repr

/-- The keyword for a type of step. -/
def StepType.keyword : StepType → Keyword
  | given => .given
  | when => .when
  | «then» => .«then»

/-- A type of step as it is written. -/
def StepType.spelling (t : StepType) : String :=
  t.keyword.spelling

/-- A step: its keyword and its text. -/
structure Step where
  keyword : Keyword
  text : String
  deriving DecidableEq, Repr

/-- The name of a step in messages. -/
def Step.diagnostic (s : Step) : String :=
  s.keyword.spelling ++ " " ++ s.text

/-- The step of a parsed document with a keyword, a type and a text. The keyword counts
if it is one; a keyword of another language is replaced by that of the type. -/
def Step.ofDocument (word : String) (type : StepType) (text : String) : Step :=
  match Keyword.read word with
  | .ok keyword => ⟨keyword, text⟩
  | .error _ => ⟨type.keyword, text⟩

end TypedSteps
