import TypedSteps.Language.Message
import TypedSteps.Matching

/-!
# Messages of errors

Each error has a message, whose arguments are the fields of the error. The diagnostic
of a pattern that cannot be read is not part of this library: messages take it from
`describe`, which says how such a reason is put into words.
-/

namespace TypedSteps

/-- The message for a failed conversion. -/
def ConversionError.messageId : ConversionError → MessageId
  | integerOutOfRange => .integerOutOfRange
  | invalidFloat => .invalidFloat
  | invalidDate => .invalidDate
  | nonexistentLocalTime => .nonexistentLocalTime

/-- Why a conversion failed, in words. -/
def ConversionError.message (e : ConversionError) (language : Language) : String :=
  e.messageId.render language []

/-- The message for an error of matching, and its arguments. -/
def MatchError.entry (describe : SyntaxError → String) (language : Language) :
    MatchError → MessageId × Arguments
  | mismatch step template => (.mismatch, [("step", step), ("expression", template)])
  | invalidExpression template reason =>
    (.invalidExpression, [("expression", template), ("reason", describe reason)])
  | conversion step group text reason =>
    (.conversion,
      [("step", step), ("placeholder", group), ("text", text),
        ("reason", reason.message language)])

/-- An error of matching in words. -/
def MatchError.message (e : MatchError) (describe : SyntaxError → String) (language : Language) :
    String :=
  (e.entry describe language).1.display language (e.entry describe language).2

/-- The message for an error of registration, and its arguments. -/
def RegistrationError.entry (describe : SyntaxError → String) :
    RegistrationError → MessageId × Arguments
  | builtinCollision name => (.builtinExists, [("name", name)])
  | customCollision name => (.customExists, [("name", name)])
  | invalidName name => (.invalidName, [("name", name)])
  | invalidPattern name reason =>
    (.invalidPattern, [("name", name), ("reason", describe reason)])

/-- An error of registration in words. -/
def RegistrationError.message (e : RegistrationError) (describe : SyntaxError → String)
    (language : Language) : String :=
  (e.entry describe).1.display language (e.entry describe).2

/-- A text that is no keyword, in words. -/
def KeywordError.message (e : KeywordError) (language : Language) : String :=
  MessageId.invalidKeyword.display language [("keyword", e.word)]

/-- The message for a type of step without a keyword. -/
def StepType.unsupportedMessage (t : StepType) (language : Language) : String :=
  MessageId.unsupportedStepType.display language [("step_type", t.spelling)]

end TypedSteps
