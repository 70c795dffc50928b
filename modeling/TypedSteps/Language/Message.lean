import TypedSteps.Language.Basic

/-!
# Messages

Each message has an entry in every language: literal text, and places for arguments
that are given by name. When a message is written, each argument is put between
directional isolates, so that text of another direction does not disturb the sentence
around it. Messages of errors are shown without isolates.

* `MessageId`, `MessageId.parts` — the messages and their entries;
* `render` — a message with its arguments, isolates kept;
* `stripIsolates` — a text without directional isolates.
-/

namespace TypedSteps

/-- A part of an entry. -/
inductive Part where
  | text (words : String)
  | argument (name : String)
  deriving DecidableEq, Repr

/-- The messages of the library. -/
inductive MessageId where
  | mismatch
  | invalidExpression
  | conversion
  | integerOutOfRange
  | invalidFloat
  | invalidDate
  | nonexistentLocalTime
  | builtinExists
  | customExists
  | invalidName
  | invalidPattern
  | unsupportedStepType
  | invalidKeyword
  deriving DecidableEq, Repr

namespace MessageId

/-- All messages. -/
def all : List MessageId :=
  [mismatch, invalidExpression, conversion, integerOutOfRange, invalidFloat, invalidDate,
    nonexistentLocalTime, builtinExists, customExists, invalidName, invalidPattern,
    unsupportedStepType, invalidKeyword]

/-- The name by which a message is asked for. -/
def key : MessageId → String
  | mismatch => "step-expression-mismatch"
  | invalidExpression => "step-expression-invalid"
  | conversion => "step-expression-transform"
  | integerOutOfRange => "transform-integer-out-of-range"
  | invalidFloat => "transform-invalid-float"
  | invalidDate => "transform-invalid-date"
  | nonexistentLocalTime => "transform-nonexistent-local-time"
  | builtinExists => "parameter-type-builtin-exists"
  | customExists => "parameter-type-custom-exists"
  | invalidName => "parameter-type-invalid-name"
  | invalidPattern => "parameter-type-invalid-pattern"
  | unsupportedStepType => "unsupported-step-type"
  | invalidKeyword => "step-keyword-invalid"

/-- The message with the given name. -/
def ofKey? (key : String) : Option MessageId :=
  all.find? (·.key == key)

/-- The English entry of a message. -/
def english : MessageId → List Part
  | mismatch =>
    [.text "Step \"", .argument "step", .text "\" does not match the expression \"",
      .argument "expression", .text "\""]
  | invalidExpression =>
    [.text "Expression \"", .argument "expression", .text "\" could not be compiled: ",
      .argument "reason"]
  | conversion =>
    [.text "Step \"", .argument "step", .text "\" captured \"", .argument "text",
      .text "\" for placeholder ", .argument "placeholder",
      .text ", which could not be converted: ", .argument "reason"]
  | integerOutOfRange => [.text "integer out of range"]
  | invalidFloat => [.text "not a decimal number"]
  | invalidDate => [.text "not a valid calendar date or time"]
  | nonexistentLocalTime => [.text "time does not exist in the local time zone"]
  | builtinExists =>
    [.text "The parameter type \"", .argument "name",
      .text "\" is a built-in parameter type"]
  | customExists =>
    [.text "The parameter type \"", .argument "name", .text "\" is already defined"]
  | invalidName =>
    [.text "The parameter type name \"", .argument "name",
      .text "\" must be an ASCII identifier"]
  | invalidPattern =>
    [.text "The pattern for parameter type \"", .argument "name", .text "\" is invalid: ",
      .argument "reason"]
  | unsupportedStepType => [.text "Unsupported step type: ", .argument "step_type"]
  | invalidKeyword => [.text "Invalid step keyword: ", .argument "keyword"]

/-- The French entry of a message. -/
def french : MessageId → List Part
  | mismatch =>
    [.text "L’étape « ", .argument "step", .text " » ne correspond pas à l’expression « ",
      .argument "expression", .text " »"]
  | invalidExpression =>
    [.text "L’expression « ", .argument "expression", .text " » n’a pas pu être compilée : ",
      .argument "reason"]
  | conversion =>
    [.text "L’étape « ", .argument "step", .text " » a capturé « ", .argument "text",
      .text " » pour le paramètre ", .argument "placeholder",
      .text ", qui n’a pas pu être converti : ", .argument "reason"]
  | integerOutOfRange => [.text "entier hors limites"]
  | invalidFloat => [.text "nombre décimal invalide"]
  | invalidDate => [.text "date ou heure invalide"]
  | nonexistentLocalTime => [.text "heure inexistante dans le fuseau horaire local"]
  | builtinExists =>
    [.text "Le type de paramètre « ", .argument "name", .text " » est un type intégré"]
  | customExists =>
    [.text "Le type de paramètre « ", .argument "name", .text " » est déjà défini"]
  | invalidName =>
    [.text "Le nom du type de paramètre « ", .argument "name",
      .text " » doit être un identifiant ASCII"]
  | invalidPattern =>
    [.text "Le motif du type de paramètre « ", .argument "name", .text " » est invalide : ",
      .argument "reason"]
  | unsupportedStepType => [.text "Type d’étape non pris en charge : ", .argument "step_type"]
  | invalidKeyword => [.text "Mot-clé d’étape invalide : ", .argument "keyword"]

/-- The entry of a message in a language. -/
def parts (id : MessageId) : Language → List Part
  | .english => id.english
  | .french => id.french

end MessageId

-- ---------------------------------------------------------------------------
-- Writing messages
-- ---------------------------------------------------------------------------

/-- The arguments of a message by name. -/
abbrev Arguments := List (String × String)

/-- A text between directional isolates. -/
def isolated (text : String) : String :=
  "\u2068" ++ text ++ "\u2069"

/-- A part of an entry with the arguments put in. An argument that was not given shows
its name. -/
def Part.render (args : Arguments) : Part → String
  | text words => words
  | argument name =>
    match args.lookup name with
    | some value => isolated value
    | none => isolated ("\x7b$" ++ name ++ "\x7d")

/-- A message with its arguments. -/
def MessageId.render (id : MessageId) (language : Language) (args : Arguments) : String :=
  String.join ((id.parts language).map (·.render args))

/-- The message asked for by name, or a note that there is none of that name. -/
def renderKey (key : String) (language : Language) (args : Arguments) : String :=
  match MessageId.ofKey? key with
  | some id => id.render language args
  | none => "No localization for id: \"" ++ key ++ "\""

/-- Whether a character is a directional isolate. -/
def isIsolate (c : Char) : Bool :=
  decide (0x2066 ≤ c.toNat) && decide (c.toNat ≤ 0x2069)

/-- A text without directional isolates. -/
def stripIsolates (text : String) : String :=
  String.ofList (text.toList.filter fun c => !isIsolate c)

/-- A message as it is shown to readers: without isolates, those of its arguments
included. -/
def MessageId.display (id : MessageId) (language : Language) (args : Arguments) : String :=
  stripIsolates (id.render language args)

end TypedSteps
