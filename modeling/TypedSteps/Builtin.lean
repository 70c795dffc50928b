import TypedSteps.Template.Parameter

/-!
# The built-in parameter types

Nine types are known to every template. Their patterns capture nothing themselves, and
digits in them are ASCII digits, since no other digits can be converted.
-/

namespace TypedSteps

/-- The built-in parameter types. -/
inductive Builtin where
  /-- Text in single or double quotes. -/
  | string
  /-- A whole number without a sign. -/
  | number
  /-- A number with a decimal point. -/
  | float
  /-- The words `true` and `false`. -/
  | boolean
  /-- Characters other than white space. -/
  | word
  /-- One character. -/
  | char
  /-- A mail address. -/
  | email
  /-- Items with commas between them. -/
  | list
  /-- A calendar date, with or without a time. -/
  | date
  deriving DecidableEq, Repr

namespace Builtin

/-- All built-in types, in the order in which tables list them. -/
def all : List Builtin :=
  [string, number, float, boolean, word, char, email, list, date]

/-- The name of a built-in type. -/
def name : Builtin → String
  | string => "string"
  | number => "number"
  | float => "float"
  | boolean => "boolean"
  | word => "word"
  | char => "char"
  | email => "email"
  | list => "list"
  | date => "date"

/-- The pattern of the texts that a built-in type stands for. -/
def pattern : Builtin → String
  | string => "\"[^\"]*\"|'[^']*'"
  | number => "[0-9]+"
  | float => "[+-]?[0-9]*\\.[0-9]+"
  | boolean => "\\b(?:true|false)\\b"
  | word => "\\S+"
  | char => "."
  | email => "[A-Za-z0-9.]+@[A-Za-z0-9-]+(?:\\.[A-Za-z0-9-]+)+"
  | list => "[^,]+(?:,[^,]+)*"
  | date =>
    "[0-9]\x7b4\x7d-[0-9]\x7b2\x7d-[0-9]\x7b2\x7d" ++
      "(?:T[0-9]\x7b2\x7d:[0-9]\x7b2\x7d:[0-9]\x7b2\x7dZ?)?" ++
      "|[0-9]\x7b2\x7d/[0-9]\x7b2\x7d/[0-9]\x7b4\x7d" ++
      "(?: [0-9]\x7b2\x7d:[0-9]\x7b2\x7d:[0-9]\x7b2\x7d)?"

/-- The built-in type with the given name. -/
def ofName? (name : String) : Option Builtin :=
  all.find? (·.name == name)

/-- A built-in type as a parameter of templates. -/
def parameter (b : Builtin) : Parameter :=
  ⟨b.name, b.pattern⟩

/-- Each built-in type is found by its name. -/
theorem ofName?_name (b : Builtin) : ofName? b.name = some b := by
  cases b <;> decide

theorem mem_all (b : Builtin) : b ∈ all := by
  cases b <;> decide

end Builtin

end TypedSteps
