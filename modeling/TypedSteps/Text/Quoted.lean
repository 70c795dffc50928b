import TypedSteps.Text.Hexadecimal
import TypedSteps.Unicode.Printable

/-!
# Quoted text

A text between double quotes in which every character can be seen: quotes and
backslashes are escaped, and so is whatever does not print or would join the character
before it.
-/

namespace TypedSteps.Text

/-- A character as it is written inside quotes. -/
def quoteCharacter (c : Char) : List Char :=
  match c with
  | '\x00' => ['\\', '0']
  | '\t' => ['\\', 't']
  | '\r' => ['\\', 'r']
  | '\n' => ['\\', 'n']
  | '\\' => ['\\', '\\']
  | '"' => ['\\', '"']
  | _ =>
    if Unicode.isPrintable c then [c]
    else '\\' :: 'u' :: '{' :: hexDigits c.toNat ++ ['}']

/-- A text in double quotes. -/
def quoted (text : String) : String :=
  String.ofList ('"' :: text.toList.flatMap quoteCharacter ++ ['"'])

/-- A list of texts, each in double quotes. -/
def quotedList (texts : List String) : String :=
  "[" ++ ", ".intercalate (texts.map quoted) ++ "]"

end TypedSteps.Text
