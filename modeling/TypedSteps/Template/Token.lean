import TypedSteps.Template.Parameter

/-!
# Tokens of a template

A template is cut into literal text and placeholders, from left to right. Only the
exact keyword of a parameter of the table is a placeholder; every other brace, that of
an unknown name included, is literal text.

* `Token`, `tokens` — the pieces of a template;
* `containsPlaceholder` — whether a template has a placeholder at all.
-/

namespace TypedSteps

/-- A piece of a template. A placeholder notes the offset of its opening brace, in
bytes of UTF-8, and the place of its parameter in the table. -/
inductive Token where
  | literal (text : List Char)
  | placeholder (start index : Nat)
  deriving DecidableEq, Repr

/-- The first parameter of a table whose keyword stands at the start of a text, with
its place in the table. -/
def keywordAt? (table : List Parameter) (cs : List Char) : Option (Parameter × Nat) :=
  table.zipIdx.find? fun (p, _) => p.standsAt cs

/-- Puts a character in front of some tokens; literal characters that follow one
another make one token. -/
def addLiteral (c : Char) : List Token → List Token
  | .literal text :: rest => .literal (c :: text) :: rest
  | rest => .literal [c] :: rest

/-- The tokens of the rest of a template, its first `skip` characters left out, where
`start` is the offset of the rest. -/
def tokensFrom (table : List Parameter) : Nat → Nat → List Char → List Token
  | _, _, [] => []
  | skip + 1, start, c :: cs => tokensFrom table skip (start + c.utf8Size) cs
  | 0, start, c :: cs =>
    match keywordAt? table (c :: cs) with
    | some (p, index) =>
      .placeholder start index ::
        tokensFrom table (p.name.toList.length + 1) (start + c.utf8Size) cs
    | none => addLiteral c (tokensFrom table 0 (start + c.utf8Size) cs)

/-- The tokens of a template. -/
def tokens (table : List Parameter) (template : String) : List Token :=
  tokensFrom table 0 0 template.toList

/-- Whether a token is a placeholder. -/
def Token.isPlaceholder : Token → Bool
  | literal _ => false
  | placeholder _ _ => true

/-- Whether the keyword of a parameter of the table stands in a template. -/
def containsPlaceholder (table : List Parameter) (template : String) : Bool :=
  (tokens table template).any Token.isPlaceholder

end TypedSteps
