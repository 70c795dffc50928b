import TypedSteps.Regex.Flags
import TypedSteps.Text.Hexadecimal
import TypedSteps.Unicode.Property

/-!
# Escapes and bounds

The parts of a pattern that span several characters: what follows a backslash, and the
bounds of a counted repetition. Each function is given the text after the character
that announces the part, and answers with what it read and the number of characters
it took.

* `Escape`, `readEscape` — the meaning of a backslash and what follows it;
* `readProperty` — the characters that a property such as `\p{Greek}` names;
* `readBounds` — the bounds in `{n}`, `{n,}` and `{n,m}`.
-/

namespace TypedSteps

open Unicode (CharSet PropertyQuery)

/-- What a backslash and the characters after it stand for. -/
inductive Escape where
  | literal (c : Char)
  | look (assertion : Look)
  | set (members : CharSet)
  deriving DecidableEq, Repr

-- ---------------------------------------------------------------------------
-- Text between delimiters
-- ---------------------------------------------------------------------------

/-- Reads characters up to a closing brace, `skip` of them ignored and blanks ignored
after each; `member` says which characters may stand there. Answers with the
characters and how many were taken, the brace included. -/
def readBraced (f : Flags) (member : Char → Bool) (failure : SyntaxError) :
    Nat → List Char → Except SyntaxError (List Char × Nat)
  | _, [] => .error failure
  | skip + 1, _ :: cs =>
    match readBraced f member failure skip cs with
    | .ok (read, taken) => .ok (read, taken + 1)
    | .error e => .error e
  | 0, c :: cs =>
    if c == '}' then .ok ([], 1)
    else if member c then
      match readBraced f member failure (f.blanks cs) cs with
      | .ok (read, taken) => .ok (c :: read, taken + 1)
      | .error e => .error e
    else .error failure

-- ---------------------------------------------------------------------------
-- Code points
-- ---------------------------------------------------------------------------

/-- The character whose code point the digits give, if there is one. -/
def charOfHex (digits : List Char) : Except SyntaxError Char :=
  let n := Text.hexNumber digits
  if digits.isEmpty || !decide (n.isValidChar) then .error .codePoint else .ok (Char.ofNat n)

/-- Reads exactly `count` hexadecimal digits. -/
def readHexDigits (f : Flags) : Nat → List Char → Except SyntaxError (List Char × Nat)
  | 0, _ => .ok ([], 0)
  | _ + 1, [] => .error .codePoint
  | count + 1, c :: cs =>
    if !Text.isHexDigit c then .error .codePoint
    else if count == 0 then .ok ([c], 1)
    else
      match readHexDigits f count (cs.drop (f.blanks cs)) with
      | .ok (read, taken) => .ok (c :: read, taken + f.blanks cs + 1)
      | .error e => .error e

/-- Reads a code point: `count` digits, or any number of them in braces. -/
def readCodePoint (f : Flags) (count : Nat) (cs : List Char) :
    Except SyntaxError (Escape × Nat) :=
  let skip := f.blanks cs
  match cs.drop skip with
  | '{' :: rest =>
    match readBraced f Text.isHexDigit .codePoint (f.blanks rest) rest with
    | .ok (digits, taken) =>
      match charOfHex digits with
      | .ok c => .ok (.literal c, skip + 1 + taken)
      | .error e => .error e
    | .error e => .error e
  | rest =>
    match readHexDigits f count rest with
    | .ok (digits, taken) =>
      match charOfHex digits with
      | .ok c =>
        if !f.unicode && count == 2 && decide (0x7F < c.toNat) then .error .unicodeNeeded
        else .ok (.literal c, skip + taken)
      | .error e => .error e
    | .error e => .error e

-- ---------------------------------------------------------------------------
-- Properties
-- ---------------------------------------------------------------------------

/-- Reads how a property is named, by one character or by a text in braces; `cs` is what
follows the letter `p`. -/
def readPropertyQuery (f : Flags) (cs : List Char) : Except SyntaxError (PropertyQuery × Nat) :=
  let skip := f.blanks cs
  match cs.drop skip with
  | [] => .error .danglingEscape
  | '\\' :: _ => .error .property
  | '{' :: rest =>
    (readBraced f (fun _ => true) .danglingEscape (f.blanks rest) rest).map fun (name, taken) =>
      (.ofText name, skip + 1 + taken)
  | c :: _ => .ok (.named [c], skip + 1)

/-- Reads the characters with a property, or without it where `negated` is set. -/
def readProperty (f : Flags) (negated : Bool) (cs : List Char) :
    Except SyntaxError (CharSet × Nat) :=
  match readPropertyQuery f cs with
  | .error e => .error e
  | .ok (query, taken) =>
    if !f.unicode then .error .unicodeNeeded
    else
      match query.members? with
      | none => .error .property
      | some s => (f.negate negated (f.fold s)).map fun members => (members, taken)

-- ---------------------------------------------------------------------------
-- Escapes
-- ---------------------------------------------------------------------------

/-- The word assertion with the given name. -/
def wordEdge? (name : List Char) : Option WordEdge :=
  if name == "start".toList then some .start
  else if name == "end".toList then some .finish
  else if name == "start-half".toList then some .startHalf
  else if name == "end-half".toList then some .finishHalf
  else none

/-- Reads what follows `\b`: a name in braces such as `{start}` belongs to the
assertion, while a brace that opens something else is left for what comes next. -/
def readWordEdge (f : Flags) (cs : List Char) : Except SyntaxError (WordEdge × Nat) :=
  match cs with
  | '{' :: rest =>
    let skip := f.blanks rest
    match rest.drop skip with
    | [] => .error .bounds
    | c :: _ =>
      let named := fun (d : Char) => d.isAlpha || d == '-'
      if !named c then .ok (.boundary, 0)
      else
        match readBraced f named .unknownEscape skip rest with
        | .ok (name, taken) =>
          match wordEdge? name with
          | some edge => .ok (edge, taken + 1)
          | none => .error .unknownEscape
        | .error e => .error e
  | _ => .ok (.boundary, 0)

/-- Whether a backslash before `c` makes it stand for itself: so it is for all ASCII
characters but letters, digits and angle brackets. -/
def isEscapable (c : Char) : Bool :=
  decide (c.toNat ≤ 0x7F) && !c.isAlphanum && c != '<' && c != '>'

/-- Reads an escape; `cs` is what follows the backslash. -/
def readEscape (f : Flags) (cs : List Char) : Except SyntaxError (Escape × Nat) :=
  match cs with
  | [] => .error .danglingEscape
  | c :: rest =>
    if isEscapable c then .ok (.literal c, 1)
    else
      match c with
      | 'a' => .ok (.literal '\x07', 1)
      | 'f' => .ok (.literal '\x0c', 1)
      | 't' => .ok (.literal '\t', 1)
      | 'n' => .ok (.literal '\n', 1)
      | 'r' => .ok (.literal '\r', 1)
      | 'v' => .ok (.literal '\x0b', 1)
      | 'A' => .ok (.look .textStart, 1)
      | 'z' => .ok (.look .textEnd, 1)
      | 'B' => .ok (.look (.word .interior f.unicode), 1)
      | '<' => .ok (.look (.word .start f.unicode), 1)
      | '>' => .ok (.look (.word .finish f.unicode), 1)
      | 'b' =>
        match readWordEdge f rest with
        | .ok (edge, taken) => .ok (.look (.word edge f.unicode), taken + 1)
        | .error e => .error e
      | 'p' => (readProperty f false rest).map fun (s, taken) => (.set s, taken + 1)
      | 'P' => (readProperty f true rest).map fun (s, taken) => (.set s, taken + 1)
      | 'x' => (readCodePoint f 2 rest).map fun (e, taken) => (e, taken + 1)
      | 'u' => (readCodePoint f 4 rest).map fun (e, taken) => (e, taken + 1)
      | 'U' => (readCodePoint f 8 rest).map fun (e, taken) => (e, taken + 1)
      | _ =>
        match f.shorthand? c.toLower with
        | none => .error .unknownEscape
        | some s =>
          match f.negate c.isUpper s with
          | .ok members => .ok (.set members, 1)
          | .error e => .error e

-- ---------------------------------------------------------------------------
-- Bounds
-- ---------------------------------------------------------------------------

/-- Reads decimal digits, `skip` characters ignored and blanks ignored after each. -/
def readDigits (f : Flags) : Nat → List Char → List Char × Nat
  | _, [] => ([], 0)
  | skip + 1, _ :: cs =>
    let (read, taken) := readDigits f skip cs
    (read, taken + 1)
  | 0, c :: cs =>
    if c.isDigit then
      let (read, taken) := readDigits f (f.blanks cs) cs
      (c :: read, taken + 1)
    else ([], 0)

/-- The bound below which the numbers in bounds lie: 2^32. -/
def numberBound : Nat := 0x100000000

/-- Reads a number below `numberBound`, blanks around it ignored. -/
def readNumber (f : Flags) (cs : List Char) : Except SyntaxError (Nat × Nat) :=
  let before := (cs.takeWhile Unicode.isWhiteSpace).length
  let (digits, taken) := readDigits f 0 (cs.drop before)
  let after := ((cs.drop (before + taken)).takeWhile Unicode.isWhiteSpace).length
  let n := Nat.ofDigitChars 10 digits 0
  if digits.isEmpty || decide (numberBound ≤ n) then .error .bounds
  else .ok (n, before + taken + after)

/-- The bounds of a counted repetition, and whether `?` follows them. -/
structure Bounds where
  min : Nat
  max : Option Nat
  marked : Bool
  deriving DecidableEq, Repr

/-- The bounds, if they are in order, together with the mark that may follow the brace
after `taken` characters. -/
def Bounds.close (f : Flags) (min : Nat) (max : Option Nat) (taken : Nat) (rest : List Char) :
    Except SyntaxError (Bounds × Nat) :=
  if max.any (· < min) then .error .bounds
  else
    let skip := f.blanks rest
    match rest.drop skip with
    | '?' :: _ => .ok (⟨min, max, true⟩, taken + skip + 1)
    | _ => .ok (⟨min, max, false⟩, taken)

/-- Reads the bounds of a counted repetition; `cs` is what follows the brace. -/
def readBounds (f : Flags) (cs : List Char) : Except SyntaxError (Bounds × Nat) :=
  let skip := f.blanks cs
  match readNumber f (cs.drop skip) with
  | .error e => .error e
  | .ok (min, taken) =>
    match cs.drop (skip + taken) with
    | '}' :: rest => Bounds.close f min (some min) (skip + taken + 1) rest
    | ',' :: rest =>
      let inner := f.blanks rest
      match rest.drop inner with
      | '}' :: after => Bounds.close f min none (skip + taken + 1 + inner + 1) after
      | second =>
        match readNumber f second with
        | .error e => .error e
        | .ok (max, more) =>
          match second.drop more with
          | '}' :: after =>
            Bounds.close f min (some max) (skip + taken + 1 + inner + more + 1) after
          | _ => .error .bounds
    | _ => .error .bounds

end TypedSteps
