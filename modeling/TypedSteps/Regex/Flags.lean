import TypedSteps.Regex.Normal
import TypedSteps.Unicode.WhiteSpace
import TypedSteps.Unicode.DecimalDigit
import TypedSteps.Unicode.CaseFolding

/-!
# Flags of a pattern

Flags change how the rest of a pattern is read. A directive such as `(?i)` sets them
up to the end of the group it stands in; `(?i:…)` sets them for one group. This module
holds the flags, the reasons for which a pattern is refused, and the expressions whose
meaning depends on the flags alone.

* `Flags` — the flags in force at a place of a pattern;
* `SyntaxError` — why a text is no pattern;
* `Flags.blanks` — how many characters a spaced pattern ignores at a place;
* `Flags.change?` — reading a list of flag letters.
-/

namespace TypedSteps

open Unicode (CharSet)

/-- Why a text is not a pattern. -/
inductive SyntaxError where
  | unclosedGroup
  | unopenedGroup
  | lookAround
  | groupName
  | duplicateGroupName
  | flags
  | nothingToRepeat
  | bounds
  | danglingEscape
  | unknownEscape
  | codePoint
  | property
  | unclosedClass
  | classRange
  | classMember
  | unicodeNeeded
  | tooDeep
  deriving DecidableEq, Repr

/-- The flags in force at a place of a pattern. -/
structure Flags where
  /-- `i`: letters also match their case variants. -/
  caseless : Bool := false
  /-- `m`: line anchors hold at every line. -/
  multiLine : Bool := false
  /-- `s`: the dot also matches line ends. -/
  dotAll : Bool := false
  /-- `U`: repetitions are greedy only when marked with `?`. -/
  swapGreed : Bool := false
  /-- `u`: classes and words are Unicode ones. -/
  unicode : Bool := true
  /-- `R`: a carriage return ends a line too. -/
  crlf : Bool := false
  /-- `x`: blanks and comments are ignored. -/
  spaced : Bool := false
  deriving DecidableEq, Repr

namespace Flags

-- ---------------------------------------------------------------------------
-- Ignored characters
-- ---------------------------------------------------------------------------

/-- The number of blanks and characters of comments at the start of a text; a comment
runs from `#` to the end of its line. -/
def blankRun (inComment : Bool) : List Char → Nat
  | [] => 0
  | c :: cs =>
    if inComment then blankRun (c != '\n') cs + 1
    else if Unicode.isWhiteSpace c then blankRun false cs + 1
    else if c == '#' then blankRun true cs + 1
    else 0

/-- The number of characters that are ignored at the start of a text. -/
def blanks (f : Flags) (cs : List Char) : Nat :=
  if f.spaced then blankRun false cs else 0

-- ---------------------------------------------------------------------------
-- Lists of flags
-- ---------------------------------------------------------------------------

/-- Sets the flag with the given letter. -/
def set? (f : Flags) (value : Bool) : Char → Option Flags
  | 'i' => some { f with caseless := value }
  | 'm' => some { f with multiLine := value }
  | 's' => some { f with dotAll := value }
  | 'U' => some { f with swapGreed := value }
  | 'u' => some { f with unicode := value }
  | 'R' => some { f with crlf := value }
  | 'x' => some { f with spaced := value }
  | _ => none

/-- Applies a list of flag letters in which those after `-` are cleared. No letter may
stand twice, nor the minus sign, and something must follow it. -/
def change? (f : Flags) (value : Bool) (seen : List Char) : List Char → Option Flags
  | [] => some f
  | c :: cs =>
    if seen.contains c then none
    else if c == '-' then
      if cs.isEmpty then none else change? f false ('-' :: seen) cs
    else
      match f.set? value c with
      | none => none
      | some g => change? g value (c :: seen) cs

-- ---------------------------------------------------------------------------
-- Expressions that depend on the flags
-- ---------------------------------------------------------------------------

/-- The class of the characters in a set, as the flags say it is written. -/
def oneOf (f : Flags) (s : CharSet) : Regex :=
  .ofSet (!f.unicode) s

/-- Widens a set by case variants where the flags ask for it. -/
def fold (f : Flags) (s : CharSet) : CharSet :=
  if !f.caseless then s else if f.unicode then s.caseClosure else s.asciiCaseClosure

/-- The expression for a literal character: the character, and its case variants where
the flags ask for them. -/
def literal (f : Flags) (c : Char) : Regex :=
  f.oneOf (f.fold (.ofChar c))

/-- The expression for the dot: any character but those that end a line. -/
def dot (f : Flags) : Except SyntaxError Regex :=
  if !f.unicode then .error .unicodeNeeded
  else if f.dotAll then .ok (f.oneOf CharSet.empty.complement)
  else if f.crlf then .ok (f.oneOf (CharSet.ofRanges [(0xA, 0xA), (0xD, 0xD)]).complement)
  else .ok (f.oneOf (CharSet.ofChar '\n').complement)

/-- The assertion that `^` stands for. -/
def lineStart (f : Flags) : Look :=
  if f.multiLine then .lineStart f.crlf else .textStart

/-- The assertion that `$` stands for. -/
def lineEnd (f : Flags) : Look :=
  if f.multiLine then .lineEnd f.crlf else .textEnd

/-- The set of a class that is negated or not; without Unicode a class has ASCII
members only, so it cannot be negated. -/
def negate (f : Flags) (negated : Bool) (s : CharSet) : Except SyntaxError CharSet :=
  if !negated then .ok s
  else if f.unicode then .ok s.complement
  else .error .unicodeNeeded

/-- The ASCII blanks, for classes without Unicode. -/
def asciiBlank : CharSet :=
  .mk [(0x9, 0xD), (0x20, 0x20)]

/-- The ASCII word characters, for classes without Unicode. -/
def asciiWord : CharSet :=
  .mk [(0x30, 0x39), (0x41, 0x5A), (0x5F, 0x5F), (0x61, 0x7A)]

/-- The set of the class with the letter `d`, `s` or `w`; `none` for other letters. -/
def shorthand? (f : Flags) : Char → Option CharSet
  | 'd' => some (if f.unicode then Unicode.decimalDigit else .mk [(0x30, 0x39)])
  | 's' => some (if f.unicode then Unicode.whiteSpace else asciiBlank)
  | 'w' => some (if f.unicode then Unicode.wordCharacter else asciiWord)
  | _ => none

/-- Whether a repetition is greedy, given whether `?` follows its operator. -/
def greedy (f : Flags) (marked : Bool) : Bool :=
  f.swapGreed == marked

end Flags

end TypedSteps
