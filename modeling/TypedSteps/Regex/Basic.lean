import TypedSteps.Unicode.CharSet
import TypedSteps.Unicode.WordCharacter

/-!
# Regular expressions

The expressions that patterns are read into. A `Regex` has few constructors: flags,
classes and escapes are resolved while a pattern is read, so that an expression says
on its own what it matches.

* `Regex` — the expressions;
* `Look`, `Look.holds` — assertions about the characters on both sides of a position;
* `Regex.minLength?`, `Regex.matchesOnlyEmpty` — bounds on the length of a match,
  on which the compiled form of a repetition depends.
-/

namespace TypedSteps

open Unicode (CharSet)

-- ---------------------------------------------------------------------------
-- Assertions
-- ---------------------------------------------------------------------------

/-- What a word assertion asks of the position between two characters. -/
inductive WordEdge where
  | boundary
  | interior
  | start
  | finish
  | startHalf
  | finishHalf
  deriving DecidableEq, Repr

/-- An assertion about a position in the text. Lines end at line feeds, or with `crlf`
also at carriage returns, a pair of both being one end; words are made of Unicode or
of ASCII word characters. -/
inductive Look where
  | textStart
  | textEnd
  | lineStart (crlf : Bool)
  | lineEnd (crlf : Bool)
  | word (edge : WordEdge) (unicode : Bool)
  deriving DecidableEq, Repr

/-- Whether `c` is an ASCII letter, an ASCII digit or the underscore. -/
def isAsciiWordCharacter (c : Char) : Bool :=
  c.isAlphanum || c == '_'

/-- Whether a word character stands on a side of a position. -/
def wordOn (unicode : Bool) (side : Option Char) : Bool :=
  side.any (if unicode then Unicode.isWordCharacter else isAsciiWordCharacter)

/-- Whether a word assertion holds, given which sides have a word character. -/
def WordEdge.holds (before after : Bool) : WordEdge → Bool
  | boundary => before != after
  | interior => before == after
  | start => !before && after
  | finish => before && !after
  | startHalf => !before
  | finishHalf => !after

/-- Whether an assertion holds between the characters `before` and `after`; a side is
`none` where the text ends. -/
def Look.holds (before after : Option Char) : Look → Bool
  | textStart => before.isNone
  | textEnd => after.isNone
  | lineStart false => before.isNone || before == some '\n'
  | lineEnd false => after.isNone || after == some '\n'
  | lineStart true =>
    before.isNone || before == some '\n' || (before == some '\r' && after != some '\n')
  | lineEnd true =>
    after.isNone || after == some '\r' || (after == some '\n' && before != some '\r')
  | word edge unicode => edge.holds (wordOn unicode before) (wordOn unicode after)

-- ---------------------------------------------------------------------------
-- Expressions
-- ---------------------------------------------------------------------------

/-- A regular expression. Alternatives stand in order of preference; a repetition
prefers more rounds when it is greedy and fewer when it is not; a group remembers
what it matched under its index. A class with several members knows whether it was
written without Unicode (`ascii`): that does not change what it matches, but classes
written differently do not count as the same part of two alternatives. -/
inductive Regex where
  | empty
  | chars (set : CharSet) (ascii : Bool)
  | look (assertion : Look)
  | cat (first second : Regex)
  | alt (first second : Regex)
  | rep (body : Regex) (min : Nat) (max : Option Nat) (greedy : Bool)
  | group (index : Nat) (body : Regex)
  deriving DecidableEq, Repr

namespace Regex

/-- The expression that matches one character of a set; `ascii` says whether the set was
written without Unicode. One character alone is a literal, however it was written. -/
def ofSet (ascii : Bool) (s : CharSet) : Regex :=
  .chars s (ascii && !s.isEmpty && !s.isSingleton)

/-- The expression that matches the one character `c`. -/
def char (c : Char) : Regex :=
  .chars (.ofChar c) false

/-- The number of constructors of an expression. -/
def size : Regex → Nat
  | empty | chars _ _ | look _ => 1
  | cat a b | alt a b => a.size + b.size + 1
  | rep r _ _ _ | group _ r => r.size + 1

/-- A lower bound on the length of every match; `none` where the expression holds a
class without members, for which no bound is kept. -/
def minLength? : Regex → Option Nat
  | empty | look _ => some 0
  | chars s _ => if s.isEmpty then none else some 1
  | cat a b => do return (← a.minLength?) + (← b.minLength?)
  | alt a b => do return min (← a.minLength?) (← b.minLength?)
  | rep r least _ _ => r.minLength?.map (· * least)
  | group _ r => r.minLength?

/-- Whether every match is known to take at least one character. -/
def alwaysConsumes (r : Regex) : Bool :=
  r.minLength?.any (0 < ·)

/-- Whether the expression can match nothing but the empty text. -/
def matchesOnlyEmpty : Regex → Bool
  | empty | look _ => true
  | chars _ _ => false
  | cat a b | alt a b => a.matchesOnlyEmpty && b.matchesOnlyEmpty
  | rep r _ max _ => max.isSome && r.matchesOnlyEmpty
  | group _ r => r.matchesOnlyEmpty

end Regex

end TypedSteps
