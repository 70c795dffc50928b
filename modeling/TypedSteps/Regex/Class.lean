import TypedSteps.Regex.Escape

/-!
# Bracketed classes

A bracketed class is read into the set of its members. While classes are open, one
inside the other, each is a `ClassFrame`: what has been read of it so far. Members
are collected into a union; an operator such as `&&` puts the union aside as its left
operand and starts a new one.

* `ClassFrame`, `ClassFrame.opening`, `ClassFrame.close` — a class being read;
* `readNamedClass?` — named ASCII classes such as `[:alpha:]`;
* `readMembers` — a member or a range of a class.

Every class also counts how deeply its parts are nested, since a pattern that nests
too deeply is refused.
-/

namespace TypedSteps

open Unicode (CharSet)

/-- The operators between sets in a class. -/
inductive ClassOp where
  | inter
  | diff
  | symmDiff
  deriving DecidableEq, Repr

/-- The set that an operator yields. -/
def ClassOp.apply : ClassOp → CharSet → CharSet → CharSet
  | inter => CharSet.inter
  | diff => CharSet.diff
  | symmDiff => CharSet.symmDiff

/-- A set that was read, with the depth to which its parts nest. -/
structure NestedSet where
  set : CharSet
  depth : Nat

/-- A class that is being read. -/
structure ClassFrame where
  negated : Bool
  /-- The operator that waits for its right operand, and its left operand. -/
  pending : Option (ClassOp × NestedSet) := none
  /-- The union of the members since the last operator. -/
  set : CharSet := .empty
  /-- How many members there were. -/
  count : Nat := 0
  /-- The depth of the deepest of them. -/
  depth : Nat := 0

namespace ClassFrame

/-- Adds a member to the union. -/
def add (frame : ClassFrame) (s : CharSet) (depth : Nat) : ClassFrame :=
  { frame with
    set := s.union frame.set, count := frame.count + 1, depth := max frame.depth depth }

/-- The set read so far, a waiting operator applied. Its operands are widened by case
variants before they are combined. -/
def operand (f : Flags) (frame : ClassFrame) : NestedSet :=
  let depth := if frame.count < 2 then frame.depth else frame.depth + 1
  match frame.pending with
  | none => ⟨frame.set, depth⟩
  | some (op, left) =>
    ⟨op.apply (f.fold left.set) (f.fold frame.set), max left.depth depth + 1⟩

/-- Makes what was read so far the left operand of an operator. -/
def operator (f : Flags) (frame : ClassFrame) (op : ClassOp) : ClassFrame :=
  { negated := frame.negated, pending := some (op, frame.operand f) }

/-- The set of the whole class: widened by case variants, then negated. -/
def close (f : Flags) (frame : ClassFrame) : Except SyntaxError NestedSet :=
  let whole := frame.operand f
  match f.negate frame.negated (f.fold whole.set) with
  | .ok s => .ok ⟨s, whole.depth + 1⟩
  | .error e => .error e

/-- Counts the hyphens at the start of a text, `skip` characters ignored and blanks
ignored after each; answers also with the number of characters taken. -/
def leadingHyphens (f : Flags) : Nat → List Char → Nat × Nat
  | _, [] => (0, 0)
  | skip + 1, _ :: cs =>
    let (count, taken) := leadingHyphens f skip cs
    (count, taken + 1)
  | 0, c :: cs =>
    if c == '-' then
      let (count, taken) := leadingHyphens f (f.blanks cs) cs
      (count + 1, taken + 1)
    else (0, 0)

/-- Adds the given number of hyphens to the union. -/
def addHyphens : Nat → ClassFrame → ClassFrame
  | 0, frame => frame
  | count + 1, frame => addHyphens count (frame.add (.ofChar '-') 0)

/-- Opens a class; `cs` is what follows the bracket. A caret negates the class, any
hyphens that come next are members, and without those so is a closing bracket. -/
def opening (f : Flags) (cs : List Char) : ClassFrame × Nat :=
  let lead := f.blanks cs
  let (negated, start) :=
    match cs.drop lead with
    | '^' :: rest => (true, lead + 1 + f.blanks rest)
    | _ => (false, lead)
  let (hyphens, taken) := leadingHyphens f 0 (cs.drop start)
  let frame := addHyphens hyphens { negated := negated }
  match hyphens, cs.drop (start + taken) with
  | 0, ']' :: _ => (frame.add (.ofChar ']') 0, start + 1)
  | _, _ => (frame, start + taken)

end ClassFrame

-- ---------------------------------------------------------------------------
-- Named classes
-- ---------------------------------------------------------------------------

/-- The set of the ASCII class with the given name. -/
def namedClass? (name : List Char) : Option CharSet :=
  match String.ofList name with
  | "alnum" => some (.mk [(0x30, 0x39), (0x41, 0x5A), (0x61, 0x7A)])
  | "alpha" => some (.mk [(0x41, 0x5A), (0x61, 0x7A)])
  | "ascii" => some (.mk [(0x0, 0x7F)])
  | "blank" => some (.mk [(0x9, 0x9), (0x20, 0x20)])
  | "cntrl" => some (.mk [(0x0, 0x1F), (0x7F, 0x7F)])
  | "digit" => some (.mk [(0x30, 0x39)])
  | "graph" => some (.mk [(0x21, 0x7E)])
  | "lower" => some (.mk [(0x61, 0x7A)])
  | "print" => some (.mk [(0x20, 0x7E)])
  | "punct" => some (.mk [(0x21, 0x2F), (0x3A, 0x40), (0x5B, 0x60), (0x7B, 0x7E)])
  | "space" => some (.mk [(0x9, 0xD), (0x20, 0x20)])
  | "upper" => some (.mk [(0x41, 0x5A)])
  | "word" => some (.mk [(0x30, 0x39), (0x41, 0x5A), (0x5F, 0x5F), (0x61, 0x7A)])
  | "xdigit" => some (.mk [(0x30, 0x39), (0x41, 0x46), (0x61, 0x66)])
  | _ => none

/-- Reads a named class such as `[:alpha:]` or `[:^alpha:]`; `cs` is what follows the
bracket. Answers with the set, whether it is negated, and the characters taken. -/
def readNamedClass? (cs : List Char) : Option (CharSet × Bool × Nat) :=
  match cs with
  | ':' :: rest =>
    let (negated, body) :=
      match rest with
      | '^' :: body => (true, body)
      | body => (false, body)
    let name := body.takeWhile (· != ':')
    match body.drop name.length with
    | ':' :: ']' :: _ =>
      (namedClass? name).map fun s => (s, negated, name.length + 3 + negated.toNat)
    | _ => none
  | _ => none

-- ---------------------------------------------------------------------------
-- Members
-- ---------------------------------------------------------------------------

/-- Reads one member of a class, which starts with `c` and goes on in `cs`. -/
def readMember (f : Flags) (c : Char) (cs : List Char) : Except SyntaxError (Escape × Nat) :=
  if c == '\\' then readEscape f cs else .ok (.literal c, 0)

/-- The set of a member that is not part of a range. -/
def Escape.memberSet (f : Flags) : Escape → Except SyntaxError CharSet
  | .literal c =>
    if !f.unicode && decide (0x7F < c.toNat) then .error .unicodeNeeded else .ok (.ofChar c)
  | .set s => .ok s
  | .look _ => .error .classMember

/-- The set of the range between two members, which have to be single characters. -/
def rangeSet (f : Flags) : Escape → Escape → Except SyntaxError CharSet
  | .literal a, .literal b =>
    if b.toNat < a.toNat then .error .classRange
    else if !f.unicode && decide (0x7F < b.toNat) then .error .unicodeNeeded
    else .ok (.ofRange a.toNat b.toNat)
  | _, _ => .error .classRange

/-- The character that decides whether a hyphen makes a range: the next one. In a
spaced pattern it is the next one after blanks and at most one number sign. -/
def afterHyphen (f : Flags) (cs : List Char) : Option Char :=
  if f.spaced then
    match cs.dropWhile Unicode.isWhiteSpace with
    | '#' :: rest => (rest.dropWhile Unicode.isWhiteSpace).head?
    | rest => rest.head?
  else cs.head?

/-- Reads a member or a range that starts with `c` and goes on in `cs`. A hyphen makes
a range unless a closing bracket or another hyphen comes next. -/
def readMembers (f : Flags) (c : Char) (cs : List Char) : Except SyntaxError (CharSet × Nat) :=
  match readMember f c cs with
  | .error e => .error e
  | .ok (first, taken) =>
    let start := taken + f.blanks (cs.drop taken)
    match cs.drop start with
    | '-' :: rest =>
      if afterHyphen f rest == some ']' || afterHyphen f rest == some '-' then
        (first.memberSet f).map fun s => (s, start)
      else
        let skip := f.blanks rest
        match rest.drop skip with
        | [] => .error .unclosedClass
        | d :: ds =>
          match readMember f d ds with
          | .error e => .error e
          | .ok (second, more) =>
            (rangeSet f first second).map fun s => (s, start + 1 + skip + 1 + more)
    | _ => (first.memberSet f).map fun s => (s, start)

end TypedSteps
