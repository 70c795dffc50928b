import TypedSteps.Regex.Class
import TypedSteps.Unicode.Alphabetic

/-!
# Reading patterns

A pattern is read in one pass over its characters. What has been read so far is a
`Reading`: the sequence being built, the groups that are still open around it, and
the classes that are still open inside it. Each step looks at one character, and at
what follows where it has to, and says how many of the following characters belong
to it; `Reading.run` skips those and goes on.

* `Reading`, `Reading.step`, `Reading.run` — the pass over the pattern;
* `Regex.read` — a whole pattern: its expression and the names of its groups.

A pattern in which groups, classes, repetitions, sequences and alternatives nest more
than `nestLimit` deep is refused.
-/

namespace TypedSteps

open Unicode (CharSet)

/-- The greatest depth to which the parts of a pattern may nest. -/
def nestLimit : Nat := 250

-- ---------------------------------------------------------------------------
-- What has been read so far
-- ---------------------------------------------------------------------------

/-- A part of a sequence, with the depth to which it nests. A directive that sets
flags is a part too, but there is nothing in it to repeat. -/
structure Item where
  regex : Regex
  depth : Nat
  repeatable : Bool

/-- An expression with the depth to which it nests. -/
structure NestedRegex where
  regex : Regex
  depth : Nat

/-- What has been read inside one group: the finished alternatives and the items of
the alternative being read, the newest first in both. -/
structure Level where
  branches : List NestedRegex
  items : List Item

/-- A group that is still open: what surrounds it, the index under which it captures,
and the flags that hold again after it. -/
structure Frame where
  outer : Level
  capture : Option Nat
  flags : Flags

/-- What has been read of a pattern. -/
structure Reading where
  level : Level
  frames : List Frame
  classes : List ClassFrame
  flags : Flags
  /-- The names of the groups opened so far, the newest first. -/
  names : List (Option String)

/-- A depth one greater than `depth` where there are several parts. -/
def deepenIfMany (count depth : Nat) : Nat :=
  if count < 2 then depth else depth + 1

namespace Level

/-- Nothing read yet. -/
def empty : Level := ⟨[], []⟩

/-- Adds a part to the sequence being read. -/
def push (level : Level) (regex : Regex) (depth : Nat) (repeatable : Bool := true) : Level :=
  { level with items := ⟨regex, depth, repeatable⟩ :: level.items }

/-- The sequence being read, as an expression. -/
def sequence (level : Level) : NestedRegex :=
  ⟨Regex.concat (level.items.reverse.map (·.regex)),
    deepenIfMany level.items.length ((level.items.map (·.depth)).foldl max 0)⟩

/-- Ends the sequence being read and starts the next alternative. -/
def nextBranch (level : Level) : Level :=
  ⟨level.sequence :: level.branches, []⟩

/-- The expression of everything read. -/
def close (level : Level) : NestedRegex :=
  let all := level.sequence :: level.branches
  ⟨match level.branches with
    | [] => level.sequence.regex
    | _ => Regex.alternate (all.reverse.map (·.regex)),
    deepenIfMany all.length ((all.map (·.depth)).foldl max 0)⟩

/-- Repeats the last part of the sequence. -/
def repeatLast (level : Level) (bounds : Bounds) (greedy : Bool) : Except SyntaxError Level :=
  match level.items with
  | [] => .error .nothingToRepeat
  | last :: before =>
    if last.repeatable then
      .ok (Level.push { level with items := before }
        (last.regex.repeated bounds.min bounds.max greedy) (last.depth + 1))
    else .error .nothingToRepeat

end Level

-- ---------------------------------------------------------------------------
-- Groups
-- ---------------------------------------------------------------------------

/-- What an opening parenthesis turns out to be. -/
inductive Opening where
  | capture (name : Option String)
  | plain (flags : Flags)
  | directive (flags : Flags)

/-- Whether a text can name a group: an underscore or a letter, then letters, digits,
underscores, dots and brackets. -/
def isGroupName (cs : List Char) : Bool :=
  match cs with
  | [] => false
  | c :: rest =>
    (c == '_' || Unicode.isAlphabetic c) &&
      rest.all fun d =>
        d == '_' || d == '.' || d == '[' || d == ']' || Unicode.isAlphanumeric d

/-- Reads the name of a group, up to the closing angle bracket. -/
def readGroupName (cs : List Char) (before : Nat) : Except SyntaxError (Opening × Nat) :=
  let name := cs.takeWhile (· != '>')
  if (cs.drop name.length).isEmpty || !isGroupName name then .error .groupName
  else .ok (.capture (some (String.ofList name)), before + name.length + 1)

/-- Reads the flags of a group or a directive, up to the colon or the parenthesis. -/
def readFlags (f : Flags) (cs : List Char) (before : Nat) : Except SyntaxError (Opening × Nat) :=
  let letters := cs.takeWhile fun c => c != ':' && c != ')'
  match cs.drop letters.length, f.change? true [] letters with
  | ':' :: _, some g => .ok (.plain g, before + letters.length + 1)
  | ')' :: _, some g =>
    if letters.isEmpty then .error .nothingToRepeat
    else .ok (.directive g, before + letters.length + 1)
  | _, _ => .error .flags

/-- Reads how a group opens; `cs` is what follows the parenthesis. -/
def readOpening (f : Flags) (cs : List Char) : Except SyntaxError (Opening × Nat) :=
  let skip := f.blanks cs
  match cs.drop skip with
  | '?' :: '=' :: _ => .error .lookAround
  | '?' :: '!' :: _ => .error .lookAround
  | '?' :: '<' :: '=' :: _ => .error .lookAround
  | '?' :: '<' :: '!' :: _ => .error .lookAround
  | '?' :: 'P' :: '<' :: rest => readGroupName rest (skip + 3)
  | '?' :: '<' :: rest => readGroupName rest (skip + 2)
  | '?' :: rest => readFlags f rest (skip + 1)
  | _ => .ok (.capture none, skip)

-- ---------------------------------------------------------------------------
-- Steps
-- ---------------------------------------------------------------------------

namespace Reading

/-- Nothing read yet. -/
def start : Reading :=
  ⟨.empty, [], [], {}, []⟩

/-- Adds a part to the sequence being read. -/
def push (st : Reading) (regex : Regex) (depth : Nat) (repeatable : Bool := true) : Reading :=
  { st with level := st.level.push regex depth repeatable }

/-- Opens a group, or applies a directive. -/
def openGroup (st : Reading) : Opening → Except SyntaxError Reading
  | .directive g => .ok { st.push .empty 0 false with flags := g }
  | .plain g =>
    .ok { st with
      level := .empty, frames := ⟨st.level, none, st.flags⟩ :: st.frames, flags := g }
  | .capture name =>
    if name.isSome && st.names.contains name then .error .duplicateGroupName
    else
      .ok { st with
        level := .empty
        frames := ⟨st.level, some (st.names.length + 1), st.flags⟩ :: st.frames
        names := name :: st.names }

/-- Closes the innermost group. -/
def closeGroup (st : Reading) : Except SyntaxError Reading :=
  match st.frames with
  | [] => .error .unopenedGroup
  | frame :: frames =>
    let body := st.level.close
    let regex :=
      match frame.capture with
      | some index => .group index body.regex
      | none => body.regex
    .ok { st with
      level := frame.outer.push regex (body.depth + 1), frames := frames, flags := frame.flags }

/-- Adds what an escape stands for to the sequence being read. -/
def pushEscape (st : Reading) : Escape → Reading
  | .literal c => st.push (st.flags.literal c) 0
  | .look l => st.push (.look l) 0
  | .set s => st.push (st.flags.oneOf s) 0

/-- Repeats the last part of the sequence between the given bounds. -/
def repeatLast (st : Reading) (bounds : Bounds) : Except SyntaxError Reading :=
  (st.level.repeatLast bounds (st.flags.greedy bounds.marked)).map fun level =>
    { st with level := level }

/-- Repeats the last part as one of the operators `?`, `*` and `+` asks; `cs` is what
follows the operator. -/
def repeatUncounted (st : Reading) (min : Nat) (max : Option Nat) (cs : List Char) :
    Except SyntaxError (Reading × Nat) :=
  let marked := cs.head? == some '?'
  (st.repeatLast ⟨min, max, marked⟩).map fun next => (next, marked.toNat)

/-- The step at the character `c` outside classes. -/
def stepOutside (st : Reading) (c : Char) (cs : List Char) :
    Except SyntaxError (Reading × Nat) :=
  match c with
  | '(' =>
    match readOpening st.flags cs with
    | .ok (opening, taken) => (st.openGroup opening).map fun next => (next, taken)
    | .error e => .error e
  | ')' => st.closeGroup.map fun next => (next, 0)
  | '|' => .ok ({ st with level := st.level.nextBranch }, 0)
  | '[' =>
    let (frame, taken) := ClassFrame.opening st.flags cs
    .ok ({ st with classes := [frame] }, taken)
  | '?' => st.repeatUncounted 0 (some 1) cs
  | '*' => st.repeatUncounted 0 none cs
  | '+' => st.repeatUncounted 1 none cs
  | '{' =>
    match readBounds st.flags cs with
    | .ok (bounds, taken) => (st.repeatLast bounds).map fun next => (next, taken)
    | .error e => .error e
  | '\\' =>
    match readEscape st.flags cs with
    | .ok (escape, taken) => .ok (st.pushEscape escape, taken)
    | .error e => .error e
  | '.' => st.flags.dot.map fun r => (st.push r 0, 0)
  | '^' => .ok (st.push (.look st.flags.lineStart) 0, 0)
  | '$' => .ok (st.push (.look st.flags.lineEnd) 0, 0)
  | _ => .ok (st.push (st.flags.literal c) 0, 0)

/-- Closes the innermost class, which becomes a member of the class around it or, if
there is none, a part of the sequence being read. -/
def closeClass (st : Reading) (frame : ClassFrame) (outer : List ClassFrame) :
    Except SyntaxError Reading :=
  match frame.close st.flags with
  | .error e => .error e
  | .ok whole =>
    match outer with
    | [] => .ok { st.push (st.flags.oneOf whole.set) whole.depth with classes := [] }
    | parent :: rest => .ok { st with classes := parent.add whole.set whole.depth :: rest }

/-- The step at the character `c` inside the class `frame`, which stands in the classes
`outer`. -/
def stepInside (st : Reading) (frame : ClassFrame) (outer : List ClassFrame) (c : Char)
    (cs : List Char) : Except SyntaxError (Reading × Nat) :=
  let operator (op : ClassOp) : Except SyntaxError (Reading × Nat) :=
    .ok ({ st with classes := frame.operator st.flags op :: outer }, 1)
  let member : Except SyntaxError (Reading × Nat) :=
    (readMembers st.flags c cs).map fun (s, taken) =>
      ({ st with classes := frame.add s 0 :: outer }, taken)
  match c, cs with
  | '[', _ =>
    match readNamedClass? cs with
    | some (s, negated, taken) =>
      (st.flags.negate negated (st.flags.fold s)).map fun named =>
        ({ st with classes := frame.add named 0 :: outer }, taken)
    | none =>
      let (inner, taken) := ClassFrame.opening st.flags cs
      .ok ({ st with classes := inner :: frame :: outer }, taken)
  | ']', _ => (st.closeClass frame outer).map fun next => (next, 0)
  | '&', '&' :: _ => operator .inter
  | '-', '-' :: _ => operator .diff
  | '~', '~' :: _ => operator .symmDiff
  | _, _ => member

/-- The step at the character `c`, which `cs` follows: what has been read after it, and
how many of the following characters belong to it. -/
def step (st : Reading) (c : Char) (cs : List Char) : Except SyntaxError (Reading × Nat) :=
  if st.flags.blanks (c :: cs) > 0 then .ok (st, st.flags.blanks (c :: cs) - 1)
  else
    match st.classes with
    | [] => st.stepOutside c cs
    | frame :: outer => st.stepInside frame outer c cs

/-- Reads on through a text, its first `skip` characters ignored. -/
def run (st : Reading) : Nat → List Char → Except SyntaxError Reading
  | _, [] => .ok st
  | skip + 1, _ :: cs => run st skip cs
  | 0, c :: cs =>
    match st.step c cs with
    | .ok (next, skip) => run next skip cs
    | .error e => .error e

/-- The whole pattern, once all of it is read. -/
def finish (st : Reading) : Except SyntaxError (Regex × List (Option String)) :=
  if !st.classes.isEmpty then .error .unclosedClass
  else if !st.frames.isEmpty then .error .unclosedGroup
  else if nestLimit < st.level.close.depth then .error .tooDeep
  else .ok (st.level.close.regex, st.names.reverse)

end Reading

/-- Reads a pattern: its expression, and the names of its groups in order. -/
def Regex.read (cs : List Char) : Except SyntaxError (Regex × List (Option String)) :=
  match Reading.start.run 0 cs with
  | .ok st => st.finish
  | .error e => .error e

-- ---------------------------------------------------------------------------
-- Reading a text in two parts
-- ---------------------------------------------------------------------------

theorem Reading.run_nil (st : Reading) (skip : Nat) : st.run skip [] = .ok st := by
  cases skip <;> rfl

/-- Characters that are skipped change nothing. -/
theorem Reading.run_skip (st : Reading) (cs rest : List Char) :
    st.run cs.length (cs ++ rest) = st.run 0 rest := by
  induction cs with
  | nil => rfl
  | cons c cs ih => exact ih

end TypedSteps
