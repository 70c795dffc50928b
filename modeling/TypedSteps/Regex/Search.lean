import TypedSteps.Regex.Program

/-!
# Searching a text

A program is run by threads, each at an instruction and a position of the text. The
threads to try are kept on a stack, the preferred one on top, and a pair of
instruction and position is tried only once: whoever comes there later would fail as
the first did, for otherwise the search would be over. This makes the search linear
in the text, and it ends whatever the expression repeats.

A search starts a thread at every position, the leftmost one on top; so the first
thread to accept gives the **leftmost match, and among those the preferred one**.

* `Thread`, `Inst.next` — threads and where an instruction sends them;
* `Program.explore` — the search itself;
* `Program.find` — the first match from a position on;
* `Program.allMatches` — all matches that do not overlap.
-/

namespace TypedSteps

/-- The slots saved along the way of a thread with their positions, the newest first. -/
abbrev Slots := List (Nat × Nat)

/-- A thread: the instruction it is at, its position in the text and its slots. -/
structure Thread where
  pc : Nat
  pos : Nat
  slots : Slots
  deriving DecidableEq, Repr

/-- The character before a position. -/
def charBefore (text : Array Char) (pos : Nat) : Option Char :=
  if pos = 0 then none else text[pos - 1]?

/-- Where an instruction sends a thread, in order of preference. -/
def Inst.next (text : Array Char) (t : Thread) : Inst → List Thread
  | chars set =>
    match text[t.pos]? with
    | some c => if set.contains c then [⟨t.pc + 1, t.pos + 1, t.slots⟩] else []
    | none => []
  | look assertion =>
    if assertion.holds (charBefore text t.pos) text[t.pos]? then [⟨t.pc + 1, t.pos, t.slots⟩]
    else []
  | save slot => [⟨t.pc + 1, t.pos, (slot, t.pos) :: t.slots⟩]
  | jump target => [⟨target, t.pos, t.slots⟩]
  | split first second => [⟨first, t.pos, t.slots⟩, ⟨second, t.pos, t.slots⟩]
  | accept => []

/-- A match: the slots of the thread that accepted. -/
structure Match where
  slots : Slots
  deriving DecidableEq, Repr

namespace Match

/-- The position last saved in a slot. -/
def slot? (m : Match) (k : Nat) : Option Nat :=
  m.slots.lookup k

/-- Where a group begins and ends, if it took part in the match. -/
def span? (m : Match) (group : Nat) : Option (Nat × Nat) :=
  match m.slot? (2 * group), m.slot? (2 * group + 1) with
  | some a, some b => some (a, b)
  | _, _ => none

/-- Where the match begins. -/
def start (m : Match) : Nat := (m.slot? 0).getD 0

/-- Where the match ends. -/
def stop (m : Match) : Nat := (m.slot? 1).getD 0

end Match

namespace Program

/-- The place of an instruction and a position in the record of what was tried. -/
def cell (text : Array Char) (pc pos : Nat) : Nat :=
  pc * (text.size + 1) + pos

/-- Runs the threads of a stack until one accepts. A thread whose instruction and
position are marked in `tried` is dropped. -/
def explore (prog : Program) (text : Array Char) :
    Nat → List Thread → Array Bool → Option Match
  | 0, _, _ => none
  | _ + 1, [], _ => none
  | fuel + 1, t :: rest, tried =>
    let here := cell text t.pc t.pos
    if tried.getD here true then explore prog text fuel rest tried
    else
      match prog[t.pc]? with
      | none => explore prog text fuel rest tried
      | some .accept => some ⟨t.slots⟩
      | some inst =>
        explore prog text fuel (inst.next text t ++ rest) (tried.setIfInBounds here true)

/-- The threads with which a search from `start` on begins. -/
def starts (text : Array Char) (start : Nat) : List Thread :=
  (List.range (text.size + 1 - start)).map fun d => ⟨0, start + d, []⟩

/-- The first match that begins at `start` or later. Each pair of instruction and
position puts at most two threads on the stack, which bounds the number of steps. -/
def find (prog : Program) (text : Array Char) (start : Nat) : Option Match :=
  let cells := prog.size * (text.size + 1)
  explore prog text (text.size + 2 + 2 * cells) (starts text start) (Array.replicate cells false)

/-- The next match, given where the last one ended: an empty match right there does
not count, and the search goes on one character further. -/
def findAfter (prog : Program) (text : Array Char) (start : Nat) (last : Option Nat) :
    Option Match :=
  match prog.find text start with
  | none => none
  | some m =>
    if m.start == m.stop && last == some m.stop then prog.find text (start + 1) else some m

/-- The matches from `start` on that do not overlap, at most `fuel` of them. -/
def matchesWithin (prog : Program) (text : Array Char) : Nat → Nat → Option Nat → List Match
  | 0, _, _ => []
  | fuel + 1, start, last =>
    match prog.findAfter text start last with
    | none => []
    | some m => m :: matchesWithin prog text fuel m.stop (some m.stop)

/-- All matches that do not overlap, from left to right. Each ends further right than
the one before, so there are no more than one for each position. -/
def allMatches (prog : Program) (text : Array Char) : List Match :=
  prog.matchesWithin text (text.size + 1) 0 none

end Program

end TypedSteps
