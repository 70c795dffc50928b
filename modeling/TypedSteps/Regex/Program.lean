import TypedSteps.Regex.Basic

/-!
# Programs

An expression is searched for by a program: a list of instructions that is run over
the text. An instruction goes on with the one after it unless it says otherwise, and
`split` names the instruction to try first and the one to try after that, which is
how preferences between matches are kept.

* `Inst`, `Program` — instructions and programs;
* `Regex.emit` — the instructions of an expression, for a given address;
* `Regex.program` — the whole program, which notes where the match begins and ends.

Addresses are absolute, so `Regex.emit` is given the address of its first
instruction and `Regex.codeSize` says how many it produces.
-/

namespace TypedSteps

open Unicode (CharSet)

/-- An instruction. Slot `2 * k` holds where group `k` begins and slot `2 * k + 1` where
it ends; group `0` is the whole match. -/
inductive Inst where
  | chars (set : CharSet)
  | look (assertion : Look)
  | save (slot : Nat)
  | jump (target : Nat)
  | split (first second : Nat)
  | accept
  deriving DecidableEq, Repr

/-- The instructions of a program, run from the first. -/
abbrev Program := Array Inst

/-- A choice between going on inside and leaving, in the order that greed asks for. -/
def Inst.choice (greedy : Bool) (inside outside : Nat) : Inst :=
  if greedy then .split inside outside else .split outside inside

namespace Regex

/-- The number of instructions of an expression. -/
def codeSize : Regex → Nat
  | empty => 0
  | chars _ _ | look _ => 1
  | cat a b => a.codeSize + b.codeSize
  | alt a b => a.codeSize + b.codeSize + 2
  | group _ r => r.codeSize + 2
  | rep r least most _ =>
    match most with
    | some m => least * r.codeSize + (m - least) * (r.codeSize + 1)
    | none =>
      if least = 0 then r.codeSize + 2
      else least * r.codeSize + 1

/-- `count` copies of some code of the given size, one after the other. -/
def emitCopies (code : Nat → List Inst) (size : Nat) : Nat → Nat → List Inst
  | 0, _ => []
  | count + 1, addr => code addr ++ emitCopies code size count (addr + size)

/-- `count` copies of some code, each of which may be left for the address `exit`
before it begins. -/
def emitOptional (code : Nat → List Inst) (size : Nat) (greedy : Bool) (exit : Nat) :
    Nat → Nat → List Inst
  | 0, _ => []
  | count + 1, addr =>
    Inst.choice greedy (addr + 1) exit :: code (addr + 1) ++
      emitOptional code size greedy exit count (addr + 1 + size)

/-- The instructions of an expression, the first of which has the given address. -/
def emit : Regex → Nat → List Inst
  | empty, _ => []
  | chars s _, _ => [.chars s]
  | look l, _ => [.look l]
  | cat a b, addr => a.emit addr ++ b.emit (addr + a.codeSize)
  | alt a b, addr =>
    let second := addr + 1 + a.codeSize + 1
    .split (addr + 1) second :: a.emit (addr + 1) ++ .jump (second + b.codeSize) :: b.emit second
  | group k r, addr => .save (2 * k) :: r.emit (addr + 1) ++ [.save (2 * k + 1)]
  | rep r least most greedy, addr =>
    let code := r.emit
    let size := r.codeSize
    match most with
    | some m =>
      let rest := addr + least * size
      emitCopies code size least addr ++
        emitOptional code size greedy (rest + (m - least) * (size + 1)) (m - least) rest
    | none =>
      if least = 0 then
        -- A body that may match nothing is tried once more after each round only.
        let after := addr + size + 2
        if r.alwaysConsumes then
          Inst.choice greedy (addr + 1) after :: code (addr + 1) ++ [.jump addr]
        else
          Inst.choice greedy (addr + 1) after :: code (addr + 1) ++
            [Inst.choice greedy (addr + 1) after]
      else
        let last := addr + (least - 1) * size
        emitCopies code size least addr ++ [Inst.choice greedy last (last + size + 1)]

/-- The program that searches for an expression. -/
def program (r : Regex) : Program :=
  (Inst.save 0 :: r.emit 1 ++ [Inst.save 1, Inst.accept]).toArray

/-- Each copy takes the room of one. -/
theorem length_emitCopies {code : Nat → List Inst} {size : Nat}
    (h : ∀ a, (code a).length = size) (count a : Nat) :
    (emitCopies code size count a).length = count * size := by
  induction count generalizing a with
  | zero => simp [emitCopies]
  | succ count ih => simp [emitCopies, h, ih, Nat.succ_mul, Nat.add_comm]

/-- Each copy that may be left out takes the room of one and of its choice. -/
theorem length_emitOptional {code : Nat → List Inst} {size : Nat} {greedy : Bool} {exit : Nat}
    (h : ∀ a, (code a).length = size) (count a : Nat) :
    (emitOptional code size greedy exit count a).length = count * (size + 1) := by
  induction count generalizing a with
  | zero => simp [emitOptional]
  | succ count ih =>
    simp only [emitOptional, List.cons_append, List.length_cons, List.length_append, h, ih,
      Nat.succ_mul]
    omega

/-- An expression has as many instructions as `codeSize` says. -/
theorem length_emit (r : Regex) (a : Nat) : (r.emit a).length = r.codeSize := by
  induction r generalizing a with
  | empty | chars | look => rfl
  | cat r s ihr ihs => simp [emit, codeSize, ihr, ihs]
  | alt r s ihr ihs =>
    simp only [emit, codeSize, List.cons_append, List.length_cons, List.length_append, ihr, ihs]
    omega
  | group k r ih =>
    simp only [emit, codeSize, List.cons_append, List.length_cons, List.length_append, ih,
      List.length_nil]
  | rep r least most greedy ih =>
    cases most with
    | some m => simp [emit, codeSize, length_emitCopies ih, length_emitOptional ih]
    | none =>
      by_cases h : least = 0
      · simp only [emit, codeSize, h, if_true]
        split <;> simp [ih]
      · simp [emit, codeSize, h, length_emitCopies ih]

end Regex

end TypedSteps
