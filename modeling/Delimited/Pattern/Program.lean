import Delimited.Pattern.Node

/-!
# Programs

A `Program` is a pattern as a list of instructions that refer to each other by address. A node is compiled in front
of the address at which the match goes on, `next`, so every piece of code ends by going there. A repetition without
an upper bound is a loop that runs at least once, made optional when it may be skipped; this keeps the order of
preference right also for bodies that match nothing.
-/

namespace Delimited.Pattern

/-- An instruction. `split` prefers its first address. -/
inductive Inst where
  | accept
  | set (s : CharSet) (next : Nat)
  | look (l : Look) (next : Nat)
  | save (slot : Nat) (next : Nat)
  | split (first second : Nat)

/-- Instructions by address. -/
abbrev Code := Array Inst

/-- Appends an instruction; gives its address. -/
def emit (code : Code) (i : Inst) : Nat × Code := (code.size, code.push i)

/-- A choice between entering a body and going on: a greedy one prefers the body. -/
def choice (greedy : Bool) (body next : Nat) : Inst :=
  if greedy then .split body next else .split next body

/-- Appends the code of a node, which goes on at `next`; gives the address where it begins. -/
def Node.compile (next : Nat) (code : Code) : Node → Nat × Code
  | .empty => (next, code)
  | .set s => emit code (.set s next)
  | .look l => emit code (.look l next)
  | .capture k e =>
    let (next, code) := emit code (.save (2 * k + 1) next)
    let (body, code) := e.compile next code
    emit code (.save (2 * k) body)
  | .group e => e.compile next code
  | .seq a b =>
    let (next, code) := b.compile next code
    a.compile next code
  | .alt a b =>
    let (first, code) := a.compile next code
    let (second, code) := b.compile next code
    emit code (.split first second)
  | .repetition min none greedy e =>
    let (loop, code) := emit code .accept
    let (body, code) := e.compile loop code
    let code := code.setIfInBounds loop (choice greedy body next)
    if min = 0 then emit code (choice greedy body next)
    else Nat.repeat (fun (next, code) => e.compile next code) (min - 1) (body, code)
  | .repetition min (some max) greedy e =>
    let optional := fun ((inner, code) : Nat × Code) =>
      let (body, code) := e.compile inner code
      emit code (choice greedy body next)
    Nat.repeat (fun (next, code) => e.compile next code) min (Nat.repeat optional (max - min) (next, code))

/-- A pattern in executable form. -/
structure Program where
  code : Code
  /-- The address where a match begins. -/
  start : Nat
  /-- Whether every match begins at the start of the text. -/
  anchored : Bool
  /-- The number of places that a match records, two for each capture. -/
  slots : Nat

/-- The program of a node. Capture 0 is the whole match. The node is taken as it is written, not in its simplified form, so
that the branches of its choices are tried in their order. -/
def Node.program (n : Node) : Program :=
  let (start, code) := (Node.capture 0 n).compile 0 #[.accept]
  { code, start, anchored := n.anchored, slots := 2 * (n.captures + 1) }

end Delimited.Pattern
