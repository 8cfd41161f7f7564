import Delimited.Scan.Basic
import Delimited.Scan.Move
import Delimited.Scan.OpenBlock
import Delimited.Trace.Event

/-!
# States

A `State` is all that a scan knows between two steps: the texts that it is in, the open blocks, the context of the
handlers, and the events so far. `State.advance` takes one step. When the current text is at its end, a suspended text
is taken up again; when there is none, the innermost block is closed or the scan fails; and when no block is open, there
is no further step.

A failure keeps the context and the events up to it.
-/

namespace Delimited.Scan

variable {C : Type} {n : Nat}

/-- What a scan knows between two steps. -/
structure State (C : Type) (n : Nat) where
  input : Input
  root : OpenBlock C n
  /-- The open blocks below the root, innermost first. -/
  opened : List (OpenBlock C n) := []
  /-- How many texts were suspended because a block closed at the end of the input. Taking a text up again does not
  lower this. -/
  endReparses : Nat := 0
  context : C
  events : Array Event := #[]

/-- A failed scan: the error, and the context and the events up to it. -/
structure Failure (C : Type) where
  error : Error
  context : C
  events : Array Event

/-- What comes of a step. -/
inductive Progress (C : Type) (n : Nat) where
  /-- There is no further step from this state. -/
  | ended (s : State C n)
  | moved (s : State C n)
  | failed (f : Failure C)

/-- A step that has been taken, or has failed. -/
def Progress.of : Except (Failure C) (State C n) → Progress C n
  | .ok s => .moved s
  | .error f => .failed f

namespace State

/-- The state before the first step. -/
def start (g : Grammar C) (text : String) (context : C) : State C g.size :=
  { input := .ofString text, root := .root g.root, context }

/-- Whether no block is open. -/
def atRoot (s : State C n) : Bool := s.opened.isEmpty

/-- The innermost open block, or the root. -/
def active (s : State C n) : OpenBlock C n := s.opened.head?.getD s.root

/-- Changes the innermost open block, or the root. -/
def modifyActive (f : OpenBlock C n → OpenBlock C n) (s : State C n) : State C n :=
  match s.opened with
  | [] => { s with root := f s.root }
  | inner :: outer => { s with opened := f inner :: outer }

/-- Adds an event. -/
def record (e : Event) (s : State C n) : State C n := { s with events := s.events.push e }

/-- Moves the cursor over a text. -/
def skip (m : List Char) (s : State C n) : State C n :=
  { s with input := { s.input with current := s.input.current.advance (byteLength m) } }

/-- Moves the run of the active block up to the cursor. -/
def collect (s : State C n) : State C n := s.modifyActive (·.collect s.input.current)

/-- Lets the run of the active block go on at the cursor. -/
def restartRun (s : State C n) : State C n := s.modifyActive (·.goOnAt s.input.current.offset)

/-- Fails. -/
def fail {α : Type} (s : State C n) (e : Error) : Except (Failure C) α := .error ⟨e, s.context, s.events⟩

/-- Gives a part to a handler, for a block. -/
def apply (h : Handler C) (p : Part) (block : String) (s : State C n) : Except (Failure C) (Part × State C n) :=
  match h p s.context with
  | (.ok q, context) => .ok (q, { s with context })
  | (.error e, context) => { s with context }.fail (.handler block e)

/-- Gives a part to a handler of the root, if the root is active and the handler is there. -/
def applyAtRoot (h : Option (Handler C)) (p : Part) (s : State C n) : Except (Failure C) (Part × State C n) :=
  match h with
  | some h => if s.atRoot then s.apply h p s.active.name else .ok (p, s)
  | none => .ok (p, s)

/-- Ends the run of the active block at the cursor, and adds it as a part. -/
def endRun (b : Boundary) (s : State C n) : Except (Failure C) (State C n) :=
  let s := s.collect
  match s.active.fragment? b with
  | none => .ok s
  | some (text, inner) => do
    let (p, s) ← (s.modifyActive fun _ => inner).applyAtRoot inner.spec.handler (.text text)
    return s.modifyActive (·.addValue p)

/-- Scans a text in place of what is left, on behalf of a block that has just closed. -/
def scanAgain (limit : Nat) (block text : String) (atEnd : Bool) (s : State C n) : Except (Failure C) (State C n) :=
  if limit ≤ s.input.depth + s.endReparses then s.fail (.reparseLimit block limit)
  else
    let s := s.record (.reparse block text (s.input.depth + 1))
    let s := { s with
      input := s.input.suspend text, endReparses := if atEnd then s.endReparses + 1 else s.endReparses }
    .ok (s.modifyActive (·.goOnAt 0))

/-- Adds the result of a closed block to the block around it. -/
def addResult (p : Part) (s : State C n) : Except (Failure C) (State C n) := do
  let s ← s.restartRun.endRun .block
  let spec := s.active.spec
  let (p, s) ← s.applyAtRoot (if spec.handleAll then spec.handler else none) p
  return s.modifyActive (·.addValue p)

/-- Ends the run of the active block in front of a nested block. Before a block that is scanned again the run is not
made a part yet: what comes out of the block may continue it. -/
def endRunBefore (child : Spec C n) (s : State C n) : Except (Failure C) (State C n) :=
  if child.reparses then .ok s.collect else s.endRun .block

/-- Opens a nested block at the cursor. -/
def enter (g : Grammar C) (name : String) (slot : Fin g.size) (start : Delimiter) (s : State C g.size) :
    Except (Failure C) (State C g.size) := do
  let offset := s.input.current.offset
  let child := g.spec slot
  let s ← (s.record (.enter offset name start.text)).endRunBefore child
  let s := s.skip start.chars
  return { s with opened := .enter name child offset start :: s.opened }

/-- What becomes of a closed block: its handler's answer, or its parts as one part. -/
def output (inner : OpenBlock C n) (s : State C n) : Except (Failure C) (Part × State C n) :=
  match inner.spec.handler with
  | some h => s.apply h (.group inner.parts.toList) inner.name
  | none => .ok (inner.result, s)

/-- Closes the innermost block at its stop, or at the end of the input. -/
def close (limit : Nat) (stop : Option Delimiter) (s : State C n) : Except (Failure C) (State C n) := do
  let s ← s.endRun .stop
  let offset := s.input.current.offset
  let s := s.skip (stop.elim [] Delimiter.chars)
  match s.opened with
  | [] => return s
  | inner :: outer =>
    let s := { s with opened := outer }.record (.exit offset inner.name (stop.map Delimiter.text))
    let inner := match stop with
      | some d => if inner.spec.keepDelimiters then inner.addToken (.text d.text) else inner
      | none => inner
    let (p, s) ← s.output inner
    match if inner.spec.reparses then p.asText? else none with
    | some text => s.scanAgain limit inner.name text stop.isNone
    | none => s.addResult p

/-- Takes up a suspended text again, with what is left of the input. -/
def resume (input : Input) (s : State C n) : State C n :=
  let s := { s.collect with input }.restartRun
  s.record (.resume input.current.offset input.depth)

/-- Makes the move that the text at the cursor asks for. -/
def makeMove (g : Grammar C) (limit : Nat) (s : State C g.size) : Except (Failure C) (State C g.size) :=
  let offset := s.input.current.offset
  let name := s.active.name
  match nextMove g s.active.spec s.input.current.rest with
  | .escape escaped literal =>
    let s := s.record (.escape offset name escaped.text)
    .ok ((s.collect.modifyActive (·.addText literal.text)).skip escaped.chars).restartRun
  | .close stop => s.close limit (some stop)
  | .enter block slot start => s.enter g block slot start
  | .split m token => do
    let s ← (s.record (.split offset name (String.ofList m.whole))).endRun .split
    let s := s.modifyActive fun f => (token.elim f fun t => f.addToken (.text t)).endSegment
    return (s.skip m.whole).restartRun
  | .strip m =>
    let s := s.record (.strip offset name (String.ofList m.whole))
    .ok (s.collect.skip m.whole).restartRun
  | .char =>
    match s.input.current.next? with
    | some (c, current) => .ok ({ s with input := { s.input with current } }.record (.char offset c name))
    | none => .ok s

/-- Takes one step, unless the scan is at its end. -/
def advance (g : Grammar C) (o : Options) (s : State C g.size) : Progress C g.size :=
  if s.input.current.atEnd then
    match s.input.resume? with
    | some input => .moved (s.resume input)
    | none =>
      match s.opened with
      | [] => .ended s
      | inner :: _ =>
        match o.unterminated with
        | .error => .of (s.fail (.unterminated inner.name inner.openedAt))
        | .close => .of (s.close o.maxReparseDepth none)
  else .of (s.makeMove g o.maxReparseDepth)

end State

end Delimited.Scan
