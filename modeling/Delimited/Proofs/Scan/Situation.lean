import Delimited.Proofs.Grammar.Resolved
import Delimited.Proofs.Scan.Effect
import Delimited.Proofs.Scan.Sound

/-!
# Situations

A `Situation` is what a state comes to when nothing is put off: of every text it has what is left, and of every block
the whole run. A run is as long as the text that has been read, so no block remembers an offset into a text, and the
offset where a run starts is 0 for all of them. Events are left out, and the context of the handlers belongs to the
effects.

The steps of situations are those of states. In every state that a scan of a resolved grammar goes through the next step
is that of its situation (`State.observe_advance`).
-/

namespace Delimited.Scan

variable {C : Type} {n : Nat} {α β : Type}

/-- What is left of a text, and the offset at which it starts. -/
structure Left where
  offset : Nat
  rest : List Char
deriving DecidableEq, Repr

namespace Left

/-- All of a text. -/
def ofString (text : String) : Left := ⟨0, text.toList⟩

/-- What is left behind a text that stands at the start. -/
def skip (m : List Char) (t : Left) : Left := ⟨t.offset + byteLength m, t.rest.drop m.length⟩

end Left

/-- What is left behind a cursor. -/
def Cursor.left (c : Cursor) : Left := ⟨c.offset, c.rest⟩

theorem Cursor.left_advance {c : Cursor} {m : List Char} (h : m <+: c.rest) :
    (c.advance (byteLength m)).left = c.left.skip m := by
  have ho := Cursor.offset_advance h
  obtain ⟨r, hr⟩ := h
  unfold left Left.skip
  rw [ho, (Cursor.advance_of_eq_append hr.symm).2]
  simp only [← hr, List.drop_left]

/-! ### The machine of situations -/

/-- What is left of the texts, and the open blocks with their runs, the root last. -/
structure Situation (C : Type) (n : Nat) where
  text : Left
  suspended : List Left
  active : OpenBlock C n
  around : List (OpenBlock C n)
  endReparses : Nat

namespace Situation

/-- Whether no block is open. -/
def atRoot (s : Situation C n) : Bool := s.around.isEmpty

/-- Ends the run of the active block, and adds it as a part. -/
def endRun (k : Boundary) (s : Situation C n) : Effect C (Situation C n) := do
  return { s with active := ← s.active.flush s.atRoot k }

/-- Scans a text in place of what is left, on behalf of a block that has just closed. -/
def scanAgain (limit : Nat) (block text : String) (atEnd : Bool) (s : Situation C n) : Effect C (Situation C n) :=
  if limit ≤ s.suspended.length + s.endReparses then throw (.reparseLimit block limit)
  else pure { s with
    text := .ofString text, suspended := s.text :: s.suspended,
    endReparses := if atEnd then s.endReparses + 1 else s.endReparses }

/-- Adds the value of a nested block to the active one. -/
def receive (p : Part) (s : Situation C n) : Effect C (Situation C n) := do
  let s ← s.endRun .block
  return { s with active := ← s.active.receive s.atRoot p }

/-- Closes the innermost block at its stop, or at the end of the input. -/
def close (limit : Nat) (stop : Option Delimiter) (s : Situation C n) : Effect C (Situation C n) := do
  let s ← s.endRun .stop
  let text := s.text.skip (stop.elim [] Delimiter.chars)
  match s.around with
  | [] => return { s with text }
  | outer :: around =>
    let p ← (s.active.addStop stop).value
    let t := { s with text, active := outer, around }
    match State.again? s.active p with
    | some text => t.scanAgain limit s.active.name text stop.isNone
    | none => t.receive p

/-- Ends the run of the active block in front of a nested block, unless what comes out of this may continue it. -/
def endRunBefore (child : Spec C n) (s : Situation C n) : Effect C (Situation C n) :=
  if child.reparses then pure s else s.endRun .block

/-- Opens a nested block. -/
def enter (g : Grammar C) (name : String) (slot : Fin g.size) (start : Delimiter) (s : Situation C g.size) :
    Effect C (Situation C g.size) := do
  let s ← s.endRunBefore (g.spec slot)
  return { s with
    text := s.text.skip start.chars
    active := (OpenBlock.enter name (g.spec slot) s.text.offset start).goOnAt 0
    around := s.active :: s.around }

/-- Makes a move. -/
def makeMove (g : Grammar C) (limit : Nat) (s : Situation C g.size) : Move g.size → Effect C (Situation C g.size)
  | .escape escaped literal =>
    pure { s with text := s.text.skip escaped.chars, active := s.active.addText literal.text }
  | .close stop => s.close limit (some stop)
  | .enter name slot start => s.enter g name slot start
  | .split m token => do
    let s ← s.endRun .split
    return { s with text := s.text.skip m.whole, active := (s.active.addKept token).endSegment }
  | .strip m => pure { s with text := s.text.skip m.whole }
  | .char =>
    match s.text.rest with
    | [] => pure s
    | c :: _ => pure { s with text := s.text.skip [c], active := s.active.addText (String.ofList [c]) }

/-- Takes one step, unless the scan is at its end. -/
def advance (g : Grammar C) (o : Options) (s : Situation C g.size) : Effect C (Option (Situation C g.size)) :=
  if s.text.rest.isEmpty then
    match s.suspended with
    | text :: suspended => pure (some { s with text, suspended })
    | [] =>
      match s.around with
      | [] => pure none
      | _ :: _ =>
        match o.unterminated with
        | .error => throw (.unterminated s.active.name s.active.openedAt)
        | .close => some <$> s.close o.maxReparseDepth none
  else some <$> s.makeMove g o.maxReparseDepth (nextMove g s.active.spec s.text.rest)

/-- While something is left of the text, the next move is made. -/
theorem advance_of_ne_nil {g : Grammar C} (o : Options) {s : Situation C g.size} (h : s.text.rest ≠ []) :
    s.advance g o = some <$> s.makeMove g o.maxReparseDepth (nextMove g s.active.spec s.text.rest) :=
  if_neg (by simpa using h)

/-- At the end of an output the text below it is taken up again. -/
theorem advance_of_suspended {g : Grammar C} (o : Options) {s : Situation C g.size} {text : Left} {suspended : List Left}
    (h : s.text.rest = []) (hs : s.suspended = text :: suspended) :
    s.advance g o = pure (some { s with text, suspended }) := by
  unfold advance
  rw [h, hs]
  rfl

/-- Without open blocks the scan ends with its text. -/
theorem advance_of_nil {g : Grammar C} (o : Options) {s : Situation C g.size} (h : s.text.rest = [])
    (hs : s.suspended = []) (ha : s.around = []) : s.advance g o = pure none := by
  unfold advance
  rw [h, hs, ha]
  rfl

/-- A block that is open at the end may be a failure. -/
theorem advance_of_error {g : Grammar C} {o : Options} {s : Situation C g.size} (ho : o.unterminated = .error)
    (h : s.text.rest = []) (hs : s.suspended = []) (ha : s.around ≠ []) :
    s.advance g o = throw (.unterminated s.active.name s.active.openedAt) := by
  obtain ⟨outer, around, ha⟩ := List.exists_cons_of_ne_nil ha
  unfold advance
  rw [h, hs, ha, ho]
  rfl

/-- A block that is open at the end may be closed there. -/
theorem advance_of_close {g : Grammar C} {o : Options} {s : Situation C g.size} (ho : o.unterminated = .close)
    (h : s.text.rest = []) (hs : s.suspended = []) (ha : s.around ≠ []) :
    s.advance g o = some <$> s.close o.maxReparseDepth none := by
  obtain ⟨outer, around, ha⟩ := List.exists_cons_of_ne_nil ha
  unfold advance
  rw [h, hs, ha, ho]
  rfl

/-- The part that a scan gives that has come to its end. -/
def finish (s : Situation C n) : Effect C Part := do return (← s.active.flush s.atRoot .stop).result

end Situation

end Delimited.Scan
