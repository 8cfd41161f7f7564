import Mathlib
import Delimited.Proofs.Scan.Outcome

/-!
# What comes to the open blocks

While a block is the innermost one that is open, characters come to it, and the values of the blocks that close directly
in it, and splits. `State.note` writes this down as a step is taken, for all open blocks at once: a stack of lists, that
of the innermost block first and that of the root last. The states of a scan with their notes are `Noted`. Nothing that
a block has become is written down, neither runs nor parts.

A block `Ends` where its stop is found, at the end of the input if open blocks are closed there, and the root where the
scan is at its end.
-/

namespace Delimited.Scan

variable {C : Type} {n : Nat}

/-- What comes to a block while it is the innermost open one. -/
inductive Arrival where
  /-- A character of text. -/
  | char (c : Char)
  /-- The value of a nested block. -/
  | value (p : Part)
  /-- A split, with what is kept of it. -/
  | split (token : Option String)
deriving DecidableEq

namespace State

/-! ### Notes -/

/-- What becomes of the innermost block when it closes, and the state without it. -/
def closing (stop : Option Delimiter) (s : State C n) : Except (Failure C) (Part × State C n) := do
  let s ← s.endRun .stop
  (s.leave stop s.active s.opened.tail).output (s.active.addStop stop)

/-- When the innermost block closes, what becomes of it is scanned again or goes to the block around it. -/
theorem close_eq_closing {s : State C n} (ho : s.opened ≠ []) (limit : Nat) (stop : Option Delimiter) :
    s.close limit stop = (do
      let (p, t) ← s.closing stop
      match again? s.active p with
      | some text => t.scanAgain limit s.active.name text stop.isNone
      | none => t.addResult p) := by
  rw [close_eq, closing, bind_assoc]
  cases hs : s.endRun .stop with
  | error f => rfl
  | ok t =>
    have hk := Keeps.endRun hs
    obtain ⟨inner, outer, hi⟩ := List.exists_cons_of_ne_nil (hk.opened_ne_nil ho)
    have ha : t.active = inner := by rw [active, hi]; rfl
    have ht : inner.title = s.active.title := by rw [← ha]; exact hk.title
    have hn : inner.name = s.active.name := congrArg Prod.fst ht
    have hagain : again? inner = again? s.active := again?_congr (by rw [OpenBlock.spec_of_title ht])
    show (pure t >>= _) = pure t >>= _
    rw [pure_bind, pure_bind, ha, hi, ← hagain, ← hn]
    rfl

/-- What comes to the block around the innermost one when this closes. A text that is to be scanned again comes to it
character by character, when it is scanned. -/
def returned (stop : Option Delimiter) (s : State C n) : List Arrival :=
  match s.closing stop with
  | .ok (p, _) => if (again? s.active p).isNone then [.value p] else []
  | .error _ => []

/-- Leaves the innermost block, of which something may come to the block around it. -/
def noteClose (stop : Option Delimiter) (s : State C n) : List (List Arrival) → List (List Arrival)
  | [] => []
  | outer :: around => (outer ++ s.returned stop) :: around

/-- What has come to the open blocks, and to the root, behind one more step. -/
def note (g : Grammar C) (o : Options) (s : State C g.size) : List (List Arrival) → List (List Arrival)
  | [] => []
  | own :: around =>
    if s.input.current.atEnd then
      if s.input.suspended.isEmpty ∧ o.unterminated = .close then s.noteClose none around else own :: around
    else match nextMove g s.active.spec s.input.current.rest with
      | .escape _ literal => (own ++ literal.chars.map .char) :: around
      | .close stop => s.noteClose (some stop) around
      | .enter .. => [] :: own :: around
      | .split _ token => (own ++ [.split token]) :: around
      | .strip _ => own :: around
      | .char => (own ++ (s.input.current.rest.take 1).map .char) :: around

end State

/-- A state that a scan goes through, and what has come to the open blocks up to there. -/
inductive Noted (g : Grammar C) (o : Options) (text : String) (context : C) :
    State C g.size → List (List Arrival) → Prop
  | start : Noted g o text context (.start g text context) [[]]
  | step {s t : State C g.size} {notes : List (List Arrival)} (h : Noted g o text context s notes)
    (ht : s.advance g o = .moved t) : Noted g o text context t (s.note g o notes)

section

variable {g : Grammar C} {o : Options} {text : String} {context : C} {s : State C g.size} {notes : List (List Arrival)}

/-- Notes are taken of states that a scan goes through. -/
theorem Noted.reachable (h : Noted g o text context s notes) : Reachable g o text context s := by
  induction h with
  | start => exact .start
  | step _ ht ih => exact ih.step ht

/-- There are notes for every state that a scan goes through. -/
theorem Reachable.exists_noted (h : Reachable g o text context s) : ∃ notes, Noted g o text context s notes :=
  h.invariant (P := fun s => ∃ notes, Noted g o text context s notes) ⟨_, .start⟩
    fun _ _ ⟨_, h⟩ ht => ⟨_, h.step ht⟩

end

/-! ### Where a block ends -/

/-- The innermost open block, or the root, ends in the state: its stop comes next, or there is no text left and open
blocks are closed. -/
def State.EndsAt (g : Grammar C) (o : Options) (s : State C g.size) : Option Delimiter → Prop
  | some stop => nextMove g s.active.spec s.input.current.rest = .close stop
  | none => s.input.current.rest = [] ∧ s.input.suspended = [] ∧ (s.opened ≠ [] → o.unterminated = .close)

/-- Where a scan ends the root ends. -/
theorem State.endsAt_of_ended {g : Grammar C} {o : Options} {s t : State C g.size} (he : s.advance g o = .ended t) :
    s.EndsAt g o none := by
  have ho := (advance_eq_ended he).2
  unfold State.advance at he
  split at he
  · rename_i hr
    cases hs : s.input.suspended with
    | nil => exact ⟨List.isEmpty_iff.1 hr, hs, (absurd ho ·)⟩
    | cons c cs =>
      have hi : s.input.resume? = some ⟨c, cs⟩ := by simp [Input.resume?, hs]
      rw [hi] at he
      cases he
  · unfold Progress.of at he
    split at he <;> cases he

/-- The innermost open block, or the root, ends in the state as the given block: its run has become a part, and the stop
has been added if it is kept. -/
structure State.Ends (g : Grammar C) (o : Options) (s : State C g.size) (stop : Option Delimiter)
    (b : OpenBlock C g.size) : Prop where
  place : s.EndsAt g o stop
  block : ∃ t, s.endRun .stop = .ok t ∧ b = t.active.addStop stop

/-! ### What becomes of the parts -/

section

variable {g : Grammar C} {o : Options} {s : State C g.size} {stop : Option Delimiter}

/-- A nested block closes where it ends. -/
private theorem State.EndsAt.advance_eq (h : s.EndsAt g o stop) (ho : s.opened ≠ []) :
    s.advance g o = .of (s.close o.maxReparseDepth stop) := by
  unfold State.advance
  cases stop with
  | some stop =>
    have hm : nextMove g s.active.spec s.input.current.rest = .close stop := h
    have hr : ¬ s.input.current.atEnd = true := by
      intro hr
      rw [List.isEmpty_iff.1 hr, nextMove_nil] at hm
      cases hm
    rw [if_neg hr]
    unfold State.makeMove
    rw [hm]
  | none =>
    obtain ⟨hr, hs, hu⟩ := h
    obtain ⟨inner, outer, hi⟩ := List.exists_cons_of_ne_nil ho
    have hn : s.input.resume? = none := by simp [Input.resume?, hs]
    rw [if_pos (by simp [Cursor.atEnd, hr]), hn, hi, hu ho]

/-- A block that ends gives its parts to its handler, all of them in one group; without a handler they become its value. -/
theorem State.Ends.closing_eq {b : OpenBlock C g.size} (h : s.Ends g o stop b) :
    ∃ t, s.endRun .stop = .ok t ∧ s.closing stop = match b.spec.handler with
      | some h => (t.leave stop t.active t.opened.tail).apply h (.group b.parts.toList) b.name
      | none => .ok (.assemble b.parts.toList, t.leave stop t.active t.opened.tail) := by
  obtain ⟨-, t, ht, rfl⟩ := h
  refine ⟨t, ht, ?_⟩
  rw [closing, ht]
  rfl

/-- What a nested block that ends makes of its parts is scanned again, or becomes a part of the block around. -/
theorem State.Ends.advance_eq {b : OpenBlock C g.size} (h : s.Ends g o stop b) (ho : s.opened ≠ []) :
    s.advance g o = .of (do
      let (p, t) ← s.closing stop
      match again? b p with
      | some text => t.scanAgain o.maxReparseDepth b.name text stop.isNone
      | none => t.addResult p) := by
  obtain ⟨hplace, t, ht, rfl⟩ := h
  have htitle : (t.active.addStop stop).title = s.active.title :=
    (OpenBlock.title_addStop stop _).trans (Keeps.endRun ht).title
  have hname : (t.active.addStop stop).name = s.active.name := congrArg Prod.fst htitle
  have hagain : again? (t.active.addStop stop) = again? s.active :=
    again?_congr (by rw [OpenBlock.spec_of_title htitle])
  rw [hplace.advance_eq ho, close_eq_closing ho, hagain, hname]

/-- The parts of the root become the result of the scan where this ends. -/
theorem State.Ends.result_of_ended {text : String} {context : C} {t : State C g.size} {b : OpenBlock C g.size}
    (h : s.Ends g o none b) (hr : Reachable g o text context s) (he : s.advance g o = .ended t) :
    (scan g o text context).result = .ok (.assemble b.parts.toList) := by
  obtain ⟨-, u, hu, rfl⟩ := h
  have ho : u.opened = [] := by
    rw [← List.length_eq_zero_iff, (Keeps.endRun hu).length_opened, (advance_eq_ended he).2]
    rfl
  have ha : u.active = u.root := by rw [active, ho]; rfl
  rw [hr.result_of_ended he, hu]
  show _ = Except.ok (Part.assemble u.active.parts.toList)
  rw [ha]
  rfl

end

end Delimited.Scan
