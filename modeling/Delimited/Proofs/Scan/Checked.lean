import Delimited.Proofs.Pattern.Places
import Delimited.Proofs.Scan.Sound
import Delimited.Proofs.Text.Slice

/-!
# The checked machine

The machine of this module takes the same steps as `State.advance`, but it knows a place in a text only by its offset:
whatever it reads it cuts out of a text by two offsets, and it moves its cursor by adding to an offset. Such a cut, a
look-up of a slot, and closing a block when none is open can be faults. A step with a fault has no result, which is
something else than a step that fails.
-/

namespace Delimited.Scan

variable {C : Type} {n : Nat} {α β : Type}

/-! ### Cursors by offsets -/

namespace Cursor

/-- The cursor at an offset of a text. -/
def at? (text : List Char) (offset : Nat) : Option Cursor :=
  match h : splitAt? offset text with
  | some (a, rest) => some ⟨a.reverse, rest, offset, by simp [(splitAt?_eq_some h).2]⟩
  | none => none

/-- What is left of the text. -/
def rest? (c : Cursor) : Option (List Char) := slice? c.text c.offset (byteLength c.text)

/-- The text between an earlier offset and the cursor. -/
def since? (c : Cursor) (start : Nat) : Option (List Char) := slice? c.text start c.offset

/-- Moves on by `n` bytes. -/
def bump? (n : Nat) (c : Cursor) : Option Cursor := at? c.text (c.offset + n)

private theorem at?_append (a b : List Char) :
    at? (a ++ b) (byteLength a) = some ⟨a.reverse, b, byteLength a, by simp⟩ := by
  unfold at?
  split
  · rename_i a' b' h
    rw [splitAt?_append] at h
    cases h
    rfl
  · rename_i h
    rw [splitAt?_append] at h
    cases h

theorem rest?_eq (c : Cursor) : c.rest? = some c.rest :=
  slice?_eq_some_iff.2 ⟨c.passed.reverse, [], by simp [text], by simp [c.offset_eq], by simp [text]⟩

theorem since?_eq {c : Cursor} {start : Nat} (h : c.Passed start) : c.since? start = some (c.since start) := by
  obtain ⟨a, m, hm, rfl⟩ := h
  rw [since_eq hm]
  refine slice?_eq_some_iff.2 ⟨a.reverse, c.rest, ?_, by simp, ?_⟩
  · rw [text, hm]; simp
  · rw [c.offset_eq, hm]; simp [Nat.add_comm]

theorem bump?_eq {c : Cursor} {m : List Char} (h : m <+: c.rest) :
    c.bump? (byteLength m) = some (c.advance (byteLength m)) := by
  have ho := offset_advance h
  obtain ⟨r, hr⟩ := h
  obtain ⟨hp, hrest⟩ := advance_of_eq_append hr.symm
  have ht : c.text = (c.advance (byteLength m)).passed.reverse ++ (c.advance (byteLength m)).rest := by
    rw [hp, hrest, text, ← hr]; simp
  have hl : c.offset + byteLength m = byteLength (c.advance (byteLength m)).passed.reverse := by
    rw [← ho, offset_eq]; simp
  rw [bump?, ht, hl, at?_append]
  exact congrArg some (ext (by simp) rfl)

end Cursor

/-! ### Rules and moves by offsets -/

/-- Matches a rule at the start of a text. What a literal consumes is cut out by its length, and the end of a pattern's
match has to be a place in the text. -/
def matchStartChecked (rest : List Char) : Rule → Option (Option RuleMatch)
  | .literal d =>
    if d.starts rest then (slice? rest 0 (byteLength d.chars)).map (RuleMatch.of? · []) else some none
  | .pattern p =>
    match (p.program.search rest).bind fun places => (places[1]?).join with
    | some stop => if stop ≤ rest.length then some (Rule.matchStart? rest (.pattern p)) else none
    | none => some (Rule.matchStart? rest (.pattern p))

theorem matchStartChecked_eq (rest : List Char) (r : Rule) : matchStartChecked rest r = some (r.matchStart? rest) := by
  unfold matchStartChecked
  cases r with
  | literal d =>
    unfold Rule.matchStart?
    by_cases hs : d.starts rest
    · simp only [hs, if_true, slice?_zero (List.isPrefixOf_iff_prefix.1 hs), Option.map_some]
    · simp only [hs, Bool.false_eq_true, if_false]
  | pattern p =>
    dsimp only
    split
    · rename_i stop h
      obtain ⟨places, hp, hstop⟩ := Option.bind_eq_some_iff.1 h
      exact if_pos (Pattern.le_of_search hp (Option.join_eq_some_iff.1 hstop))
    · rfl

/-- The next move in a block. All rules of the block are matched, and all blocks nested in it are looked up, whether or
not the move depends on them. -/
def nextMove? (g : Grammar C) (s : Spec C g.size) (rest : List Char) : Option (Move g.size) := do
  guard ((s.split.toList ++ s.strip).all fun r => (matchStartChecked rest r).isSome)
  guard (s.blocks.all fun b => (g.specs.toArray[b.2.val]?).isSome)
  let m := nextMove g s rest
  let _ ← slice? rest 0 (byteLength m.recognised)
  return m

/-- Looking for the next move never cuts a character. -/
theorem nextMove?_eq (g : Grammar C) (s : Spec C g.size) (rest : List Char) :
    nextMove? g s rest = some (nextMove g s rest) := by
  have hr : ((s.split.toList ++ s.strip).all fun r => (matchStartChecked rest r).isSome) = true := by
    rw [List.all_eq_true]
    intro r _
    rw [matchStartChecked_eq]
    rfl
  have hb : (s.blocks.all fun b => (g.specs.toArray[b.2.val]?).isSome) = true := by
    rw [List.all_eq_true]
    intro b _
    have : b.2.val < g.specs.toArray.size := by simp
    rw [Array.getElem?_eq_getElem this]
    rfl
  unfold nextMove?
  dsimp only
  rw [hr, hb, slice?_zero (recognised_isPrefix g s rest)]
  rfl

/-! ### Steps by offsets -/

/-- A computation that may fail, or have a fault. -/
abbrev Checked (C : Type) : Type → Type := ExceptT (Failure C) Option

namespace State

/-- Moves the run of the active block up to the cursor. -/
def collect? (s : State C n) : Option (State C n) := do
  let m ← s.input.current.since? s.active.runStart
  return s.modifyActive fun b => { b with run := b.run ++ String.ofList m, runStart := s.input.current.offset }

/-- Moves the cursor over a text. -/
def skip? (m : List Char) (s : State C n) : Option (State C n) := do
  let current ← s.input.current.bump? (byteLength m)
  return { s with input := { s.input with current } }

/-- Ends the run of the active block at the cursor, and adds it as a part. -/
def endRun? (b : Boundary) (s : State C n) : Checked C (State C n) := do
  let s ← s.collect?
  match s.active.fragment? b with
  | none => return s
  | some (text, inner) => do
    let (p, s) ← (s.modifyActive fun _ => inner).applyAtRoot inner.spec.handler (.text text)
    return s.modifyActive (·.addValue p)

/-- Adds the result of a closed block to the block around it. -/
def addResult? (p : Part) (s : State C n) : Checked C (State C n) := do
  let s ← s.restartRun.endRun? .block
  let spec := s.active.spec
  let (p, s) ← s.applyAtRoot (if spec.handleAll then spec.handler else none) p
  return s.modifyActive (·.addValue p)

/-- Ends the run of the active block in front of a nested block. -/
def endRunBefore? (child : Spec C n) (s : State C n) : Checked C (State C n) :=
  if child.reparses then do return ← s.collect? else s.endRun? .block

/-- Opens a nested block at the cursor. -/
def enter? (g : Grammar C) (name : String) (slot : Fin g.size) (start : Delimiter) (s : State C g.size) :
    Checked C (State C g.size) := do
  let offset := s.input.current.offset
  let child := g.spec slot
  let s ← (s.record (.enter offset name start.text)).endRunBefore? child
  let s ← s.skip? start.chars
  return { s with opened := .enter name child offset start :: s.opened }

/-- Closes the innermost block at its stop, or at the end of the input. There has to be one. -/
def close? (limit : Nat) (stop : Option Delimiter) (s : State C n) : Checked C (State C n) := do
  let s ← s.endRun? .stop
  let t ← s.skip? (stop.elim [] Delimiter.chars)
  match s.opened with
  | [] => (none : Option (State C n))
  | inner :: outer =>
    let t := { t with opened := outer }.record (.exit s.input.current.offset inner.name (stop.map Delimiter.text))
    let (p, t) ← t.output (inner.addStop stop)
    match again? inner p with
    | some text => t.scanAgain limit inner.name text stop.isNone
    | none => t.addResult? p

/-- Takes up a suspended text again, with what is left of the input. -/
def resume? (input : Input) (s : State C n) : Option (State C n) := do
  let s ← s.collect?
  return (restartRun { s with input }).record (.resume input.current.offset input.depth)

/-- Makes the move that the text at the cursor asks for. -/
def makeMove? (g : Grammar C) (limit : Nat) (s : State C g.size) : Checked C (State C g.size) := do
  let offset := s.input.current.offset
  let name := s.active.name
  let rest ← s.input.current.rest?
  match ← nextMove? g s.active.spec rest with
  | .escape escaped literal =>
    let seen ← slice? rest 0 (byteLength escaped.chars)
    let s ← (s.record (.escape offset name (String.ofList seen))).collect?
    let s ← (s.modifyActive (·.addText literal.text)).skip? escaped.chars
    return s.restartRun
  | .close stop => s.close? limit (some stop)
  | .enter block slot start => s.enter? g block slot start
  | .split m token =>
    let seen ← slice? rest 0 (byteLength m.whole)
    let s ← (s.record (.split offset name (String.ofList seen))).endRun? .split
    let s := s.modifyActive fun f => (token.elim f fun t => f.addToken (.text t)).endSegment
    let s ← s.skip? m.whole
    return s.restartRun
  | .strip m =>
    let seen ← slice? rest 0 (byteLength m.whole)
    let s ← (s.record (.strip offset name (String.ofList seen))).collect?
    let s ← s.skip? m.whole
    return s.restartRun
  | .char =>
    match rest with
    | [] => return s
    | c :: _ =>
      let s ← s.skip? [c]
      return s.record (.char offset c name)

/-- Takes one step, unless the scan is at its end. A step with a fault has no result. -/
def advance? (g : Grammar C) (o : Options) (s : State C g.size) : Option (Progress C g.size) :=
  if byteLength s.input.current.text ≤ s.input.current.offset then
    match s.input.resume? with
    | some input => (s.resume? input).map .moved
    | none =>
      match s.opened with
      | [] => some (.ended s)
      | inner :: _ =>
        match o.unterminated with
        | .error => some (.of (s.fail (.unterminated inner.name inner.openedAt)))
        | .close => (s.close? o.maxReparseDepth none).run.map Progress.of
  else (s.makeMove? g o.maxReparseDepth).run.map Progress.of

end State

end Delimited.Scan
