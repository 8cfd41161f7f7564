import Delimited.Proofs.Scan.Outcome

/-!
# Scans with another grammar

A `Translation` takes the slots and the specs of one grammar to those of another one, so that a spec makes moves that
cannot be told from those of the one that it comes from, up to the slots, and its blocks are treated in the same way.
The states of a scan with the first grammar then become states of a scan with the second one, step by step
(`Translation.advance`), and both scans give the same result, the same context and the same events
(`Translation.scan_eq`).

What a scan never looks at makes no difference: two grammars whose specs differ in their paths and slots only are
alike to it (`scan_eq_of_relabel`).
-/

namespace Delimited.Scan

variable {C : Type}

/-- The slots and the specs of one grammar as those of another one. -/
structure Translation (g h : Grammar C) where
  slot : Fin g.size → Fin h.size
  spec : Spec C g.size → Spec C h.size
  keepDelimiters : ∀ s, (spec s).keepDelimiters = s.keepDelimiters
  ignoreEmpty : ∀ s, (spec s).ignoreEmpty = s.ignoreEmpty
  handler : ∀ s, (spec s).handler = s.handler
  reparse : ∀ s, (spec s).reparse = s.reparse
  handleAll : ∀ s, (spec s).handleAll = s.handleAll
  spec_root : spec g.root = h.root
  spec_spec : ∀ k, spec (g.spec k) = h.spec (slot k)
  nextMove : ∀ s rest, ((nextMove g s rest).map slot).Alike (nextMove h (spec s) rest)

namespace Translation

variable {g h : Grammar C} (t : Translation g h)

private theorem reparses (s : Spec C g.size) : (t.spec s).reparses = s.reparses := by
  unfold Spec.reparses
  rw [t.reparse, t.handler]

/-! ### Blocks -/

/-- An open block of the second grammar for one of the first. -/
def block (b : OpenBlock C g.size) : OpenBlock C h.size :=
  { name := b.name, spec := t.spec b.spec, openedAt := b.openedAt, runStart := b.runStart, run := b.run,
    parts := b.parts, hasValue := b.hasValue, hasSplit := b.hasSplit }

private theorem fragment? (k : Boundary) (b : OpenBlock C g.size) :
    (t.block b).fragment? k = (b.fragment? k).map fun f => (f.1, t.block f.2) := by
  have he : (t.block b).endsEmptySegment k = b.endsEmptySegment k := by cases k <;> rfl
  have hi : (t.block b).spec.ignoreEmpty = b.spec.ignoreEmpty := t.ignoreEmpty b.spec
  unfold OpenBlock.fragment?
  rw [he, hi]
  by_cases hc : !b.run.isEmpty || (b.endsEmptySegment k && !b.spec.ignoreEmpty)
  · rw [if_pos hc]; exact if_pos hc
  · rw [if_neg hc]; exact if_neg hc

private theorem enter (name : String) (k : Fin g.size) (openedAt : Nat) (start : Delimiter) :
    OpenBlock.enter name (h.spec (t.slot k)) openedAt start = t.block (.enter name (g.spec k) openedAt start) := by
  rw [← t.spec_spec]
  unfold OpenBlock.enter block
  rw [t.keepDelimiters]

private theorem addStop (stop : Option Delimiter) (b : OpenBlock C g.size) :
    (t.block b).addStop stop = t.block (b.addStop stop) := by
  cases stop with
  | none => rfl
  | some d =>
    have hk : (t.block b).spec.keepDelimiters = b.spec.keepDelimiters := t.keepDelimiters b.spec
    unfold OpenBlock.addStop
    dsimp only
    rw [hk]
    split <;> rfl

/-! ### States -/

/-- A state of a scan with the second grammar for one of a scan with the first. -/
def state (s : State C g.size) : State C h.size :=
  { input := s.input, root := t.block s.root, opened := s.opened.map t.block, endReparses := s.endReparses,
    context := s.context, events := s.events }

private theorem active (s : State C g.size) : (t.state s).active = t.block s.active := by
  obtain ⟨input, root, opened, endReparses, context, events⟩ := s
  cases opened <;> rfl

private theorem atRoot (s : State C g.size) : (t.state s).atRoot = s.atRoot := by
  unfold State.atRoot
  exact List.isEmpty_map

private theorem modifyActive {f : OpenBlock C g.size → OpenBlock C g.size}
    {f' : OpenBlock C h.size → OpenBlock C h.size}
    (hf : ∀ b, f' (t.block b) = t.block (f b)) (s : State C g.size) :
    (t.state s).modifyActive f' = t.state (s.modifyActive f) := by
  obtain ⟨input, root, opened, endReparses, context, events⟩ := s
  cases opened with
  | nil => simp only [state, State.modifyActive, List.map_nil, hf]
  | cons inner outer => simp only [state, State.modifyActive, List.map_cons, hf]

private theorem collect (s : State C g.size) :
    (t.state s).collect = t.state s.collect := t.modifyActive (fun _ => rfl) s

private theorem restartRun (s : State C g.size) : (t.state s).restartRun = t.state s.restartRun :=
  t.modifyActive (fun _ => rfl) s

private theorem record (e : Event) (s : State C g.size) : (t.state s).record e = t.state (s.record e) := rfl

private theorem skip (m : List Char) (s : State C g.size) : (t.state s).skip m = t.state (s.skip m) := rfl

/-- A part and a state. -/
def answer (r : Part × State C g.size) : Part × State C h.size := (r.1, t.state r.2)

private theorem apply (f : Handler C) (p : Part) (block : String) (s : State C g.size) :
    (t.state s).apply f p block = t.answer <$> s.apply f p block := by
  have hc : (t.state s).context = s.context := rfl
  unfold State.apply
  rw [hc]
  rcases f p s.context with ⟨e | q, context⟩ <;> rfl

private theorem applyAtRoot (f : Option (Handler C)) (p : Part) (s : State C g.size) :
    (t.state s).applyAtRoot f p = t.answer <$> s.applyAtRoot f p := by
  cases f with
  | none => rfl
  | some f =>
    have hn : (t.state s).active.name = s.active.name := by rw [t.active]; rfl
    unfold State.applyAtRoot
    dsimp only
    rw [t.atRoot, hn, t.apply]
    split <;> rfl

private theorem addValue (p : Part) (s : State C g.size) :
    (t.state s).modifyActive (·.addValue p) = t.state (s.modifyActive (·.addValue p)) :=
  t.modifyActive (fun _ => rfl) s

private theorem endRun (k : Boundary) (s : State C g.size) : (t.state s).endRun k = t.state <$> s.endRun k := by
  unfold State.endRun
  dsimp only
  rw [t.collect, t.active, t.fragment?]
  cases s.collect.active.fragment? k with
  | none => rfl
  | some f =>
    obtain ⟨text, inner⟩ := f
    have hm : (t.state s.collect).modifyActive (fun _ => t.block inner) =
      t.state (s.collect.modifyActive fun _ => inner) := t.modifyActive (fun _ => rfl) _
    have hh : (t.block inner).spec.handler = inner.spec.handler := t.handler inner.spec
    simp only [Option.map_some, hm, hh, t.applyAtRoot, bind_map_left, map_bind, map_pure, answer, t.addValue]

private theorem addResult (p : Part) (s : State C g.size) : (t.state s).addResult p = t.state <$> s.addResult p := by
  have hh : ∀ s : State C g.size, (if (t.state s).active.spec.handleAll then (t.state s).active.spec.handler else none) =
      if s.active.spec.handleAll then s.active.spec.handler else none := by
    intro s
    have ha : (t.block s.active).spec.handleAll = s.active.spec.handleAll := t.handleAll s.active.spec
    have hf : (t.block s.active).spec.handler = s.active.spec.handler := t.handler s.active.spec
    rw [t.active, ha, hf]
  unfold State.addResult
  simp only [t.restartRun, t.endRun, bind_map_left, hh, t.applyAtRoot, map_bind, map_pure, answer, t.addValue]

private theorem scanAgain (limit : Nat) (block text : String) (atEnd : Bool) (s : State C g.size) :
    (t.state s).scanAgain limit block text atEnd = t.state <$> s.scanAgain limit block text atEnd := by
  unfold State.scanAgain
  show (if limit ≤ s.input.depth + s.endReparses then _ else _) = _
  split
  · rfl
  · exact congrArg Except.ok (t.modifyActive (fun _ => rfl)
      { s.record (.reparse block text (s.input.depth + 1)) with
        input := s.input.suspend text, endReparses := if atEnd then s.endReparses + 1 else s.endReparses })

private theorem output (inner : OpenBlock C g.size) (s : State C g.size) :
    (t.state s).output (t.block inner) = t.answer <$> s.output inner := by
  have hh : (t.block inner).spec.handler = inner.spec.handler := t.handler inner.spec
  unfold State.output
  rw [hh]
  cases inner.spec.handler with
  | none => rfl
  | some f => exact t.apply f _ _ s

private theorem leave (stop : Option Delimiter) (inner : OpenBlock C g.size) (outer : List (OpenBlock C g.size))
    (s : State C g.size) :
    (t.state s).leave stop (t.block inner) (outer.map t.block) = t.state (s.leave stop inner outer) := rfl

private theorem close (limit : Nat) (stop : Option Delimiter) (s : State C g.size) :
    (t.state s).close limit stop = t.state <$> s.close limit stop := by
  rw [State.close_eq, State.close_eq, t.endRun, bind_map_left, map_bind]
  refine bind_congr fun s => ?_
  have ho : (t.state s).opened = s.opened.map t.block := rfl
  rw [ho]
  cases s.opened with
  | nil => rfl
  | cons inner outer =>
    have hagain : State.again? (t.block inner) = State.again? inner := State.again?_congr (t.reparses inner.spec)
    simp only [List.map_cons, t.leave, t.addStop, t.output, bind_map_left, map_bind, answer, hagain]
    refine bind_congr fun r => ?_
    cases State.again? inner r.1 with
    | none => exact t.addResult r.1 r.2
    | some text => exact t.scanAgain limit inner.name text stop.isNone r.2

private theorem enterBlock (name : String) (k : Fin g.size) (start : Delimiter) (s : State C g.size) :
    (t.state s).enter h name (t.slot k) start = t.state <$> s.enter g name k start := by
  have hbefore : ∀ s : State C g.size,
      (t.state s).endRunBefore (h.spec (t.slot k)) = t.state <$> s.endRunBefore (g.spec k) := by
    intro s
    unfold State.endRunBefore
    rw [← t.spec_spec, t.reparses, t.collect, t.endRun]
    split <;> rfl
  have hrecord : (t.state s).record (.enter (t.state s).input.current.offset name start.text) =
    t.state (s.record (.enter s.input.current.offset name start.text)) := rfl
  unfold State.enter
  simp only [hrecord, hbefore, bind_map_left, map_bind, map_pure]
  refine bind_congr fun s₁ => ?_
  rw [t.enter]
  rfl

/-! ### Steps -/

private theorem makeMove (limit : Nat) (s : State C g.size) :
    (t.state s).makeMove h limit = t.state <$> s.makeMove g limit := by
  have hin : (t.state s).input = s.input := rfl
  have hname : (t.state s).active.name = s.active.name := by rw [t.active]; rfl
  have hmove := t.nextMove s.active.spec s.input.current.rest
  have hspec : (t.state s).active.spec = t.spec s.active.spec := by rw [t.active]; rfl
  unfold State.makeMove
  rw [hin, hname, hspec]
  generalize Scan.nextMove g s.active.spec s.input.current.rest = m at hmove ⊢
  generalize Scan.nextMove h (t.spec s.active.spec) s.input.current.rest = m' at hmove ⊢
  cases m with
  | escape escaped literal =>
    cases hmove
    refine congrArg Except.ok ?_
    rw [t.record, t.collect, t.modifyActive (f := (·.addText literal.text)) fun _ => rfl, t.skip, t.restartRun]
  | close stop =>
    cases hmove
    exact t.close limit (some stop) s
  | enter name slot start =>
    cases hmove
    exact t.enterBlock name slot start s
  | split k token =>
    have hsplit : ∀ s : State C g.size,
        ((t.state s).modifyActive fun f => (token.elim f fun x => f.addToken (.text x)).endSegment) =
          t.state (s.modifyActive fun f => (token.elim f fun x => f.addToken (.text x)).endSegment) :=
      fun s => t.modifyActive (fun _ => by cases token <;> rfl) s
    obtain ⟨k', rfl, hw⟩ : ∃ k', m' = .split k' token ∧ k'.whole = k.whole := by
      cases hmove with
      | same => exact ⟨k, rfl, rfl⟩
      | split hw => exact ⟨_, rfl, hw⟩
    simp only [hw, t.record, t.endRun, bind_map_left, map_bind, map_pure, hsplit, t.skip, t.restartRun]
  | strip k =>
    obtain ⟨k', rfl, hw⟩ : ∃ k', m' = .strip k' ∧ k'.whole = k.whole := by
      cases hmove with
      | same => exact ⟨k, rfl, rfl⟩
      | strip hw => exact ⟨_, rfl, hw⟩
    refine congrArg Except.ok ?_
    rw [hw, t.record, t.collect, t.skip, t.restartRun]
  | char =>
    cases hmove
    dsimp only
    cases s.input.current.next? <;> rfl

/-- What comes of a step. -/
def progress : Progress C g.size → Progress C h.size
  | .ended s => .ended (t.state s)
  | .moved s => .moved (t.state s)
  | .failed f => .failed f

private theorem progress_of (x : Except (Failure C) (State C g.size)) :
    Progress.of (t.state <$> x) = t.progress (.of x) := by
  cases x <;> rfl

private theorem resume (input : Input) (s : State C g.size) : (t.state s).resume input = t.state (s.resume input) := by
  unfold State.resume
  rw [t.collect]
  exact congrArg (State.record (.resume input.current.offset input.depth)) (t.restartRun { s.collect with input })

/-- Both scans take the same step. -/
theorem advance (o : Options) (s : State C g.size) : (t.state s).advance h o = t.progress (s.advance g o) := by
  have hin : (t.state s).input = s.input := rfl
  unfold State.advance
  rw [hin]
  split
  · cases s.input.resume? with
    | some input => exact congrArg Progress.moved (t.resume input s)
    | none =>
      have ho : (t.state s).opened = s.opened.map t.block := rfl
      dsimp only
      rw [ho]
      cases s.opened with
      | nil => rfl
      | cons inner outer =>
        simp only [List.map_cons]
        cases o.unterminated with
        | error => rfl
        | close => rw [t.close, t.progress_of]
  · rw [t.makeMove, t.progress_of]

/-! ### Scans -/

/-- Both scans come to the same outcome. -/
theorem outcome (o : Options) (s : State C g.size) (hd : s.input.depth ≤ o.maxReparseDepth) :
    (t.state s).outcome h o hd = s.outcome g o hd := by
  have hd' : (t.state s).input.depth ≤ o.maxReparseDepth := hd
  cases hm : s.advance g o with
  | ended s' =>
    have hm' : (t.state s).advance h o = .ended (t.state s') := by rw [t.advance, hm]; rfl
    rw [State.outcome_of_ended hd hm, State.outcome_of_ended hd' hm', t.endRun]
    cases s.endRun .stop <;> rfl
  | failed f =>
    have hm' : (t.state s).advance h o = .failed f := by rw [t.advance, hm]; rfl
    rw [State.outcome_failed hd hm, State.outcome_failed hd' hm']
  | moved s' =>
    have hm' : (t.state s).advance h o = .moved (t.state s') := by rw [t.advance, hm]; rfl
    rw [State.outcome_moved hd hm, State.outcome_moved hd' hm']
    exact outcome o s' (State.depth_advance hd hm)
termination_by State.measure o.maxReparseDepth s
decreasing_by exact State.advance_lt hd hm

include t in
/-- Both grammars scan a text alike. -/
theorem scan_eq (o : Options) (text : String) (context : C) : scan h o text context = scan g o text context := by
  have hstart : State.start h text context = t.state (State.start g text context) := by
    unfold State.start state block OpenBlock.root
    rw [← t.spec_root]
    rfl
  have ho := t.outcome o (State.start g text context) (Nat.zero_le _)
  rw [State.scan_eq_outcome, State.scan_eq_outcome, ← ho]
  congr 1

end Translation

/-! ### Other slots and other paths -/

/-- The spec with other slots, and without its path. -/
def relabel {n m : Nat} (f : Fin n → Fin m) (s : Spec C n) : Spec C m :=
  { path := "", start := s.start, stop := s.stop, escapedStart := s.escapedStart, escapedStop := s.escapedStop,
    keepDelimiters := s.keepDelimiters, replaceEscapes := s.replaceEscapes, split := s.split, storeSplit := s.storeSplit,
    strip := s.strip, ignoreEmpty := s.ignoreEmpty, blocks := s.blocks.map fun b => (b.1, f b.2), handler := s.handler,
    reparse := s.reparse, handleAll := s.handleAll }

/-- The translation that gives specs other slots. -/
def Translation.ofRelabel {g h : Grammar C} (f : Fin g.size → Fin h.size) (hroot : f g.rootSlot = h.rootSlot)
    (hspec : ∀ k, relabel f (g.spec k) = h.spec (f k)) : Translation g h where
  slot := f
  spec := relabel f
  keepDelimiters _ := rfl
  ignoreEmpty _ := rfl
  handler _ := rfl
  reparse _ := rfl
  handleAll _ := rfl
  spec_root := by rw [Grammar.root, hspec, hroot]; rfl
  spec_spec := hspec
  nextMove s rest := by
    have hm : Scan.nextMove h (relabel f s) rest = (Scan.nextMove g s rest).map f :=
      nextMove_map f rfl rfl rfl rfl rfl rfl rfl (fun k => by rw [← hspec]; exact ⟨rfl, rfl, rfl⟩) rest
    rw [hm]
    exact .same _

/-- The grammar without the paths of its specs. -/
def unlabelled (g : Grammar C) : Grammar C := ⟨g.size, g.size_pos, g.specs.map (relabel id)⟩

private theorem spec_unlabelled (g : Grammar C) (k : Fin g.size) : (unlabelled g).spec k = relabel id (g.spec k) := by
  unfold Grammar.spec unlabelled
  simp

/-- Grammars whose specs differ in their paths and slots only scan a text alike. -/
theorem scan_eq_of_relabel {g h : Grammar C} (f : Fin g.size → Fin h.size) (hroot : f g.rootSlot = h.rootSlot)
    (hspec : ∀ k, relabel f (g.spec k) = relabel id (h.spec (f k))) (o : Options) (text : String) (context : C) :
    scan g o text context = scan h o text context := by
  have hg : Translation g (unlabelled h) := .ofRelabel f hroot fun k => (hspec k).trans (spec_unlabelled h (f k)).symm
  have hh : Translation h (unlabelled h) := .ofRelabel id rfl fun k => (spec_unlabelled h k).symm
  rw [← hg.scan_eq, ← hh.scan_eq]

end Delimited.Scan
