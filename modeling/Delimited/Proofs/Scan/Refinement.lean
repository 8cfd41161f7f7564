import Delimited.Proofs.Scan.Situation

/-!
# States and their situations

Every state has a situation: the run of the active block goes on up to the cursor, and where the other runs would have
gone on is forgotten. Each operation on states does to the situation what the operation of the same name does
(`observe_endRun`, `observe_close`, `observe_makeMove`), so the next step of a state is that of its situation
(`State.observe_advance`).
-/

namespace Delimited.Scan

variable {C : Type} {n : Nat} {α β α' β' : Type}

/-! ### Situations of states -/

namespace Cursor

private theorem since_offset (c : Cursor) : c.since c.offset = [] := by
  have h := since_eq (c := c) (a := c.passed) (m := []) (List.nil_append _).symm
  rwa [← c.offset_eq] at h

/-- A character that is passed comes last of what has been read. -/
theorem since_next {c d : Cursor} {x : Char} {start : Nat} (h : c.Passed start) (hn : c.next? = some (x, d)) :
    d.since start = c.since start ++ [x] := by
  obtain ⟨a, m, hm, rfl⟩ := h
  rw [since_eq hm]
  refine since_eq ?_
  rw [(next?_eq_some hn).2.1, hm]
  simp

end Cursor

namespace OpenBlock

/-- The block with all of its run. -/
def settle (c : Cursor) (b : OpenBlock C n) : OpenBlock C n := (b.collect c).goOnAt 0

theorem settle_of_runStart {c : Cursor} {b : OpenBlock C n} (h : b.runStart = c.offset) :
    b.settle c = b.goOnAt 0 := by
  unfold settle collect goOnAt
  rw [h, Cursor.since_offset]
  simp

/-- Where a run goes on makes no difference to how it ends. -/
theorem flush_goOnAt (isRoot : Bool) (k : Boundary) (i : Nat) (b : OpenBlock C n) :
    (b.goOnAt i).flush isRoot k = (·.goOnAt i) <$> b.flush isRoot k :=
  flush_place isRoot k id (fun _ => i) b

theorem addStop_goOnAt (stop : Option Delimiter) (i : Nat) (b : OpenBlock C n) :
    (b.goOnAt i).addStop stop = (b.addStop stop).goOnAt i := by
  cases stop with
  | none => rfl
  | some d => by_cases hk : b.spec.keepDelimiters <;> simp [addStop, goOnAt, addToken, hk]

end OpenBlock

namespace State

/-- What a state comes to. -/
def situation (s : State C n) : Situation C n where
  text := s.input.current.left
  suspended := s.input.suspended.map Cursor.left
  active := s.active.settle s.input.current
  around := s.around.map (·.goOnAt 0)
  endReparses := s.endReparses

theorem around_situation_eq_nil_iff {s : State C n} : s.situation.around = [] ↔ s.opened = [] := by
  show s.around.map _ = [] ↔ s.opened = []
  rw [List.map_eq_nil_iff, ← List.length_eq_zero_iff, length_around, List.length_eq_zero_iff]

theorem atRoot_situation (s : State C n) : s.situation.atRoot = s.atRoot := by
  show s.situation.around.isEmpty = s.opened.isEmpty
  rw [Bool.eq_iff_iff, List.isEmpty_iff, List.isEmpty_iff]
  exact around_situation_eq_nil_iff

/-- A run that starts at the cursor is complete. -/
theorem situation_of_runStart {s : State C n} (h : s.active.runStart = s.input.current.offset) :
    s.situation.active = s.active.goOnAt 0 := OpenBlock.settle_of_runStart h

private theorem situation_modifyActive {f : OpenBlock C n → OpenBlock C n} {s : State C n}
    (h : (f s.active).runStart = s.input.current.offset) :
    (s.modifyActive f).situation = { s.situation with active := (f s.active).goOnAt 0 } := by
  obtain ⟨hi, he, -, -⟩ := modifyActive_eq f s
  unfold situation
  rw [active_modifyActive, around_modifyActive, hi, he, OpenBlock.settle_of_runStart h]

@[simp] theorem situation_collect (s : State C n) : s.collect.situation = s.situation :=
  situation_modifyActive rfl

/-- A change of a block that has nothing to do with where its run goes on is a change of its run in full. -/
private theorem situation_change {f : OpenBlock C n → OpenBlock C n} {s : State C n}
    (hf : ∀ i b, f (b.goOnAt i) = (f b).goOnAt i) (h : s.active.runStart = s.input.current.offset) :
    (s.modifyActive f).situation = { s.situation with active := f s.situation.active } ∧
      (s.modifyActive f).active.runStart = (s.modifyActive f).input.current.offset := by
  have hr : (f s.active).runStart = s.input.current.offset := by
    have : f s.active = (f s.active).goOnAt s.active.runStart := hf s.active.runStart s.active
    rw [this, ← h]
    rfl
  refine ⟨?_, ?_⟩
  · rw [situation_modifyActive hr, situation_of_runStart h, hf]
  · rw [active_modifyActive, input_modifyActive]
    exact hr

private theorem situation_restart_context (c : C) (s : State C n) :
    ({ s with context := c } : State C n).restartRun.situation = s.restartRun.situation := by
  rw [restartRun, restartRun, situation_modifyActive rfl, situation_modifyActive rfl]
  rfl

/-- A run that is complete goes on behind what is skipped. -/
theorem situation_restart {s : State C n} {m : List Char} (h : s.active.runStart = s.input.current.offset)
    (hm : m <+: s.input.current.rest) :
    (s.skip m).restartRun.situation = { s.situation with text := s.situation.text.skip m } := by
  rw [restartRun, situation_modifyActive rfl]
  have ha := situation_of_runStart h
  show { (s.skip m).situation with active := s.active.goOnAt 0 } = _
  rw [← ha]
  show Situation.mk (s.input.current.advance (byteLength m)).left _ _ _ _ = _
  rw [Cursor.left_advance hm]
  rfl

/-- A block that starts behind what is skipped becomes the active one. -/
private theorem situation_push {s : State C n} {b : OpenBlock C n} {m : List Char}
    (h : s.active.runStart = s.input.current.offset) (hb : b.runStart = s.input.current.offset + byteLength m)
    (hm : m <+: s.input.current.rest) :
    ({ s.skip m with opened := b :: s.opened } : State C n).situation =
      { s.situation with
        text := s.situation.text.skip m, active := b.goOnAt 0, around := s.situation.active :: s.situation.around } := by
  have hs : b.settle (s.input.current.advance (byteLength m)) = b.goOnAt 0 :=
    OpenBlock.settle_of_runStart (by rw [hb, Cursor.offset_advance hm])
  show Situation.mk (s.input.current.advance _).left _ (b.settle (s.input.current.advance _))
    ((s.opened ++ [s.root]).map _) _ = _
  rw [hs, opened_append_root, Cursor.left_advance hm, situation_of_runStart h]
  rfl

/-- A part that comes from a handler is added behind a complete run. -/
private theorem observe_addValue {s : State C n} (h : s.active.runStart = s.input.current.offset) (q : Part) (c : C) :
    let t := { s with context := c }.modifyActive (·.addValue q)
    t.situation = { s.situation with active := (s.active.addValue q).goOnAt 0 } ∧ t.context = c :=
  ⟨situation_modifyActive (s := { s with context := c }) h, context_modifyActive _ _⟩

end State

/-! ### Observations -/

/-- What is observed of a computation on states: its value by `f`, and the context. -/
def observe (f : α → β) (ctx : α → C) : Except (Failure C) α → Except Error β × C
  | .ok a => (.ok (f a), ctx a)
  | .error e => (.error e.error, e.context)

theorem observe_bind {f : α → β} {ctx : α → C} {f' : α' → β'} {ctx' : α' → C} {x : Except (Failure C) α}
    {k : α → Except (Failure C) α'} {y : Effect C β} {l : β → Effect C β'} {c : C} (hx : observe f ctx x = y c)
    (hk : ∀ a, x = .ok a → observe f' ctx' (k a) = l (f a) (ctx a)) : observe f' ctx' (x >>= k) = (y >>= l) c := by
  rw [Effect.bind_apply, ← hx]
  cases x with
  | error e => rfl
  | ok a => exact hk a rfl

namespace State

private theorem observe_ok {s : State C n} {t : Situation C n} {c : C} (ht : s.situation = t) (hc : s.context = c) :
    observe situation context (.ok s) = (pure t : Effect C _) c := by
  subst ht hc
  rfl

private theorem observe_apply (h : Handler C) (p : Part) (block : String) (s : State C n) :
    observe (·.1) (·.2.context) (s.apply h p block) = handle h block p s.context := by
  unfold apply handle
  rcases h p s.context with ⟨q | q, c⟩ <;> rfl

private theorem observe_applyAtRoot (h : Option (Handler C)) (p : Part) (s : State C n) :
    observe (·.1) (·.2.context) (s.applyAtRoot h p) = s.active.offer s.atRoot h p s.context := by
  unfold applyAtRoot OpenBlock.offer
  cases h with
  | none => rfl
  | some h =>
    by_cases hr : s.atRoot
    · simp only [hr, if_true]
      exact observe_apply h p _ s
    · simp only [hr]
      rfl

theorem observe_output (inner : OpenBlock C n) (s : State C n) :
    observe (·.1) (·.2.context) (s.output inner) = inner.value s.context := by
  unfold output OpenBlock.value
  cases inner.spec.handler with
  | none => rfl
  | some h => exact observe_apply h _ _ s

private theorem observe_fragment (k : Boundary) {s : State C n} (h : s.active.runStart = s.input.current.offset) :
    observe situation context (match s.active.fragment? k with
      | none => .ok s
      | some (text, inner) => do
        let (p, s) ← (s.modifyActive fun _ => inner).applyAtRoot inner.spec.handler (.text text)
        return s.modifyActive (·.addValue p)) =
      ((fun b => { s.situation with active := b.goOnAt 0 }) <$> s.active.flush s.atRoot k : Effect C _) s.context := by
  unfold OpenBlock.flush
  cases hf : s.active.fragment? k with
  | none =>
    have ha := situation_of_runStart h
    show (Except.ok s.situation, s.context) = (Except.ok { s.situation with active := s.active.goOnAt 0 }, s.context)
    rw [← ha]
  | some f =>
    obtain ⟨text, inner⟩ := f
    obtain ⟨-, rfl⟩ := OpenBlock.eq_of_fragment hf
    -- the state whose active block has given up its run
    let t := s.modifyActive fun _ => { s.active with run := "" }
    have ha : t.active = { s.active with run := "" } := active_modifyActive _ s
    have hr : t.atRoot = s.atRoot := by
      rw [← atRoot_situation, ← atRoot_situation]
      show (t.around.map _).isEmpty = (s.around.map _).isEmpty
      rw [around_modifyActive]
    have hc : t.context = s.context := context_modifyActive _ s
    have hi : t.input = s.input := input_modifyActive _ s
    have ht : t.situation = { s.situation with active := t.active.goOnAt 0 } := by
      rw [ha]; exact situation_modifyActive h
    simp only [map_bind, map_pure]
    rw [← hc, ← hr]
    have hx := observe_applyAtRoot s.active.spec.handler (.text text) t
    rw [ha] at hx
    refine observe_bind hx ?_
    rintro ⟨q, u⟩ hu
    obtain ⟨c, rfl⟩ := applyAtRoot_eq_ok hu
    obtain ⟨hq, hq'⟩ := observe_addValue (s := t) (by rw [ha, hi]; exact h) q c
    show (Except.ok _, _) = (Except.ok _, _)
    rw [hq, hq', ht, ha]

/-- Ending the run is an effect of the active block alone. -/
theorem observe_endRun (k : Boundary) (s : State C n) :
    observe situation context (s.endRun k) = s.situation.endRun k s.context := by
  have ha : s.situation.active = s.collect.active.goOnAt 0 := by
    rw [collect, active_modifyActive]; rfl
  have hr : s.situation.atRoot = s.collect.atRoot := by
    rw [← atRoot_situation, situation_collect]
  have hs : s.collect.situation = s.situation := situation_collect s
  have hc : s.collect.context = s.context := context_modifyActive _ s
  have hn : s.collect.active.runStart = s.collect.input.current.offset := by
    rw [runStart_collect, (Keeps.collect s).input]
  -- once the run is collected, what is left to do is the same on both sides
  have hf := observe_fragment k hn
  rw [hs, hc] at hf
  rw [Situation.endRun, ha, hr, OpenBlock.flush_goOnAt, bind_map_left]
  rw [map_eq_pure_bind] at hf
  exact hf

private theorem settled_endRun {k : Boundary} {s s' : State C n} (h : s.endRun k = .ok s') :
    s'.active.runStart = s'.input.current.offset := by
  rw [runStart_endRun h, (Keeps.endRun h).input]

/-- The value of a nested block goes to the block that is active again, whose run goes on at the cursor. -/
theorem observe_addResult (p : Part) (s : State C n) :
    observe situation context (s.addResult p) = s.restartRun.situation.receive p s.context := by
  have hc : s.restartRun.context = s.context := context_modifyActive _ s
  unfold addResult Situation.receive
  rw [← hc]
  refine observe_bind (observe_endRun .block s.restartRun) fun t ht => ?_
  have hn := settled_endRun ht
  have ha : t.situation.active = t.active.goOnAt 0 := situation_of_runStart hn
  rw [ha, atRoot_situation, OpenBlock.receive, bind_assoc]
  refine observe_bind (observe_applyAtRoot _ p t) ?_
  rintro ⟨q, u⟩ hu
  obtain ⟨c, rfl⟩ := applyAtRoot_eq_ok hu
  obtain ⟨hq, hq'⟩ := observe_addValue hn q c
  show (Except.ok _, _) = (Except.ok _, _)
  rw [hq, hq']
  rfl

private theorem observe_scanAgain (limit : Nat) (block text : String) (atEnd : Bool) (s : State C n) :
    observe situation context (s.scanAgain limit block text atEnd) =
      s.restartRun.situation.scanAgain limit block text atEnd s.context := by
  have hs : s.restartRun.situation = { s.situation with active := s.active.goOnAt 0 } := situation_modifyActive rfl
  have hd : s.situation.suspended.length = s.input.depth := List.length_map _
  rw [hs, Situation.scanAgain, hd]
  unfold scanAgain
  by_cases hl : limit ≤ s.input.depth + s.endReparses
  · rw [if_pos hl]
    simp only [show limit ≤ s.input.depth + s.situation.endReparses from hl, if_true]
    rfl
  · rw [if_neg hl]
    simp only [show ¬ limit ≤ s.input.depth + s.situation.endReparses from hl, if_false]
    show (Except.ok _, _) = (Except.ok _, _)
    rw [context_modifyActive _ _, situation_modifyActive rfl]
    rfl

private theorem settled_collect (s : State C n) : s.collect.active.runStart = s.collect.input.current.offset := by
  rw [runStart_collect, (Keeps.collect s).input]

/-- Behind a block that has been left, the block around it is active. -/
private theorem situation_leave {s : State C n} {stop : Option Delimiter} {inner : OpenBlock C n}
    {outer : List (OpenBlock C n)} (ho : s.opened = inner :: outer)
    (hp : stop.elim [] Delimiter.chars <+: s.input.current.rest) :
    ∃ b around, s.situation.around = b :: around ∧
      (s.leave stop inner outer).restartRun.situation =
        { s.situation with text := s.situation.text.skip (stop.elim [] Delimiter.chars), active := b, around } := by
  have ha : s.around = (s.leave stop inner outer).active :: (s.leave stop inner outer).around := by
    unfold around active leave
    rw [ho]
    cases outer <;> rfl
  refine ⟨(s.leave stop inner outer).active.goOnAt 0, (s.leave stop inner outer).around.map (·.goOnAt 0), ?_, ?_⟩
  · show s.around.map _ = _
    rw [ha, List.map_cons]
  · rw [restartRun, situation_modifyActive rfl]
    show Situation.mk (s.input.current.advance _).left _ _ _ _ = _
    rw [Cursor.left_advance hp]
    rfl

/-- Closing a block that is open. -/
theorem observe_close {limit : Nat} (stop : Option Delimiter) {s : State C n} (ho : s.opened ≠ [])
    (hp : stop.elim [] Delimiter.chars <+: s.input.current.rest) :
    observe situation context (s.close limit stop) = s.situation.close limit stop s.context := by
  rw [close_eq, Situation.close]
  refine observe_bind (observe_endRun .stop s) fun t ht => ?_
  have hk := Keeps.endRun ht
  cases hc : t.opened with
  | nil => exact absurd hc (hk.opened_ne_nil ho)
  | cons inner outer =>
    obtain ⟨b, around, hb, hs⟩ := situation_leave hc (by rw [hk.input]; exact hp)
    have ha : t.situation.active = inner.goOnAt 0 := by
      rw [situation_of_runStart (settled_endRun ht), active, hc]
      rfl
    have hv : ((inner.addStop stop).goOnAt 0).value = (inner.addStop stop).value := rfl
    rw [hb, ha]
    dsimp only
    rw [OpenBlock.addStop_goOnAt, hv]
    refine observe_bind (observe_output (inner.addStop stop) (t.leave stop inner outer)) ?_
    rintro ⟨p, u⟩ hu
    obtain ⟨c, rfl⟩ := output_eq_ok hu
    dsimp only
    have hr := situation_restart_context c (t.leave stop inner outer)
    have hg : again? (inner.goOnAt 0) p = again? inner p := rfl
    rw [hg]
    -- the context that the handler has left behind is not part of the situation
    cases again? inner p with
    | some text =>
      dsimp only
      rw [observe_scanAgain, hr, hs]
      rfl
    | none =>
      dsimp only
      rw [observe_addResult, hr, hs]

private theorem settled_endRunBefore {child : Spec C n} {s s' : State C n} (h : s.endRunBefore child = .ok s') :
    s'.active.runStart = s'.input.current.offset := by
  unfold endRunBefore at h
  split at h
  · simp only [Except.ok.injEq] at h
    rw [← h, runStart_collect, (Keeps.collect s).input]
  · exact settled_endRun h

private theorem observe_endRunBefore (child : Spec C n) (s : State C n) :
    observe situation context (s.endRunBefore child) = s.situation.endRunBefore child s.context := by
  unfold endRunBefore Situation.endRunBefore
  by_cases hc : child.reparses
  · rw [if_pos hc, if_pos hc]
    show (Except.ok s.collect.situation, s.collect.context) = (Except.ok s.situation, s.context)
    rw [situation_collect]
    exact congrArg _ (context_modifyActive _ s)
  · rw [if_neg hc, if_neg hc]
    exact observe_endRun .block s

private theorem observe_enter {g : Grammar C} {name : String} {slot : Fin g.size} {start : Delimiter}
    {s : State C g.size}
    (hp : start.chars <+: s.input.current.rest) :
    observe situation context (s.enter g name slot start) = s.situation.enter g name slot start s.context := by
  unfold enter Situation.enter
  dsimp only
  let r := s.record (.enter s.input.current.offset name start.text)
  refine observe_bind (observe_endRunBefore (g.spec slot) r) fun t ht => ?_
  have hi : t.input = s.input := ((Keeps.record _ s).trans (Keeps.endRunBefore ht)).input
  rw [← hi] at hp ⊢
  have hn := situation_push (b := .enter name (g.spec slot) t.input.current.offset start)
    (settled_endRunBefore ht) rfl hp
  exact congrArg (fun u => ((Except.ok u : Except Error _), t.context)) hn

private theorem observe_char {g : Grammar C} (limit : Nat) {s : State C g.size} {x : Char} {current : Cursor}
    (ha : s.Anchored) (hn : s.input.current.next? = some (x, current)) :
    observe situation context (.ok ({ s with input := { s.input with current } }.record
      (.char s.input.current.offset x s.active.name))) = s.situation.makeMove g limit .char s.context := by
  obtain ⟨hr, -, ho⟩ := Cursor.next?_eq_some hn
  -- the character is not yet part of the run, but part of what the run comes to
  have hs : s.active.settle current = (s.active.settle s.input.current).addText (String.ofList [x]) := by
    unfold OpenBlock.settle OpenBlock.collect OpenBlock.goOnAt OpenBlock.addText
    rw [Cursor.since_next ha hn, String.ofList_append, String.append_assoc]
  have hl : current.left = s.input.current.left.skip [x] := by
    unfold Cursor.left Left.skip
    rw [hr, ho]
    rfl
  refine (observe_ok (t := { s.situation with
    text := s.situation.text.skip [x], active := s.situation.active.addText (String.ofList [x]) }) ?_ rfl).trans ?_
  · show Situation.mk current.left _ (s.active.settle current) _ _ = _
    rw [hl, hs]
    rfl
  · have hx : s.situation.text.rest = x :: current.rest := hr
    simp only [Situation.makeMove, hx]
    rfl

/-- A state in the middle of a text makes the move that its situation makes. -/
theorem observe_makeMove {g : Grammar C} {limit : Nat} {s : State C g.size} (ha : s.Anchored)
    (hne : s.input.current.rest ≠ [])
    (hc : ∀ stop, nextMove g s.active.spec s.input.current.rest = .close stop → s.opened ≠ []) :
    observe situation context (s.makeMove g limit) =
      s.situation.makeMove g limit (nextMove g s.active.spec s.input.current.rest) s.context := by
  have hp := recognised_isPrefix g s.active.spec s.input.current.rest
  unfold makeMove
  dsimp only
  cases hm : nextMove g s.active.spec s.input.current.rest with
  | escape escaped literal =>
    rw [hm] at hp
    let t := (s.record (.escape s.input.current.offset s.active.name escaped.text)).collect
    have ht : t.situation = s.situation := situation_collect (s.record _)
    obtain ⟨hs, hr⟩ := situation_change (f := (·.addText literal.text)) (fun _ _ => rfl) (settled_collect (s.record _))
    refine observe_ok ?_ ?_
    · rw [situation_restart hr (by rw [input_modifyActive, (Keeps.collect (s.record _)).input]; exact hp), hs]
      exact congrArg (fun u : Situation C g.size =>
        { u with text := u.text.skip escaped.chars, active := u.active.addText literal.text }) ht
    · exact (context_modifyActive _ _).trans ((context_modifyActive _ t).trans (context_modifyActive _ (s.record _)))
  | close stop =>
    rw [hm] at hp
    exact observe_close (some stop) (hc stop hm) hp
  | enter name slot start =>
    rw [hm] at hp
    exact observe_enter hp
  | split m token =>
    rw [hm] at hp
    refine observe_bind (observe_endRun .split (s.record _)) fun t ht => ?_
    have hi : t.input = s.input := ((Keeps.record _ s).trans (Keeps.endRun ht)).input
    obtain ⟨hs, hr⟩ := situation_change (f := fun b => (b.addKept token).endSegment) (s := t)
      (fun _ _ => by cases token <;> rfl) (settled_endRun ht)
    refine observe_ok ?_ ?_
    · refine (situation_restart hr (by rw [input_modifyActive, hi]; exact hp)).trans ?_
      exact congrArg (fun u : Situation C g.size => { u with text := u.text.skip m.whole }) hs
    · exact (context_modifyActive _ _).trans (context_modifyActive _ t)
  | strip m =>
    rw [hm] at hp
    refine observe_ok ?_ ?_
    · rw [situation_restart (settled_collect (s.record _)) (by rw [(Keeps.collect (s.record _)).input]; exact hp)]
      exact congrArg (fun u : Situation C g.size => { u with text := u.text.skip m.whole })
        (situation_collect (s.record _))
    · exact (context_modifyActive _ _).trans (context_modifyActive _ (s.record _))
  | char =>
    cases hn : s.input.current.next? with
    | none =>
      unfold Cursor.next? at hn
      split at hn
      · exact absurd ‹_› hne
      · simp at hn
    | some x =>
      obtain ⟨x, current⟩ := x
      exact observe_char limit ha hn

end State

/-! ### Steps -/

/-- What is observed of a step. -/
def Progress.observe : Progress C n → Except Error (Option (Situation C n)) × C
  | .ended s => (.ok none, s.context)
  | .moved s => (.ok (some s.situation), s.context)
  | .failed f => (.error f.error, f.context)

namespace Progress

theorem of_observe_none {p : Progress C n} {c : C} (h : p.observe = (.ok none, c)) :
    ∃ s, p = .ended s ∧ s.context = c := by
  cases p with
  | ended s => exact ⟨s, rfl, congrArg Prod.snd h⟩
  | moved s => exact absurd (congrArg Prod.fst h) (by simp [observe])
  | failed f => exact absurd (congrArg Prod.fst h) (by simp [observe])

/-- A state goes on when its situation does. -/
theorem of_observe_some {p : Progress C n} {t : Situation C n} {c : C} (h : p.observe = (.ok (some t), c)) :
    ∃ s, p = .moved s ∧ s.situation = t ∧ s.context = c := by
  cases p with
  | ended s => exact absurd (congrArg Prod.fst h) (by simp [observe])
  | moved s => exact ⟨s, rfl, by simpa [observe] using congrArg Prod.fst h, congrArg Prod.snd h⟩
  | failed f => exact absurd (congrArg Prod.fst h) (by simp [observe])

theorem of_observe_error {p : Progress C n} {e : Error} {c : C} (h : p.observe = (.error e, c)) :
    ∃ f, p = .failed f ∧ f.error = e ∧ f.context = c := by
  cases p with
  | ended s => exact absurd (congrArg Prod.fst h) (by simp [observe])
  | moved s => exact absurd (congrArg Prod.fst h) (by simp [observe])
  | failed f => exact ⟨f, rfl, by simpa [observe] using congrArg Prod.fst h, congrArg Prod.snd h⟩

end Progress

private theorem observe_of {x : Except (Failure C) (State C n)} {y : Effect C (Situation C n)} {c : C}
    (h : observe State.situation State.context x = y c) : (Progress.of x).observe = (some <$> y : Effect C _) c := by
  rw [map_eq_pure_bind, Effect.bind_apply, ← h]
  cases x <;> rfl

namespace State

/-- When a text is at its end, what has been read of it joins the run of the active block. -/
theorem situation_resume (c : Cursor) (cs : List Cursor) (s : State C n) :
    (s.resume ⟨c, cs⟩).situation = { s.situation with text := c.left, suspended := cs.map Cursor.left } := by
  have ha : s.collect.active = s.active.collect s.input.current := active_modifyActive _ s
  have hr : s.collect.around = s.around := around_modifyActive _ s
  show (State.restartRun { s.collect with input := ⟨c, cs⟩ }).situation = _
  rw [restartRun, situation_modifyActive rfl]
  show Situation.mk _ _ (s.collect.active.goOnAt _ |>.goOnAt 0) (s.collect.around.map _) s.collect.endReparses = _
  rw [ha, hr, (Keeps.collect s).endReparses]
  rfl

/-- The next step of a state is that of its situation. -/
theorem observe_advance {g : Grammar C} {o : Options} {s : State C g.size} (hs : s.Sound g)
    (hg : g.root.stop = none) : (s.advance g o).observe = s.situation.advance g o s.context := by
  unfold advance Situation.advance
  have he : s.situation.text.rest.isEmpty = s.input.current.atEnd := rfl
  rw [he]
  by_cases hr : s.input.current.atEnd
  · rw [if_pos hr, if_pos hr]
    have hnil : s.input.current.rest = [] := by simpa [Cursor.atEnd] using hr
    cases hc : s.input.suspended with
    | cons c cs =>
      have hi : s.input.resume? = some ⟨c, cs⟩ := by simp [Input.resume?, hc]
      have ht : s.situation.suspended = c.left :: cs.map Cursor.left := by
        show s.input.suspended.map _ = _
        rw [hc, List.map_cons]
      rw [hi, ht]
      dsimp only
      have hx : (s.resume ⟨c, cs⟩).context = s.context :=
        (context_modifyActive _ _).trans (context_modifyActive _ s)
      show (Except.ok (some (s.resume ⟨c, cs⟩).situation), (s.resume ⟨c, cs⟩).context) = _
      rw [situation_resume, hx]
      rfl
    | nil =>
      have hi : s.input.resume? = none := by simp [Input.resume?, hc]
      have ht : s.situation.suspended = [] := by
        show s.input.suspended.map _ = _
        rw [hc, List.map_nil]
      rw [hi, ht]
      cases ho : s.opened with
      | nil =>
        rw [around_situation_eq_nil_iff.2 ho]
        rfl
      | cons inner outer =>
        have hne : s.situation.around ≠ [] := fun h => by
          rw [around_situation_eq_nil_iff.1 h] at ho
          cases ho
        obtain ⟨b, bs, ha⟩ := List.exists_cons_of_ne_nil hne
        have hb : s.active = inner := by rw [active, ho]; rfl
        rw [ha]
        dsimp only
        cases o.unterminated with
        | error =>
          rw [← hb]
          rfl
        | close => exact observe_of (observe_close none (by simp [ho]) List.nil_prefix)
  · rw [if_neg hr, if_neg hr]
    exact observe_of (observe_makeMove hs.anchored (by simpa [Cursor.atEnd] using hr)
      fun _ hm => hs.opened_of_close hg hm)

end State

end Delimited.Scan
