import Mathlib
import Delimited.Proofs.Scan.Outcome
import Delimited.Proofs.Trace.Replay

/-!
# The events of a scan

The events of a scan can be replayed from its text alone (`replay?_scan`). Every state has a replay, which knows the
texts and the open blocks as the state does (`State.replay`), and after each step the events so far come to the replay
of the state (`State.Accounted.advance`). Most operations add no event whether they go through or fail (`Quiet`), so a
failure has events that fit as well.
-/

namespace Delimited.Scan

variable {C : Type} {n : Nat} {α β : Type}

/-! ### Computations without events -/

/-- A computation that has added nothing to these events, whether it has gone through or failed. If it has failed, it was
not because a block is open at the end of the input. -/
def Quiet (events : Array Event) (f : α → Array Event) : Except (Failure C) α → Prop
  | .ok a => f a = events
  | .error e => e.events = events ∧ ∀ block offset, e.error ≠ .unterminated block offset

theorem Quiet.bind {events : Array Event} {f : α → Array Event} {f' : β → Array Event} {x : Except (Failure C) α}
    {k : α → Except (Failure C) β} (hx : Quiet events f x) (hk : ∀ a, x = .ok a → f a = events → Quiet events f' (k a)) :
    Quiet events f' (x >>= k) := by
  cases x with
  | error e => exact hx
  | ok a => exact hk a rfl hx

namespace State

@[simp] theorem events_modifyActive (f : OpenBlock C n → OpenBlock C n) (s : State C n) :
    (s.modifyActive f).events = s.events := (modifyActive_eq f s).2.2.2

private theorem quiet_apply (h : Handler C) (p : Part) (block : String) (s : State C n) :
    Quiet s.events (·.2.events) (s.apply h p block) := by
  unfold apply
  split
  · exact rfl
  · exact ⟨rfl, by simp⟩

private theorem quiet_applyAtRoot (h : Option (Handler C)) (p : Part) (s : State C n) :
    Quiet s.events (·.2.events) (s.applyAtRoot h p) := by
  unfold applyAtRoot
  split
  · split
    · exact quiet_apply _ p _ s
    · exact rfl
  · exact rfl

theorem quiet_output (inner : OpenBlock C n) (s : State C n) : Quiet s.events (·.2.events) (s.output inner) := by
  unfold output
  split
  · exact quiet_apply _ _ _ s
  · exact rfl

theorem quiet_endRun (k : Boundary) (s : State C n) : Quiet s.events State.events (s.endRun k) := by
  have hc : s.collect.events = s.events := events_modifyActive _ s
  unfold endRun
  dsimp only
  split
  · exact hc
  · rename_i text inner _
    have ht : (s.collect.modifyActive fun _ => inner).events = s.events := (events_modifyActive _ _).trans hc
    refine Quiet.bind (f := (·.2.events)) (ht ▸ quiet_applyAtRoot _ _ _) ?_
    rintro ⟨p, t⟩ - ht
    exact (events_modifyActive _ t).trans ht

theorem quiet_endRunBefore (child : Spec C n) (s : State C n) :
    Quiet s.events State.events (s.endRunBefore child) := by
  unfold endRunBefore
  split
  · exact events_modifyActive _ s
  · exact quiet_endRun .block s

theorem quiet_addResult (p : Part) (s : State C n) : Quiet s.events State.events (s.addResult p) := by
  have hr : s.restartRun.events = s.events := events_modifyActive _ s
  unfold addResult
  refine Quiet.bind (f := State.events) (hr ▸ quiet_endRun .block s.restartRun) ?_
  rintro t - ht
  refine Quiet.bind (f := (·.2.events)) (ht ▸ quiet_applyAtRoot _ p t) ?_
  rintro ⟨q, u⟩ - hu
  exact (events_modifyActive _ u).trans hu

/-- To take up a text again is recorded. -/
theorem events_resume (input : Input) (s : State C n) :
    (s.resume input).events = s.events.push (.resume input.current.offset input.depth) := by
  have hc : s.collect.events = s.events := events_modifyActive _ s
  show (State.restartRun { s.collect with input }).events.push _ = _
  rw [restartRun, events_modifyActive, hc]

end State

/-! ### Replays of states -/

namespace Cursor

/-- What is known of a text when it is read without the scan. -/
def reading (c : Cursor) : Reading := ⟨c.text, c.offset⟩

private theorem atEnd_reading {c : Cursor} (h : c.rest = []) : c.reading.atEnd = true := by
  have hl : c.offset = byteLength c.text := by rw [text, h, List.append_nil, byteLength_reverse, c.offset_eq]
  exact decide_eq_true hl

/-- What stands at the cursor can be read. -/
theorem read?_reading {c : Cursor} {m : List Char} (hm : m ≠ []) (h : m <+: c.rest) :
    c.reading.read? m = some (c.advance (byteLength m)).reading := by
  obtain ⟨r, hr⟩ := h
  obtain ⟨hp, hrest⟩ := advance_of_eq_append hr.symm
  have hc : c.reading = ⟨c.passed.reverse ++ m ++ r, byteLength c.passed.reverse⟩ := by
    rw [reading, text, ← hr, c.offset_eq, byteLength_reverse, List.append_assoc]
  have hd : (c.advance (byteLength m)).reading = ⟨c.passed.reverse ++ m ++ r, byteLength (c.passed.reverse ++ m)⟩ := by
    rw [reading, text, hp, hrest, offset_eq, hp]
    simp [Nat.add_comm]
  rw [hc, hd, Reading.read?_of_eq_append hm]

end Cursor

namespace State

/-- The replay of the events that have led to a state, as far as the state knows it. -/
def replay (s : State C n) : Replay where
  current := s.input.current.reading
  suspended := s.input.suspended.map Cursor.reading
  opened := s.titles.map fun t => (t.1, t.2.2)
  closed := none

/-- The replay knows the texts and the open blocks as the state does. -/
def ShownBy (r : Replay) (s : State C n) : Prop := ∃ closed, r = { s.replay with closed }

private theorem Keeps.replay {s t : State C n} (h : Keeps s t) : t.replay = s.replay := by
  unfold State.replay
  rw [h.input, h.titles]

private theorem Keeps.replay_skip {s t : State C n} (h : Keeps s t) (m : List Char) :
    (t.skip m).replay = (s.skip m).replay := by
  have hi : (t.skip m).input = (s.skip m).input := by
    unfold skip
    rw [h.input]
  have ht : (t.skip m).titles = (s.skip m).titles := h.titles
  unfold State.replay
  rw [hi, ht]

private theorem Keeps.shownBy {s t : State C n} {r : Replay} (h : Keeps s t) (hs : s.ShownBy r) : t.ShownBy r := by
  obtain ⟨closed, rfl⟩ := hs
  exact ⟨closed, by rw [h.replay]⟩

/-- What stands at the cursor can be read. -/
theorem ShownBy.read {s : State C n} {r : Replay} {m : List Char} (hs : s.ShownBy r) (hm : m ≠ [])
    (hp : m <+: s.input.current.rest) :
    r.read s.input.current.offset (String.ofList m).toList = some (s.skip m).replay := by
  rw [String.toList_ofList]
  obtain ⟨closed, rfl⟩ := hs
  have hr : s.replay.current.read? m = some (s.skip m).replay.current := Cursor.read?_reading hm hp
  refine (if_pos rfl).trans ?_
  show (s.replay.current.read? m).map _ = _
  rw [hr]
  rfl

/-- The active block is the innermost one of the replay. -/
theorem ShownBy.readIn {s : State C n} {r : Replay} {m : List Char} (hs : s.ShownBy r) (hm : m ≠ [])
    (hp : m <+: s.input.current.rest) :
    r.readIn s.active.name s.input.current.offset (String.ofList m).toList = some (s.skip m).replay := by
  have hn : r.opened.head?.map Prod.fst = some s.active.name := by
    obtain ⟨closed, rfl⟩ := hs
    show (s.titles.map _).head?.map Prod.fst = _
    rw [titles_eq]
    rfl
  rw [Replay.readIn, if_pos hn, hs.read hm hp]

/-! ### Accounts of what has been done -/

/-- The events so far can be replayed: to the replay of the state that has been reached, or up to a failure that is not
about an open block at the end of the input. -/
def Accounted (text : String) : Except (Failure C) (State C n) → Prop
  | .ok s => ∃ r, replay? text s.events.toList = some r ∧ s.ShownBy r
  | .error f => (∃ r, replay? text f.events.toList = some r) ∧ ∀ block offset, f.error ≠ .unterminated block offset

section

variable {text : String} {events : Array Event} {r : Replay}

private theorem Accounted.of_quiet {x : Except (Failure C) (State C n)} (hr : replay? text events.toList = some r)
    (hx : Quiet events State.events x) (hs : ∀ s, x = .ok s → s.ShownBy r) : Accounted text x := by
  cases x with
  | error f => exact ⟨⟨r, by rw [hx.1]; exact hr⟩, hx.2⟩
  | ok s =>
    have he : s.events = events := hx
    exact ⟨r, by rw [he]; exact hr, hs s rfl⟩

/-- A computation goes on from one that has added no events. -/
theorem Accounted.bind {f : α → Array Event} {x : Except (Failure C) α} {k : α → Except (Failure C) (State C n)}
    (hr : replay? text events.toList = some r) (hx : Quiet events f x)
    (hk : ∀ a, x = .ok a → f a = events → Accounted text (k a)) : Accounted text (x >>= k) := by
  cases x with
  | error e => exact ⟨⟨r, by rw [hx.1]; exact hr⟩, hx.2⟩
  | ok a => exact hk a rfl hx

/-- One more event. -/
theorem replay?_push {e : Event} {q : Replay} (hr : replay? text events.toList = some r) (he : r.step e = some q) :
    replay? text (events.push e).toList = some q := by
  rw [Array.toList_push, replay?_concat, hr]
  exact he

/-! ### Closing a block -/

/-- What has been given by the block that has just been closed is scanned. -/
private theorem accounted_scanAgain {s : State C n} {limit : Nat} {block output : String} {atEnd : Bool}
    (hr : replay? text s.events.toList = some { s.replay with closed := some block }) :
    Accounted text (s.scanAgain limit block output atEnd) := by
  unfold scanAgain
  split
  · exact ⟨⟨_, hr⟩, by simp⟩
  · refine ⟨{ s.replay with
      current := .ofString output, suspended := s.replay.current :: s.replay.suspended, closed := none }, ?_, none, ?_⟩
    · rw [events_modifyActive]
      have hd : s.input.depth + 1 = s.replay.suspended.length + 1 := by
        rw [Input.depth]
        exact congrArg (· + 1) (List.length_map _).symm
      exact replay?_push hr (if_pos ⟨rfl, hd⟩)
    · let t : State C n := { s.record (.reparse block output (s.input.depth + 1)) with
        input := s.input.suspend output, endReparses := if atEnd then s.endReparses + 1 else s.endReparses }
      have ht : (t.modifyActive (·.goOnAt 0)).replay = t.replay := Keeps.replay (Keeps.modifyActive rfl)
      show _ = (t.modifyActive (·.goOnAt 0)).replay
      rw [ht]
      rfl

/-- A block that is left is the innermost one of the replay. -/
private theorem leave_of_shownBy {s : State C n} {inner : OpenBlock C n} {outer : List (OpenBlock C n)}
    (ho : s.opened = inner :: outer) (hs : s.ShownBy r) :
    r.leave inner.name = some { ({ s with opened := outer } : State C n).replay with closed := some inner.name } := by
  have ht : s.titles = inner.title :: ({ s with opened := outer } : State C n).titles := by
    rw [titles, ho]
    rfl
  -- the root is below the block
  obtain ⟨b, bs, hb⟩ : ∃ b bs, ({ s with opened := outer } : State C n).titles = b :: bs := ⟨_, _, titles_eq _⟩
  obtain ⟨closed, rfl⟩ := hs
  unfold State.replay
  rw [ht, hb]
  exact if_pos rfl

private theorem step_leave {s : State C n} {stop : Option Delimiter} {inner : OpenBlock C n}
    {outer : List (OpenBlock C n)} (ho : s.opened = inner :: outer) (hs : s.ShownBy r)
    (hp : stop.elim [] Delimiter.chars <+: s.input.current.rest)
    (hn : stop = none → s.input.current.rest = [] ∧ s.input.suspended = []) :
    r.step (.exit s.input.current.offset inner.name (stop.map Delimiter.text)) =
      some { (s.leave stop inner outer).replay with closed := some inner.name } := by
  cases stop with
  | some d =>
    have hr : r.read s.input.current.offset d.text.toList = some (s.skip d.chars).replay := hs.read d.ne_nil hp
    show (r.read s.input.current.offset d.text.toList).bind _ = _
    rw [hr]
    exact leave_of_shownBy (s := s.skip d.chars) ho ⟨none, rfl⟩
  | none =>
    obtain ⟨hrest, hsus⟩ := hn rfl
    have he : s.input.current.reading.atEnd = true := Cursor.atEnd_reading hrest
    have hg : s.input.current.offset = r.current.offset ∧ r.current.atEnd = true ∧ r.suspended = [] := by
      obtain ⟨closed, rfl⟩ := hs
      exact ⟨rfl, he, List.map_eq_nil_iff.2 hsus⟩
    refine (if_pos hg).trans ?_
    have hl : s.leave none inner outer = ({ s with opened := outer } : State C n).record
        (.exit s.input.current.offset inner.name none) := by
      unfold leave
      show State.record _ { s.skip [] with opened := outer } = _
      rw [skip_nil]
      rfl
    rw [leave_of_shownBy ho hs, hl]
    rfl

private theorem accounted_close {s : State C n} {limit : Nat} {stop : Option Delimiter}
    (h : Accounted text (.ok s)) (ho : s.opened ≠ []) (hp : stop.elim [] Delimiter.chars <+: s.input.current.rest)
    (hn : stop = none → s.input.current.rest = [] ∧ s.input.suspended = []) :
    Accounted text (s.close limit stop) := by
  obtain ⟨r, hr, hs⟩ := h
  rw [close_eq]
  refine Accounted.bind hr (quiet_endRun .stop s) fun s₁ h₁ he₁ => ?_
  have hk := Keeps.endRun h₁
  cases hc : s₁.opened with
  | nil => exact absurd hc (hk.opened_ne_nil ho)
  | cons inner outer =>
    rw [← hk.input] at hp hn
    have hr₁ : replay? text (s₁.leave stop inner outer).events.toList =
        some { (s₁.leave stop inner outer).replay with closed := some inner.name } :=
      replay?_push (by rw [← he₁] at hr; exact hr) (step_leave hc (hk.shownBy hs) hp hn)
    refine Accounted.bind (f := (·.2.events)) hr₁ (quiet_output _ _) ?_
    rintro ⟨p, s₂⟩ h₂ he₂
    have hk₂ := Keeps.output h₂
    have hr₂ : replay? text s₂.events.toList = some { s₂.replay with closed := some inner.name } := by
      rw [he₂, hk₂.replay]
      exact hr₁
    dsimp only
    cases again? inner p with
    | some output => exact accounted_scanAgain hr₂
    | none => exact .of_quiet hr₂ (quiet_addResult p s₂) fun t ht => (Keeps.addResult ht).shownBy ⟨_, rfl⟩

/-! ### Steps -/

private theorem accounted_resume {s : State C n} {c : Cursor} {cs : List Cursor} (h : Accounted text (.ok s))
    (hr : s.input.current.rest = []) (hs : s.input.suspended = c :: cs) :
    Accounted text (.ok (s.resume ⟨c, cs⟩)) := by
  obtain ⟨r, hrep, closed, rfl⟩ := h
  have ht : (s.resume ⟨c, cs⟩).replay =
      { s.replay with current := c.reading, suspended := cs.map Cursor.reading } := (Keeps.resume ⟨c, cs⟩ s).replay
  have hsus : s.replay.suspended = c.reading :: cs.map Cursor.reading := by
    show s.input.suspended.map _ = _
    rw [hs]
    rfl
  refine ⟨(s.resume ⟨c, cs⟩).replay, ?_, none, rfl⟩
  rw [events_resume]
  refine replay?_push hrep ?_
  simp only [Replay.step, hsus]
  rw [ht]
  exact if_pos ⟨Cursor.atEnd_reading hr, rfl, (List.length_map _).symm⟩

/-- A move that has recorded an event about a text at the cursor, passes this text and opens no block. -/
private theorem Accounted.of_pass {s : State C n} {m : List Char} {e : Event} {x : Except (Failure C) (State C n)}
    (hr : replay? text s.events.toList = some r) (he : r.step e = some (s.skip m).replay)
    (hx : Quiet (s.record e).events State.events x)
    (hk : ∀ t, x = .ok t → ∃ u, Keeps s u ∧ t = (u.skip m).restartRun) : Accounted text x := by
  refine .of_quiet (replay?_push hr he) hx fun t ht => ?_
  obtain ⟨u, hu, rfl⟩ := hk t ht
  refine ⟨none, ?_⟩
  rw [(Keeps.restartRun _).replay, hu.replay_skip]
  rfl

private theorem accounted_enter {g : Grammar C} {name : String} {slot : Fin g.size} {start : Delimiter}
    {s : State C g.size} (hr : replay? text s.events.toList = some r) (hs : s.ShownBy r)
    (hp : start.chars <+: s.input.current.rest) : Accounted text (s.enter g name slot start) := by
  let e : Event := .enter s.input.current.offset name start.text
  have he : r.step e = some { (s.skip start.chars).replay with
      opened := (name, s.input.current.offset) :: (s.skip start.chars).replay.opened } := by
    show (r.read s.input.current.offset (String.ofList start.chars).toList).map _ = _
    rw [hs.read start.ne_nil hp]
    rfl
  unfold enter
  refine Accounted.bind (f := State.events) (replay?_push hr he) (quiet_endRunBefore (g.spec slot) (s.record e)) ?_
  intro t ht het
  have hk : Keeps s t := (Keeps.record e s).trans (.endRunBefore ht)
  refine ⟨_, ?_, none, rfl⟩
  show replay? text t.events.toList = _
  rw [het]
  refine (replay?_push hr he).trans (congrArg some ?_)
  rw [← hk.replay_skip]
  rfl

private theorem accounted_makeMove {g : Grammar C} {limit : Nat} {s : State C g.size} (h : Accounted text (.ok s))
    (hne : s.input.current.rest ≠ [])
    (hc : ∀ stop, nextMove g s.active.spec s.input.current.rest = .close stop → s.opened ≠ []) :
    Accounted text (s.makeMove g limit) := by
  have hp := recognised_isPrefix g s.active.spec s.input.current.rest
  obtain ⟨r, hr, hs⟩ := h
  unfold makeMove
  dsimp only
  cases hm : nextMove g s.active.spec s.input.current.rest with
  | escape escaped literal =>
    rw [hm] at hp
    let e : Event := .escape s.input.current.offset s.active.name escaped.text
    refine .of_pass (m := escaped.chars) (e := e) hr (hs.readIn escaped.ne_nil hp) ?_ ?_
    · exact (events_modifyActive _ _).trans ((events_modifyActive _ _).trans (events_modifyActive _ (s.record e)))
    · rintro t ht
      exact ⟨_, ((Keeps.record e s).trans (.collect _)).trans (.modifyActive rfl), (Except.ok.inj ht).symm⟩
  | close stop =>
    rw [hm] at hp
    exact accounted_close ⟨r, hr, hs⟩ (hc stop hm) hp (by simp)
  | enter name slot start =>
    rw [hm] at hp
    exact accounted_enter hr hs hp
  | split m token =>
    rw [hm] at hp
    let e : Event := .split s.input.current.offset s.active.name (String.ofList m.whole)
    refine .of_pass (m := m.whole) (e := e) hr (hs.readIn m.ne_nil hp) ?_ ?_
    · refine Quiet.bind (quiet_endRun .split (s.record e)) fun t _ ht => ?_
      exact (events_modifyActive _ _).trans ((events_modifyActive _ t).trans ht)
    · intro t ht
      obtain ⟨u, hu, ht⟩ := bind_eq_ok ht
      exact ⟨_, ((Keeps.record e s).trans (.endRun hu)).trans (.modifyActive (OpenBlock.title_split token _)),
        (Except.ok.inj ht).symm⟩
  | strip m =>
    rw [hm] at hp
    let e : Event := .strip s.input.current.offset s.active.name (String.ofList m.whole)
    refine .of_pass (m := m.whole) (e := e) hr (hs.readIn m.ne_nil hp) ?_ ?_
    · exact (events_modifyActive _ _).trans (events_modifyActive _ (s.record e))
    · rintro t ht
      exact ⟨_, (Keeps.record e s).trans (.collect _), (Except.ok.inj ht).symm⟩
  | char =>
    obtain ⟨c, rest, hrest⟩ := List.exists_cons_of_ne_nil hne
    have hn := Cursor.next?_eq_advance hrest
    have he : r.step (.char s.input.current.offset c s.active.name) = some (s.skip [c]).replay := by
      rw [← hs.readIn (by simp) (by rw [hrest]; exact ⟨rest, rfl⟩), String.toList_ofList]
      rfl
    simp only [hn]
    exact ⟨_, replay?_push hr he, none, rfl⟩

/-- What has come of a step is accounted for. At the end of the input nothing is recorded: there the scan is at its end,
or it fails because a block is open. -/
def AccountedStep (text : String) (s : State C n) : Progress C n → Prop
  | .ended _ => s.input.current.rest = [] ∧ s.input.suspended = []
  | .moved t => Accounted text (.ok t)
  | .failed f => Accounted text (.error f : Except (Failure C) (State C n)) ∨
      s.input.current.rest = [] ∧ s.input.suspended = [] ∧ ∃ inner outer, s.opened = inner :: outer ∧
        f = ⟨.unterminated inner.name inner.openedAt, s.context, s.events⟩

private theorem Accounted.step {s : State C n} {x : Except (Failure C) (State C n)} (h : Accounted text x) :
    AccountedStep text s (.of x) := by
  cases x with
  | error f => exact Or.inl h
  | ok t => exact h

/-- One step keeps the account of the events, and what a failure says is what the events show. -/
theorem Accounted.advance {g : Grammar C} (o : Options) {s : State C g.size} (h : Accounted text (.ok s))
    (hs : s.Sound g) (hg : g.root.stop = none) : AccountedStep text s (s.advance g o) := by
  unfold State.advance
  by_cases he : s.input.current.atEnd
  · have hr : s.input.current.rest = [] := by simpa [Cursor.atEnd] using he
    rw [if_pos he]
    cases hsus : s.input.suspended with
    | cons c cs =>
      have hi : s.input.resume? = some ⟨c, cs⟩ := by simp [Input.resume?, hsus]
      rw [hi]
      exact accounted_resume h hr hsus
    | nil =>
      have hi : s.input.resume? = none := by simp [Input.resume?, hsus]
      rw [hi]
      cases ho : s.opened with
      | nil => exact ⟨hr, hsus⟩
      | cons inner outer =>
        dsimp only
        cases o.unterminated with
        | error => exact Or.inr ⟨hr, hsus, inner, outer, ho, rfl⟩
        | close =>
          have hp : (none : Option Delimiter).elim [] Delimiter.chars <+: s.input.current.rest := List.nil_prefix
          exact (accounted_close h (by simp [ho]) hp fun _ => ⟨hr, hsus⟩).step
  · rw [if_neg he]
    have hr : s.input.current.rest ≠ [] := by simpa [Cursor.atEnd] using he
    exact (accounted_makeMove h hr fun _ hm => hs.opened_of_close hg hm).step

end

end State

/-! ### Scans -/

/-- What the replay of a scan has come to that has ended in this way: all of the text has been read if no handler and no
limit has kept the scan from it, and what is still open is the root alone, or the block of which the error tells. -/
def EndsWith (text : String) (r : Replay) : Except Error Part → Prop
  | .ok _ => r.current = ⟨text.toList, byteLength text.toList⟩ ∧ r.suspended = [] ∧ r.opened = [("root", 0)]
  | .error (.unterminated block offset) =>
    r.current = ⟨text.toList, byteLength text.toList⟩ ∧ r.suspended = [] ∧
      ∃ around, around ≠ [] ∧ r.opened = (block, offset) :: around
  | .error _ => True

private theorem endsWith_error {text : String} {r : Replay} {e : Error}
    (h : ∀ block offset, e ≠ .unterminated block offset) :
    EndsWith text r (.error e) := by
  cases e with
  | unterminated block offset => exact absurd rfl (h block offset)
  | handler => trivial
  | reparseLimit => trivial

namespace State

variable {text : String} {r : Replay}

/-- At the end of the input all of the text has been read. -/
private theorem current_of_atEnd {s : State C n} (hr : replay? text s.events.toList = some r) (hs : s.ShownBy r)
    (hrest : s.input.current.rest = []) (hsus : s.input.suspended = []) :
    r.current = ⟨text.toList, byteLength text.toList⟩ ∧ r.suspended = [] := by
  have hb := Replay.bottom_replay? hr
  obtain ⟨closed, rfl⟩ := hs
  have hn : s.replay.suspended = [] := List.map_eq_nil_iff.2 hsus
  have ht : s.input.current.reading.text = text.toList := by
    rw [← hb, Replay.bottom]
    show _ = (s.replay.suspended.getLastD s.replay.current).text
    rw [hn]
    rfl
  have ho : s.input.current.reading.offset = byteLength text.toList := by
    rw [← ht]
    exact of_decide_eq_true (Cursor.atEnd_reading hrest)
  refine ⟨?_, hn⟩
  show s.input.current.reading = _
  rw [← ho, ← ht]

private theorem endsWith_outcome {g : Grammar C} {o : Options} (hg : g.root.stop = none) (s : State C g.size)
    (hd : s.input.depth ≤ o.maxReparseDepth) (hs : s.Sound g) (h : Accounted text (.ok s)) :
    ∃ r, replay? text (s.outcome g o hd).events.toList = some r ∧ EndsWith text r (s.outcome g o hd).result := by
  have ha := h.advance o hs hg
  match hm : s.advance g o with
  | .moved t =>
    rw [hm] at ha
    rw [outcome_moved hd hm]
    exact endsWith_outcome hg t (depth_advance hd hm) (hs.advance hm) ha
  | .failed f =>
    rw [hm] at ha
    rw [outcome_failed hd hm]
    rcases ha with ⟨⟨r, hr⟩, hf⟩ | ⟨hrest, hsus, inner, outer, ho, rfl⟩
    · exact ⟨r, hr, endsWith_error hf⟩
    · obtain ⟨r, hr, hsh⟩ := h
      obtain ⟨hcur, hsusp⟩ := current_of_atEnd hr hsh hrest hsus
      refine ⟨r, hr, hcur, hsusp, (outer ++ [s.root]).map fun b => (b.name, b.openedAt), by simp, ?_⟩
      obtain ⟨closed, rfl⟩ := hsh
      show s.titles.map _ = _
      rw [titles, ho]
      simp [OpenBlock.title]
  | .ended t =>
    rw [hm] at ha
    obtain ⟨hrest, hsus⟩ := ha
    obtain ⟨r, hr, hsh⟩ := h
    rw [outcome_of_ended hd hm]
    have hq := quiet_endRun .stop s
    cases hx : s.endRun .stop with
    | error f =>
      rw [hx] at hq
      have he : f.events = s.events := hq.1
      dsimp only
      exact ⟨r, by rw [he]; exact hr, endsWith_error hq.2⟩
    | ok u =>
      rw [hx] at hq
      have he : u.events = s.events := hq
      dsimp only
      obtain ⟨hcur, hsusp⟩ := current_of_atEnd hr hsh hrest hsus
      refine ⟨r, by rw [he]; exact hr, hcur, hsusp, ?_⟩
      obtain ⟨closed, rfl⟩ := hsh
      show s.titles.map _ = _
      rw [titles, (advance_eq_ended hm).2]
      show [(s.root.title.1, s.root.title.2.2)] = _
      rw [hs.root]
      rfl
termination_by measure o.maxReparseDepth s
decreasing_by exact advance_lt hd hm

end State

/-- The events of a scan can be replayed from its text alone, without the grammar, its handlers and the options. Every
event fits: it is about what stands in the current text at its offset, in the block that is open; blocks are closed in the
reverse order of their opening, and texts are taken up again in the reverse order of their suspension. In the end all of
the text has been read, and no block is open but the root, or the one of which an error tells.

A text is taken up again as soon as the one above it has been used up. Only the output of a block that has just been
closed is scanned before. -/
theorem replay?_scan {d : Definition C} {g : Grammar C} (hg : d.resolve = .ok g) (o : Options) (text : String)
    (context : C) :
    (∃ r, replay? text (recorded true (scan g o text context).events.toList) = some r ∧
      EndsWith text r (scan g o text context).result) ∧
    ∀ before e after, recorded true (scan g o text context).events.toList = before ++ e :: after →
      ∃ r, replay? text before = some r ∧ (r.current.atEnd = true → r.suspended ≠ [] →
        (∃ offset depth, e = .resume offset depth) ∨
          ∃ block output depth, e = .reparse block output depth ∧ r.closed = some block) := by
  have hrec : recorded true (scan g o text context).events.toList = (scan g o text context).events.toList := by
    simp [recorded]
  have hstart : State.Accounted text (.ok (.start g text context)) := ⟨.start text, rfl, none, rfl⟩
  have hroot := (Definition.root_of_resolve hg).2
  obtain ⟨r, hr, he⟩ := State.endsWith_outcome (o := o) hroot (.start g text context) (Nat.zero_le _)
    (.start g text context) hstart
  rw [hrec]
  refine ⟨⟨r, hr, he⟩, fun before e after hs => ?_⟩
  have hr : replay? text (before ++ e :: after) = some r := hs ▸ hr
  obtain ⟨q, hq, hr⟩ := exists_replay?_of_prefix hr
  rw [List.foldlM_cons] at hr
  obtain ⟨q', hstep, -⟩ := Option.bind_eq_some_iff.1 hr
  exact ⟨q, hq, Replay.resume_of_step hstep⟩

/-- A list is opened in a text that is scanned again, and is still open at the end of the text around it. -/
theorem replay?_scan_brackets :
    ∃ g : Grammar Nat, brackets.resolve = .ok g ∧
      (scan g {} "é[x(]y" 0).result = .error (.unterminated "list" 1) ∧
      (∃ r, replay? "é[x(]y" (recorded true (scan g {} "é[x(]y" 0).events.toList) = some r ∧
        EndsWith "é[x(]y" r (.error (.unterminated "list" 1))) ∧
      ∀ before e after, recorded true (scan g {} "é[x(]y" 0).events.toList = before ++ e :: after →
        ∃ r, replay? "é[x(]y" before = some r ∧ (r.current.atEnd = true → r.suspended ≠ [] →
          (∃ offset depth, e = .resume offset depth) ∨
            ∃ block output depth, e = .reparse block output depth ∧ r.closed = some block) := by
  have h : brackets.resolvesTo (fun g => decide ((scan g {} "é[x(]y" 0).result =
      (.error (.unterminated "list" 1) : Except Error Part))) = true := by
    cbv
  obtain ⟨g, hg, h⟩ := Definition.exists_of_resolvesTo h
  have hres := of_decide_eq_true h
  have hr := replay?_scan hg {} "é[x(]y" 0
  rw [hres] at hr
  exact ⟨g, hg, hres, hr⟩

end Delimited.Scan
