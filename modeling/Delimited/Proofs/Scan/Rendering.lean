import Mathlib
import Delimited.Proofs.Scan.Events
import Delimited.Proofs.Trace.Lines

/-!
# Rendered traces of scans

The events of a scan name no blocks but the root and those that are nested in some block of the grammar
(`within_scan`). This is kept by every step, together with the same for the names of the open blocks (`Told.advance`).
So it is for the names in the grammar to say how many lines a rendered trace has (`lines_of_trace`).
-/

namespace Delimited.Scan

variable {C : Type} {α : Type}

/-! ### The names of a grammar -/

/-- The name of the root, or that of a nested block. -/
def BlockName (g : Grammar C) (name : String) : Prop :=
  name = OpenBlock.rootName ∨ ∃ slot, ∃ b ∈ (g.spec slot).blocks, b.1 = name

/-- The events name no blocks but those of the grammar. -/
def Within (g : Grammar C) (events : Array Event) : Prop := ∀ e ∈ events, ∀ block ∈ e.block?, BlockName g block

variable {g : Grammar C}

private theorem Within.push {events : Array Event} (h : Within g events) {e : Event}
    (he : ∀ block ∈ e.block?, BlockName g block) : Within g (events.push e) := by
  intro k hk
  rcases Array.mem_push.1 hk with hk | rfl
  · exact h k hk
  · exact he

namespace State

/-- The open blocks have names of the grammar, and no events have named others. -/
structure Told (g : Grammar C) (s : State C g.size) : Prop where
  names : ∀ t ∈ s.titles, BlockName g t.1
  events : Within g s.events

private theorem Told.start (g : Grammar C) (text : String) (context : C) : Told g (.start g text context) := by
  refine ⟨?_, fun e he => absurd he (by simp [State.start])⟩
  intro t ht
  obtain rfl : t = (OpenBlock.rootName, g.root, 0) := by
    simpa [titles, State.start, OpenBlock.title, OpenBlock.root] using ht
  exact Or.inl rfl

variable {s t : State C g.size}

private theorem Told.active (h : Told g s) : BlockName g s.active.name :=
  h.names s.active.title (by rw [titles_eq]; exact List.mem_cons_self)

/-- An event about the active block. -/
theorem Told.record (h : Told g s) {e : Event} (he : ∀ block ∈ e.block?, block = s.active.name) : Told g (s.record e) :=
  ⟨h.names, h.events.push fun block hb => he block hb ▸ h.active⟩

/-- What has been told when a computation has gone through, or has failed. -/
def ToldBy (g : Grammar C) : Except (Failure C) (State C g.size) → Prop
  | .ok s => Told g s
  | .error f => Within g f.events

/-- A computation goes on from one that has added no events. -/
theorem ToldBy.bind {f : α → Array Event} {events : Array Event} {x : Except (Failure C) α}
    {k : α → Except (Failure C) (State C g.size)} (he : Within g events) (hx : Quiet events f x)
    (hk : ∀ a, x = .ok a → Within g (f a) → ToldBy g (k a)) : ToldBy g (x >>= k) := by
  cases x with
  | error e =>
    show Within g e.events
    rw [hx.1]
    exact he
  | ok a =>
    have hf : f a = events := hx
    exact hk a rfl (by rw [hf]; exact he)

/-- A computation that adds no events and leaves the open blocks alone. -/
theorem ToldBy.of_quiet {x : Except (Failure C) (State C g.size)} (h : Told g s) (hx : Quiet s.events State.events x)
    (hk : ∀ t, x = .ok t → t.titles = s.titles) : ToldBy g x := by
  cases x with
  | error e =>
    show Within g e.events
    rw [hx.1]
    exact h.events
  | ok t =>
    have ht : t.events = s.events := hx
    exact ⟨by rw [hk t rfl]; exact h.names, by rw [ht]; exact h.events⟩

private theorem told_endRun (h : Told g s) (k : Boundary) : ToldBy g (s.endRun k) :=
  .of_quiet h (quiet_endRun k s) fun _ ht => (Keeps.endRun ht).titles

/-- Going on from a computation that keeps what has been told. -/
theorem ToldBy.andThen {x : Except (Failure C) (State C g.size)} {k : State C g.size → Except (Failure C) (State C g.size)}
    (h : ToldBy g x) (hk : ∀ t, x = .ok t → Told g t → ToldBy g (k t)) : ToldBy g (x >>= k) := by
  cases x with
  | error e => exact h
  | ok t => exact hk t rfl h

private theorem told_scanAgain {block text : String} (h : Told g s) (hb : BlockName g block) (limit : Nat)
    (atEnd : Bool) :
    ToldBy g (s.scanAgain limit block text atEnd) := by
  have he : Within g (s.events.push (.reparse block text (s.input.depth + 1))) :=
    h.events.push fun _ hk => Option.some.inj hk ▸ hb
  unfold scanAgain
  split
  · exact h.events
  · refine ⟨?_, by rw [events_modifyActive]; exact he⟩
    rw [(Keeps.modifyActive rfl).titles]
    exact h.names

/-- The block that is closed has been open. -/
private theorem told_close (limit : Nat) (stop : Option Delimiter) (h : Told g s) : ToldBy g (s.close limit stop) := by
  rw [close_eq]
  refine (told_endRun h .stop).andThen fun s₁ _ h₁ => ?_
  cases ho : s₁.opened with
  | nil => exact (⟨h₁.names, h₁.events⟩ : Told g (s₁.skip _))
  | cons inner outer =>
    have hnames : ∀ t ∈ inner.title :: (s₁.leave stop inner outer).titles, BlockName g t.1 := by
      have ht : s₁.titles = inner.title :: (s₁.leave stop inner outer).titles := by
        rw [titles, ho]
        rfl
      rw [← ht]
      exact h₁.names
    obtain ⟨hinner, hrest⟩ := List.forall_mem_cons.1 hnames
    have hleave : Told g (s₁.leave stop inner outer) :=
      ⟨hrest, h₁.events.push fun block hb => Option.some.inj hb ▸ hinner⟩
    refine ToldBy.bind hleave.events (quiet_output _ _) ?_
    rintro ⟨p, s₂⟩ h₂ he₂
    have hs₂ : Told g s₂ := ⟨by rw [(Keeps.output h₂).titles]; exact hrest, he₂⟩
    dsimp only
    cases again? inner p with
    | none => exact .of_quiet hs₂ (quiet_addResult p s₂) fun _ ht => (Keeps.addResult ht).titles
    | some text => exact told_scanAgain hs₂ hinner limit stop.isNone

/-- A move that records an event about the active block and then leaves the open blocks alone. -/
private theorem told_pass {e : Event} {x : Except (Failure C) (State C g.size)} (h : Told g s)
    (he : ∀ block ∈ e.block?, block = s.active.name) (hx : Quiet (s.record e).events State.events x)
    (hk : ∀ t, x = .ok t → ∃ u, Keeps s u ∧ t.titles = u.titles) : ToldBy g x := by
  refine .of_quiet (h.record he) hx fun t ht => ?_
  obtain ⟨u, hu, htu⟩ := hk t ht
  exact htu.trans hu.titles

/-- The block that is entered is nested in the active one. -/
private theorem told_makeMove (limit : Nat) (h : Told g s) (hs : s.Sound g) : ToldBy g (s.makeMove g limit) := by
  have hsource := nextMove_source g s.active.spec s.input.current.rest
  unfold makeMove
  dsimp only
  cases hm : nextMove g s.active.spec s.input.current.rest with
  | escape escaped literal =>
    refine told_pass h (e := .escape s.input.current.offset s.active.name escaped.text) (by simp [Event.block?]) ?_ ?_
    · exact (events_modifyActive _ _).trans ((events_modifyActive _ _).trans (events_modifyActive _ (s.record _)))
    · rintro t ht
      obtain rfl := Except.ok.inj ht
      exact ⟨_, ((Keeps.record _ s).trans (.collect _)).trans (.modifyActive rfl), (Keeps.restartRun _).titles⟩
  | close stop => exact told_close limit (some stop) h
  | enter name slot start =>
    rw [hm] at hsource
    obtain ⟨k, hk⟩ := hs.active_spec
    have hname : BlockName g name := Or.inr ⟨k, (name, slot), hk ▸ hsource.1, rfl⟩
    let e : Event := .enter s.input.current.offset name start.text
    have he : Within g (s.record e).events := h.events.push fun block hb => Option.some.inj hb ▸ hname
    refine ToldBy.bind he (quiet_endRunBefore (g.spec slot) (s.record e)) fun t ht het => ?_
    have htitles : t.titles = s.titles := ((Keeps.record e s).trans (.endRunBefore ht)).titles
    have hnames : ∀ u ∈ t.titles, BlockName g u.1 := htitles ▸ h.names
    exact ⟨List.forall_mem_cons.2 ⟨hname, hnames⟩, het⟩
  | split m token =>
    refine told_pass h (e := .split s.input.current.offset s.active.name (String.ofList m.whole))
      (by simp [Event.block?]) ?_ ?_
    · refine Quiet.bind (quiet_endRun .split _) fun t _ ht => ?_
      exact (events_modifyActive _ _).trans ((events_modifyActive _ t).trans ht)
    · intro t ht
      obtain ⟨u, hu, ht⟩ := bind_eq_ok ht
      obtain rfl := Except.ok.inj ht
      exact ⟨_, ((Keeps.record _ s).trans (.endRun hu)).trans (.modifyActive (OpenBlock.title_split token _)),
        (Keeps.restartRun _).titles⟩
  | strip m =>
    refine told_pass h (e := .strip s.input.current.offset s.active.name (String.ofList m.whole))
      (by simp [Event.block?]) ?_ ?_
    · exact (events_modifyActive _ _).trans (events_modifyActive _ (s.record _))
    · rintro t ht
      obtain rfl := Except.ok.inj ht
      exact ⟨_, (Keeps.record _ s).trans (.collect _), (Keeps.restartRun _).titles⟩
  | char =>
    dsimp only
    split
    · exact ⟨h.names, h.events.push fun block hb => Option.some.inj hb ▸ h.active⟩
    · exact h

/-- What has been told when a step has been taken, has failed, or is not there to be taken. -/
def ToldAfter (g : Grammar C) : Progress C g.size → Prop
  | .ended t => Told g t
  | .moved t => Told g t
  | .failed f => Within g f.events

private theorem ToldBy.step {x : Except (Failure C) (State C g.size)} (h : ToldBy g x) : ToldAfter g (.of x) := by
  cases x with
  | error f => exact h
  | ok t => exact h

private theorem told_resume (h : Told g s) (input : Input) : Told g (s.resume input) := by
  have ht : (s.resume input).titles = s.titles := (Keeps.resume input s).titles
  exact ⟨by rw [ht]; exact h.names, by rw [events_resume]; exact h.events.push fun _ hb => by cases hb⟩

/-- One step tells of the blocks of the grammar only. -/
theorem Told.advance (o : Options) (h : Told g s) (hs : s.Sound g) : ToldAfter g (s.advance g o) := by
  unfold State.advance
  split
  · split
    · exact told_resume h _
    · split
      · exact h
      · split
        · exact h.events
        · exact (told_close o.maxReparseDepth none h).step
  · exact (told_makeMove o.maxReparseDepth h hs).step

private theorem within_outcome {o : Options} (s : State C g.size) (hd : s.input.depth ≤ o.maxReparseDepth)
    (h : Told g s) (hs : s.Sound g) : Within g (s.outcome g o hd).events := by
  have ha := h.advance o hs
  match hm : s.advance g o with
  | .moved t =>
    rw [hm] at ha
    rw [outcome_moved hd hm]
    exact within_outcome t (depth_advance hd hm) ha (hs.advance hm)
  | .failed f =>
    rw [hm] at ha
    rw [outcome_failed hd hm]
    exact ha
  | .ended t =>
    have hend := told_endRun h .stop
    rw [outcome_of_ended hd hm]
    cases hx : s.endRun .stop with
    | error f =>
      rw [hx] at hend
      exact hend
    | ok u =>
      rw [hx] at hend
      exact hend.events
termination_by measure o.maxReparseDepth s
decreasing_by exact advance_lt hd hm

end State

/-- The events of a scan name no blocks but those of the grammar. -/
theorem within_scan (g : Grammar C) (o : Options) (text : String) (context : C) :
    Within g (scan g o text context).events :=
  State.within_outcome (.start g text context) (State.depth_start_le g o text context) (.start g text context)
    (.start g text context)

/-- A recorder that holds events of a scan renders as many lines as there are events, and one more for each line feed in
the name of a block that an event names. The lines are the descriptions of the events just when there is no such line
feed; and there is none when no block that is nested in a block of the grammar has one in its name. -/
theorem lines_of_trace (g : Grammar C) (o : Options) (text : String) (context : C) (characters : Bool)
    (hne : recorded characters (scan g o text context).events.toList ≠ []) :
    let events := recorded characters (scan g o text context).events.toList
    let lines := (render events).toList.splitOn '\n'
    lines.length = events.length + (events.map Event.lineFeeds).sum ∧
    (lines = events.map (·.describe.toList) ↔ ∀ e ∈ events, ∀ block ∈ e.block?, '\n' ∉ block.toList) ∧
    ((∀ slot, ∀ b ∈ (g.spec slot).blocks, '\n' ∉ b.1.toList) → lines = events.map (·.describe.toList)) := by
  refine ⟨length_splitOn_render hne, splitOn_render_iff hne, fun hnames => (splitOn_render_iff hne).2 ?_⟩
  intro e he block hb
  have he : e ∈ (scan g o text context).events := by simpa using List.mem_of_mem_filter he
  rcases within_scan g o text context e he block hb with rfl | ⟨slot, b, hmem, rfl⟩
  · decide
  · exact hnames slot b hmem

/-- A line feed in the text breaks no line. -/
theorem lines_of_trace_lineFeed :
    ∃ g : Grammar Nat, brackets.resolve = .ok g ∧
      recorded true (scan g {} "a\n[\n]" 0).events.toList ≠ [] ∧
      (∀ slot, ∀ b ∈ (g.spec slot).blocks, '\n' ∉ b.1.toList) ∧
      (render (recorded true (scan g {} "a\n[\n]" 0).events.toList)).toList.splitOn '\n' =
        (recorded true (scan g {} "a\n[\n]" 0).events.toList).map (·.describe.toList) := by
  have h : brackets.resolvesTo (fun g => decide (recorded true (scan g {} "a\n[\n]" 0).events.toList ≠ [] ∧
      ∀ slot, ∀ b ∈ (g.spec slot).blocks, '\n' ∉ b.1.toList)) = true := by
    cbv
  obtain ⟨g, hg, h⟩ := Definition.exists_of_resolvesTo h
  obtain ⟨hne, hnames⟩ := of_decide_eq_true h
  obtain ⟨-, -, hlines⟩ := lines_of_trace g {} "a\n[\n]" 0 true hne
  exact ⟨g, hg, hne, hnames, hlines hnames⟩

/-- Lists in parentheses whose name is on two lines. -/
def twoLineName : Definition Unit :=
  .mk {} none [("a\nb", .inline (.mk { start := some "(", stop := some ")" } none []))]

/-- A name on two lines puts each of two events on two lines. -/
theorem lines_of_twoLineName :
    ∃ g : Grammar Unit, twoLineName.resolve = .ok g ∧
      recorded false (scan g {} "(x)" ()).events.toList = [.enter 0 "a\nb" "(", .exit 2 "a\nb" (some ")")] ∧
      ((render (recorded false (scan g {} "(x)" ()).events.toList)).toList.splitOn '\n').length = 4 := by
  have h : twoLineName.resolvesTo (fun g => decide (recorded false (scan g {} "(x)" ()).events.toList =
      [.enter 0 "a\nb" "(", .exit 2 "a\nb" (some ")")])) = true := by
    cbv
  obtain ⟨g, hg, h⟩ := Definition.exists_of_resolvesTo h
  have he := of_decide_eq_true h
  refine ⟨g, hg, he, ?_⟩
  rw [he, length_splitOn_render (List.cons_ne_nil _ _)]
  decide

end Delimited.Scan
