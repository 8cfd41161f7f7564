import Mathlib
import Delimited.Proofs.Scan.Run

/-!
# The text of a result

In a grammar without handlers the text of the result is made of what each step of the scan keeps, in the order of the
steps (`flattenText_scan`). While the scan runs, text is in three places: in the parts of the open blocks, in their runs,
and in what is left of the input. The text of the blocks, outermost first, grows with every step by what the step keeps
(`Situation.Grown`), and the text of the result is that of the root in the end.

A grammar is `Faithful` when every step keeps all that it consumes. Then the text of the result is the text that has been
scanned.
-/

namespace Delimited.Scan

variable {C : Type} {n : Nat}

/-! ### What a step keeps -/

/-- What a step in a block consumes, when this is left of the text. At the end of the text there is nothing to consume. -/
def consumed (g : Grammar C) (s : Spec C g.size) : List Char → List Char
  | [] => []
  | c :: rest =>
    match nextMove g s (c :: rest) with
    | .char => [c]
    | m => m.recognised

/-- What a step in a block adds to the text of the result, when this is left of the text. A block that is closed at the end
of the text has no stop to keep. -/
def kept (g : Grammar C) (s : Spec C g.size) : List Char → String
  | [] => ""
  | c :: rest =>
    match nextMove g s (c :: rest) with
    | .char => String.ofList [c]
    | .escape _ literal => literal.text
    | .enter _ slot start => if (g.spec slot).keepDelimiters then start.text else ""
    | .close stop => if s.keepDelimiters then stop.text else ""
    | .split _ token => token.getD ""
    | .strip _ => ""

/-- A grammar in which every step keeps what it consumes: nested blocks keep their delimiters, splits are kept whole,
nothing is stripped, and escapes stand for themselves. -/
structure Faithful (g : Grammar C) : Prop where
  delimiters : ∀ slot, slot ≠ g.rootSlot → (g.spec slot).keepDelimiters = true
  split : ∀ slot, (g.spec slot).split.isSome = true → (g.spec slot).storeSplit = .whole
  strip : ∀ slot, (g.spec slot).strip = []
  escapes : ∀ slot, (g.spec slot).replaceEscapes = false

/-- What a step takes stands at the start of what is left. -/
theorem consumed_isPrefix (g : Grammar C) (s : Spec C g.size) (rest : List Char) : consumed g s rest <+: rest := by
  cases rest with
  | nil => exact List.nil_prefix
  | cons c rest =>
    have hp := recognised_isPrefix g s (c :: rest)
    unfold consumed
    dsimp only
    split
    · exact ⟨rest, rfl⟩
    · exact hp

/-- In a faithful grammar a step keeps what it consumes. -/
theorem Faithful.kept_eq {g : Grammar C} (hf : Faithful g) (hroot : g.root.start = none ∧ g.root.stop = none)
    (slot : Fin g.size) (rest : List Char) :
    kept g (g.spec slot) rest = String.ofList (consumed g (g.spec slot) rest) := by
  -- a block with a delimiter is not the root
  have hkeep : ∀ k : Fin g.size, (g.spec k).start ≠ none ∨ (g.spec k).stop ≠ none →
      (g.spec k).keepDelimiters = true := by
    intro k hk
    refine hf.delimiters k ?_
    rintro rfl
    exact hk.elim (fun h => h hroot.1) fun h => h hroot.2
  cases rest with
  | nil => rfl
  | cons c rest =>
    have hs := nextMove_source g (g.spec slot) (c :: rest)
    unfold kept consumed
    dsimp only
    cases hm : nextMove g (g.spec slot) (c :: rest) with
    | char => rfl
    | escape escaped literal =>
      rw [hm] at hs
      rcases hs with ⟨-, hl⟩ | ⟨b, -, -, hl⟩
      all_goals
        rw [hf.escapes] at hl
        rw [hl]
        rfl
    | close stop =>
      rw [hm] at hs
      have hs : (g.spec slot).stop = some stop := hs
      exact if_pos (hkeep slot (Or.inr (by rw [hs]; simp)))
    | enter name k start =>
      rw [hm] at hs
      exact if_pos (hkeep k (Or.inl (by rw [hs.2]; simp)))
    | split m token =>
      rw [hm] at hs
      obtain ⟨r, hr, -, rfl⟩ := hs
      rw [hf.split slot (by rw [hr]; rfl)]
      rfl
    | strip m =>
      rw [hm] at hs
      obtain ⟨r, hr, -⟩ := hs
      rw [hf.strip] at hr
      cases hr

/-! ### The text of open blocks -/

namespace OpenBlock

/-- All text of the block: that of its parts, and its run. -/
def flatText (b : OpenBlock C n) : String := Part.flattenTextAll b.parts.toList ++ b.run

@[simp] theorem flatText_goOnAt (i : Nat) (b : OpenBlock C n) : (b.goOnAt i).flatText = b.flatText := rfl

@[simp] theorem flatText_addText (s : String) (b : OpenBlock C n) : (b.addText s).flatText = b.flatText ++ s :=
  String.append_assoc.symm

private theorem flattenText_result {b : OpenBlock C n} (h : b.run = "") : b.result.flattenText = b.flatText := by
  unfold result flatText
  rw [Part.flattenText_assemble, h, String.append_empty]

/-- A part is added behind a run that is empty. -/
theorem flatText_addToken {b : OpenBlock C n} (h : b.run = "") (p : Part) :
    (b.addToken p).flatText = b.flatText ++ p.flattenText := by
  simp [flatText, addToken, h]

private theorem flatText_addValue {b : OpenBlock C n} (h : b.run = "") (p : Part) :
    (b.addValue p).flatText = b.flatText ++ p.flattenText := flatText_addToken h p

private theorem run_addStop (stop : Option Delimiter) (b : OpenBlock C n) : (b.addStop stop).run = b.run := by
  cases stop with
  | none => rfl
  | some d => by_cases hk : b.spec.keepDelimiters <;> simp [addStop, hk, addToken]

private theorem flatText_addStop {b : OpenBlock C n} (h : b.run = "") (stop : Option Delimiter) :
    (b.addStop stop).flatText = b.flatText ++ if b.spec.keepDelimiters then stop.elim "" Delimiter.text else "" := by
  cases stop with
  | none => simp [addStop]
  | some d =>
    by_cases hk : b.spec.keepDelimiters
    · simp [addStop, hk, flatText_addToken h, Part.flattenText]
    · simp [addStop, hk]

private theorem flatText_addKept {b : OpenBlock C n} (h : b.run = "") (token : Option String) :
    (b.addKept token).endSegment.flatText = b.flatText ++ token.getD "" := by
  cases token with
  | none => simp [addKept, endSegment, flatText]
  | some t => exact flatText_addToken h (.text t)

private theorem flatText_enter (name : String) (spec : Spec C n) (offset : Nat) (start : Delimiter) :
    (OpenBlock.enter name spec offset start).flatText = if spec.keepDelimiters then start.text else "" := by
  by_cases hk : spec.keepDelimiters <;> simp [enter, flatText, hk, Part.flattenTextAll, Part.flattenText]

/-- Ending the run moves it to the parts. -/
@[simp] theorem flatText_endRun (k : Boundary) (b : OpenBlock C n) : (b.endRun k).flatText = b.flatText := by
  rcases endRun_cases k b with h | ⟨h, -⟩
  · rw [h]
    simp [flatText, addValue, Part.flattenText]
  · rw [h]

end OpenBlock

/-! ### Every step keeps what it should -/

/-- All text of open blocks, the outermost one last in the list. -/
def flatTextAll : List (OpenBlock C n) → String
  | [] => ""
  | b :: around => flatTextAll around ++ b.flatText

namespace Situation

/-- All text of the open blocks, outermost first. -/
def flatText (s : Situation C n) : String := flatTextAll (s.active :: s.around)

/-- No open block has a handler, and so no text has been suspended. -/
structure Unhandled (s : Situation C n) : Prop where
  suspended : s.suspended = []
  handler : ∀ b ∈ s.active :: s.around, b.spec.handler = none

/-- The second situation is without handlers like the first one. Its blocks have grown by a text, and what has been
consumed is gone. -/
structure Grown (s : Situation C n) (text : String) (m : List Char) (t : Situation C n) : Prop where
  unhandled : t.Unhandled
  flatText : t.flatText = s.flatText ++ text
  text : t.text = s.text.skip m

namespace Unhandled

variable {s : Situation C n}

/-- The active block grows. -/
theorem grown {b : OpenBlock C n} (h : s.Unhandled) {text : String} (m : List Char)
    (hb : b.spec.handler = s.active.spec.handler) (ht : b.flatText = s.active.flatText ++ text) :
    s.Grown text m { s with text := s.text.skip m, active := b } := by
  refine ⟨⟨h.suspended, ?_⟩, ?_, rfl⟩
  · intro c hc
    rcases List.mem_cons.1 hc with rfl | hc
    · exact hb.trans (h.handler _ List.mem_cons_self)
    · exact h.handler c (List.mem_cons_of_mem _ hc)
  · show flatTextAll s.around ++ b.flatText = _
    rw [ht]
    exact String.append_assoc.symm

/-- What a block that closes keeps goes to the one around it. -/
theorem close {outer : OpenBlock C n} {around : List (OpenBlock C n)} (h : s.Unhandled)
    (ha : s.around = outer :: around) (limit : Nat) (stop : Option Delimiter) :
    ∃ t, s.close limit stop = pure t ∧
      s.Grown (if s.active.spec.keepDelimiters then stop.elim "" Delimiter.text else "")
        (stop.elim [] Delimiter.chars) t := by
  have hspec : ∀ c ∈ outer :: around, c.spec.handler = none := by
    rw [← ha]
    exact fun c hc => h.handler c (List.mem_cons_of_mem _ hc)
  have ho : outer.spec.handler = none := hspec outer List.mem_cons_self
  refine ⟨_, close_eq ha (h.handler _ List.mem_cons_self) ho limit stop, ⟨h.suspended, ?_⟩, ?_, rfl⟩
  · intro c hc
    rcases List.mem_cons.1 hc with rfl | hc
    · show (outer.endRun .block).spec.handler = none
      rwa [OpenBlock.spec_endRun]
    · exact hspec c (List.mem_cons_of_mem _ hc)
  · have hr : ((s.active.endRun .stop).addStop stop).run = "" :=
      (OpenBlock.run_addStop stop _).trans (OpenBlock.run_endRun .stop _)
    show flatTextAll around ++ ((outer.endRun .block).addValue _).flatText = flatTextAll (s.active :: s.around) ++ _
    rw [ha, flatTextAll, flatTextAll, OpenBlock.flatText_addValue (OpenBlock.run_endRun .block outer),
      OpenBlock.flattenText_result hr, OpenBlock.flatText_addStop (OpenBlock.run_endRun .stop _),
      OpenBlock.flatText_endRun, OpenBlock.flatText_endRun, OpenBlock.spec_endRun]
    simp only [String.append_assoc]

/-- At the end the result has all text of the root. -/
theorem finish (h : s.Unhandled) (ha : s.around = []) : ∃ p, s.finish = pure p ∧ p.flattenText = s.flatText := by
  refine ⟨_, finish_eq (h.handler _ List.mem_cons_self), ?_⟩
  rw [OpenBlock.flattenText_result (OpenBlock.run_endRun .stop _), OpenBlock.flatText_endRun, flatText, ha, flatTextAll,
    flatTextAll, String.empty_append]

private theorem enter {g : Grammar C} {s : Situation C g.size} (h : s.Unhandled)
    (hg : ∀ slot, (g.spec slot).handler = none)
    (name : String) (slot : Fin g.size) (start : Delimiter) :
    ∃ t, s.enter g name slot start = pure t ∧
      s.Grown (if (g.spec slot).keepDelimiters then start.text else "") start.chars t := by
  have ha : s.active.spec.handler = none := h.handler _ List.mem_cons_self
  refine ⟨_, enter_eq ha (hg slot) name start, ⟨h.suspended, ?_⟩, ?_, rfl⟩
  · intro c hc
    rcases List.mem_cons.1 hc with rfl | hc
    · exact hg slot
    · rcases List.mem_cons.1 hc with rfl | hc
      · rwa [OpenBlock.spec_endRun]
      · exact h.handler c (List.mem_cons_of_mem _ hc)
  · show flatTextAll s.around ++ (s.active.endRun .block).flatText ++ (OpenBlock.goOnAt 0 _).flatText =
      flatTextAll (s.active :: s.around) ++ _
    rw [OpenBlock.flatText_goOnAt, OpenBlock.flatText_enter, OpenBlock.flatText_endRun, flatTextAll]

/-- In front of a text every move goes through, and keeps what it should. -/
theorem makeMove {g : Grammar C} {s : Situation C g.size} (h : s.Unhandled) (hg : ∀ slot, (g.spec slot).handler = none)
    (hroot : s.around = [] → s.active.spec.stop = none) (limit : Nat) (hne : s.text.rest ≠ []) :
    ∃ t, s.makeMove g limit (nextMove g s.active.spec s.text.rest) = pure t ∧
      s.Grown (kept g s.active.spec s.text.rest) (consumed g s.active.spec s.text.rest) t := by
  obtain ⟨c, rest, hr⟩ := List.exists_cons_of_ne_nil hne
  rw [hr]
  unfold kept consumed
  dsimp only
  cases hm : nextMove g s.active.spec (c :: rest) with
  | escape escaped literal => exact ⟨_, rfl, h.grown _ rfl (OpenBlock.flatText_addText _ _)⟩
  | close stop =>
    cases ha : s.around with
    | nil =>
      -- the root has no stop
      exact absurd (stop_of_nextMove hm) (by simp [hroot ha])
    | cons outer around => exact h.close ha limit (some stop)
  | enter name slot start => exact h.enter hg name slot start
  | split m token =>
    have ha : s.active.spec.handler = none := h.handler _ List.mem_cons_self
    refine ⟨_, ?_, h.grown m.whole ?_ (b := ((s.active.endRun .split).addKept token).endSegment) ?_⟩
    · simp only [Situation.makeMove, endRun_eq ha, pure_bind]
    · have ht : ((s.active.endRun .split).addKept token).endSegment.title = s.active.title :=
        (OpenBlock.title_split token _).trans (OpenBlock.title_endRun .split _)
      rw [OpenBlock.spec_of_title ht]
    · rw [OpenBlock.flatText_addKept (OpenBlock.run_endRun .split _), OpenBlock.flatText_endRun]
  | strip m => exact ⟨_, rfl, h.grown _ rfl (String.append_empty).symm⟩
  | char =>
    refine ⟨_, ?_, h.grown (b := s.active.addText (String.ofList [c])) [c] rfl (OpenBlock.flatText_addText _ _)⟩
    unfold Situation.makeMove
    rw [hr]

/-- A step goes through and keeps what it should, unless the text is at its end and no block is open. -/
theorem advance {g : Grammar C} {o : Options} {s : Situation C g.size} (h : s.Unhandled)
    (hg : ∀ slot, (g.spec slot).handler = none) (ho : o.unterminated = .close)
    (hroot : s.around = [] → s.active.spec.stop = none) :
    (s.advance g o = pure none ∧ s.text.rest = [] ∧ s.around = []) ∨
      ∃ t, s.advance g o = pure (some t) ∧
        s.Grown (kept g s.active.spec s.text.rest) (consumed g s.active.spec s.text.rest) t := by
  by_cases hr : s.text.rest = []
  · cases ha : s.around with
    | nil => exact Or.inl ⟨advance_of_nil o hr h.suspended ha, hr, rfl⟩
    | cons outer around =>
      obtain ⟨t, ht, hgrown⟩ := h.close ha o.maxReparseDepth none
      refine Or.inr ⟨t, ?_, ?_⟩
      · rw [advance_of_close ho hr h.suspended (by simp [ha]), ht]
        rfl
      · rw [hr]
        show s.Grown "" [] t
        simpa using hgrown
  · obtain ⟨t, ht, hgrown⟩ := h.makeMove hg hroot o.maxReparseDepth hr
    exact Or.inr ⟨t, by rw [advance_of_ne_nil o hr, ht]; rfl, hgrown⟩

end Unhandled

end Situation

/-! ### The whole scan -/

namespace State

/-- The states that the steps of a scan start from, in order. -/
def trail (g : Grammar C) (o : Options) (s : State C g.size) (hd : s.input.depth ≤ o.maxReparseDepth) :
    List (State C g.size) :=
  match hs : s.advance g o with
  | .moved t => s :: trail g o t (depth_advance hd hs)
  | _ => []
termination_by measure o.maxReparseDepth s
decreasing_by exact advance_lt hd hs

/-- What the next step consumes. -/
def consumed (g : Grammar C) (s : State C g.size) : List Char := Scan.consumed g s.active.spec s.input.current.rest

/-- What the next step adds to the text of the result. -/
def kept (g : Grammar C) (s : State C g.size) : String := Scan.kept g s.active.spec s.input.current.rest

variable {g : Grammar C} {o : Options} {s t : State C g.size}

private theorem trail_moved (hd : s.input.depth ≤ o.maxReparseDepth) (h : s.advance g o = .moved t) :
    trail g o s hd = s :: trail g o t (depth_advance hd h) := by
  rw [trail]
  split
  · rename_i h'
    obtain rfl := Progress.moved.inj (h.symm.trans h')
    rfl
  · rename_i hn
    exact absurd h (hn t)

private theorem trail_of_not_moved (hd : s.input.depth ≤ o.maxReparseDepth) (h : ∀ t, s.advance g o ≠ .moved t) :
    trail g o s hd = [] := by
  rw [trail]
  split
  · exact absurd ‹_› (h _)
  · rfl

/-- The steps of a scan start from sound states. -/
theorem sound_of_mem_trail (s : State C g.size) (hd : s.input.depth ≤ o.maxReparseDepth) (hs : s.Sound g) :
    ∀ t ∈ trail g o s hd, t.Sound g := by
  intro t ht
  by_cases hm : ∃ u, s.advance g o = .moved u
  · obtain ⟨u, hm⟩ := hm
    rw [trail_moved hd hm] at ht
    rcases List.mem_cons.1 ht with rfl | ht
    · exact hs
    · exact sound_of_mem_trail u (depth_advance hd hm) (hs.advance hm) t ht
  · rw [trail_of_not_moved hd fun u hu => hm ⟨u, hu⟩] at ht
    cases ht
termination_by measure o.maxReparseDepth s
decreasing_by exact advance_lt hd hm

/-- In a faithful grammar the steps of a scan keep what they consume. -/
theorem join_kept (hf : Faithful g) (hroot : g.root.start = none ∧ g.root.stop = none) {trail : List (State C g.size)}
    (hs : ∀ t ∈ trail, t.Sound g) :
    String.join (trail.map (State.kept g)) = String.ofList (trail.map (State.consumed g)).flatten := by
  have hk : trail.map (State.kept g) = trail.map fun s => String.ofList (s.consumed g) := by
    refine List.map_congr_left fun t ht => ?_
    obtain ⟨slot, hslot⟩ := (hs t ht).active_spec
    unfold State.kept State.consumed
    rw [hslot]
    exact hf.kept_eq hroot slot _
  rw [hk, ← String.toList_inj, String.toList_join, String.toList_ofList, List.flatMap_map, List.flatten_eq_flatMap,
    List.flatMap_map]
  simp

/-- From a state without handlers a scan goes through. Its steps consume what is left of the text, and the text of the
result is what the open blocks have and what the steps keep. -/
private theorem flattenText_outcome (hg : ∀ slot, (g.spec slot).handler = none) (hroot : g.root.stop = none)
    (ho : o.unterminated = .close) (s : State C g.size) (hd : s.input.depth ≤ o.maxReparseDepth) (hs : s.Sound g)
    (hu : s.situation.Unhandled) :
    ∃ p, (s.outcome g o hd).result = .ok p ∧
      p.flattenText = s.situation.flatText ++ String.join ((trail g o s hd).map (State.kept g)) ∧
      s.input.current.rest = ((trail g o s hd).map (State.consumed g)).flatten := by
  have hstop : s.situation.around = [] → s.situation.active.spec.stop = none := by
    intro ha
    show s.active.spec.stop = none
    rw [hs.spec_of_atRoot (around_situation_eq_nil_iff.1 ha), hroot]
  have hadv := observe_advance (o := o) hs hroot
  rcases hu.advance hg ho hstop with ⟨hn, hr, ha⟩ | ⟨t, ht, hgrown⟩
  · rw [hn] at hadv
    obtain ⟨t, hm, -⟩ := Progress.of_observe_none hadv
    obtain ⟨p, hp, hf⟩ := hu.finish ha
    have hout := outcome_ended hd hm
    rw [hp] at hout
    rw [trail_of_not_moved hd (by simp [hm])]
    exact ⟨p, congrArg Prod.fst hout, by rw [hf]; exact String.append_empty.symm, hr⟩
  · rw [ht] at hadv
    obtain ⟨u, hm, rfl, -⟩ := Progress.of_observe_some hadv
    obtain ⟨p, hp, hk, hc⟩ := flattenText_outcome hg hroot ho u (depth_advance hd hm) (hs.advance hm) hgrown.unhandled
    refine ⟨p, ?_, ?_, ?_⟩
    · rw [outcome_moved hd hm, hp]
    · rw [hk, hgrown.flatText, trail_moved hd hm, List.map_cons, String.join_cons, ← String.append_assoc]
      rfl
    · have hrest : u.input.current.rest = s.input.current.rest.drop (s.consumed g).length :=
        congrArg Left.rest hgrown.text
      rw [trail_moved hd hm, List.map_cons, List.flatten_cons, ← hc, hrest]
      exact (List.prefix_iff_eq_append.1 (consumed_isPrefix g s.active.spec s.input.current.rest)).symm
termination_by measure o.maxReparseDepth s
decreasing_by exact advance_lt hd hm

end State

/-- The states that the steps of a scan of a text start from, in order. -/
def trail (g : Grammar C) (o : Options) (text : String) (context : C) : List (State C g.size) :=
  State.trail g o (.start g text context) (State.depth_start_le g o text context)

/-- Without handlers a scan that closes what is open at the end goes through. Its steps consume the text piece by piece,
and the text of the result is what they keep, in order. In a faithful grammar this is the text that has been scanned. -/
theorem flattenText_scan {d : Definition C} {g : Grammar C} (hg : d.resolve = .ok g)
    (hh : ∀ slot, (g.spec slot).handler = none) {o : Options} (ho : o.unterminated = .close) (text : String)
    (context : C) :
    ∃ p, (scan g o text context).result = .ok p ∧
      text.toList = ((trail g o text context).map (State.consumed g)).flatten ∧
      p.flattenText = String.join ((trail g o text context).map (State.kept g)) ∧
      (Faithful g → p.flattenText = text) := by
  have hroot := Definition.root_of_resolve hg
  have hs := State.Sound.start g text context
  have hu : (State.start g text context).situation.Unhandled := by
    refine ⟨rfl, ?_⟩
    intro b hb
    obtain rfl := List.mem_singleton.1 hb
    exact hh g.rootSlot
  have hd : (State.start g text context).input.depth ≤ o.maxReparseDepth := State.depth_start_le g o text context
  obtain ⟨p, hp, hk, hc⟩ := State.flattenText_outcome hh hroot.2 ho _ hd hs hu
  have hempty : (State.start g text context).situation.flatText = "" := rfl
  rw [hempty, String.empty_append] at hk
  refine ⟨p, hp, hc, hk, ?_⟩
  intro hf
  rw [hk, State.join_kept hf hroot (State.sound_of_mem_trail _ hd hs), ← hc]
  exact String.ofList_toList

/-- Lists in parentheses that keep all of their text. -/
def verbatim : Definition Unit :=
  .mk { split := some (.literal ","), storeSplit := .whole } none
    [("list", .inline (.mk
      { start := some "(", stop := some ")", escapedStop := some "~)", keepDelimiters := true,
        split := some (.literal ","), storeSplit := .whole } none
      [("list", .ref "/blocks/list")]))]

/-- A list that is open at the end is kept as it is. -/
theorem flattenText_scan_verbatim :
    ∃ g : Grammar Unit, verbatim.resolve = .ok g ∧ (∀ slot, (g.spec slot).handler = none) ∧ Faithful g ∧
      ∃ p, (scan g { unterminated := .close } "a,(b,(c~))d" ()).result = .ok p ∧ p.flattenText = "a,(b,(c~))d" := by
  have h : verbatim.resolvesTo (fun g => decide ((∀ slot, (g.spec slot).handler.isNone) ∧
      (∀ slot, slot ≠ g.rootSlot → (g.spec slot).keepDelimiters = true) ∧
      (∀ slot, (g.spec slot).split.isSome = true → (g.spec slot).storeSplit = .whole) ∧
      (∀ slot, (g.spec slot).strip.isEmpty) ∧ ∀ slot, (g.spec slot).replaceEscapes = false)) = true := by
    cbv
  obtain ⟨g, hg, h⟩ := Definition.exists_of_resolvesTo h
  obtain ⟨hh, hk, hsplit, hstrip, he⟩ := of_decide_eq_true h
  have hh : ∀ slot, (g.spec slot).handler = none := fun slot => by simpa using hh slot
  have hf : Faithful g := ⟨hk, hsplit, fun slot => by simpa using hstrip slot, he⟩
  obtain ⟨p, hp, -, -, ht⟩ := flattenText_scan hg hh (o := { unterminated := .close }) rfl "a,(b,(c~))d" ()
  exact ⟨g, hg, hh, hf, p, hp, ht hf⟩

end Delimited.Scan
