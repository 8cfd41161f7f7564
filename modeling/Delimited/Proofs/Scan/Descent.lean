import Mathlib
import Delimited.Proofs.Scan.Outcome

/-!
# Recursive descent

`parse` scans one block by recursion: a nested block is a recursive call, which takes what it needs of the text and gives
the block back with all of its parts. There is no list of open blocks, no text but the one that is scanned, and no offset
where a run starts. `descend` parses the root.

When no block is scanned again, a scan is nothing but this (`scan_eq_descend`). What the blocks around the active one
wait for is what the calls wait for that have not returned (`unwind`); every step of a situation leaves the result of
unwinding as it is (`unwind_advance`).
-/

namespace Delimited.Scan

variable {C : Type} {n : Nat} {k : Nat}

/-! ### The parser -/

namespace Left

private theorem length_skip_le (m : List Char) (t : Left) : (t.skip m).rest.length ≤ t.rest.length := by
  simp only [skip, List.length_drop]
  omega

private theorem length_skip_lt {m : List Char} {t : Left} (hm : m ≠ []) (ht : t.rest ≠ []) :
    (t.skip m).rest.length < t.rest.length := by
  have := List.length_pos_iff.2 hm
  have := List.length_pos_iff.2 ht
  simp only [skip, List.length_drop]
  omega

end Left

/-- A block that has been parsed to its end, and what is left behind it of a text of `k` characters. -/
structure Parsed (C : Type) (n k : Nat) where
  block : OpenBlock C n
  left : Left
  le : left.rest.length ≤ k

namespace Parsed

/-- The same in a longer text. -/
def mono {k' : Nat} (h : k ≤ k') (r : Parsed C n k) : Parsed C n k' := ⟨r.block, r.left, Nat.le_trans r.le h⟩

end Parsed

/-- Parses a block to its stop, or to the end of the text. -/
def parse (g : Grammar C) (policy : Unterminated) (isRoot : Bool) (b : OpenBlock C g.size) (t : Left) :
    Effect C (Parsed C g.size t.rest.length) :=
  if ht : t.rest = [] then
    if isRoot = true ∨ policy = .close then do return ⟨← b.flush isRoot .stop, t, Nat.le_refl _⟩
    else throw (.unterminated b.name b.openedAt)
  else
    match nextMove g b.spec t.rest with
    | .close stop => do
      return ⟨(← b.flush isRoot .stop).addStop (some stop), t.skip stop.chars, t.length_skip_le stop.chars⟩
    | .enter name slot start => do
      let b ← b.flush isRoot .block
      let child ← parse g policy false ((OpenBlock.enter name (g.spec slot) t.offset start).goOnAt 0) (t.skip start.chars)
      let b ← b.receive isRoot (← child.block.value)
      return (← parse g policy isRoot b child.left).mono (Nat.le_trans child.le (t.length_skip_le _))
    | .split m token => do
      let b ← b.flush isRoot .split
      return (← parse g policy isRoot (b.addKept token).endSegment (t.skip m.whole)).mono (t.length_skip_le _)
    | .escape escaped literal => do
      return (← parse g policy isRoot (b.addText literal.text) (t.skip escaped.chars)).mono (t.length_skip_le _)
    | .strip m => do
      return (← parse g policy isRoot b (t.skip m.whole)).mono (t.length_skip_le _)
    | .char => do
      let c := [t.rest.head ht]
      return (← parse g policy isRoot (b.addText (String.ofList c)) (t.skip c)).mono (t.length_skip_le c)
termination_by t.rest.length
decreasing_by
  · exact Left.length_skip_lt start.ne_nil ht
  · exact Nat.lt_of_le_of_lt child.le (Left.length_skip_lt start.ne_nil ht)
  · exact Left.length_skip_lt m.ne_nil ht
  · exact Left.length_skip_lt escaped.ne_nil ht
  · exact Left.length_skip_lt m.ne_nil ht
  · exact Left.length_skip_lt (by simp) ht

/-- Scans a text by recursive descent. -/
def descend (g : Grammar C) (policy : Unterminated) (text : String) : Effect C Part := do
  return (← parse g policy true (.root g.root) (.ofString text)).block.result

/-! ### Calls that have not returned -/

/-- The result of a block and of the blocks around it, each of which waits for the one inside. -/
def unwind (g : Grammar C) (policy : Unterminated) (b : OpenBlock C g.size) :
    List (OpenBlock C g.size) → Left → Effect C Part
  | [], t => do return (← parse g policy true b t).block.result
  | outer :: around, t => do
    let r ← parse g policy false b t
    let outer ← outer.receive around.isEmpty (← r.block.value)
    unwind g policy outer around r.left

section

variable {g : Grammar C} {policy : Unterminated}

/-- Where a call goes on as another one does, so do the calls that wait for it. -/
private theorem unwind_of_parse {b : OpenBlock C g.size} {around : List (OpenBlock C g.size)} {t : Left}
    {x : Effect C (Parsed C g.size t.rest.length)}
    (h : parse g policy around.isEmpty b t = (do
      let r ← x
      return (← parse g policy around.isEmpty r.block r.left).mono r.le)) :
    unwind g policy b around t = (do
      let r ← x
      unwind g policy r.block around r.left) := by
  cases around with
  | nil =>
    have h : parse g policy true b t = _ := h
    simp only [unwind, h, bind_assoc, pure_bind]
    rfl
  | cons outer around =>
    have h : parse g policy false b t = _ := h
    simp only [unwind, h, bind_assoc, pure_bind]
    rfl

private theorem unwind_of_skip {b b' : OpenBlock C g.size} {around : List (OpenBlock C g.size)} {t : Left}
    {m : List Char} (h : parse g policy around.isEmpty b t = (do
      return (← parse g policy around.isEmpty b' (t.skip m)).mono (t.length_skip_le m))) :
    unwind g policy b around t = unwind g policy b' around (t.skip m) := by
  refine (unwind_of_parse (x := pure ⟨b', t.skip m, t.length_skip_le m⟩) ?_).trans ?_
  · rw [h, pure_bind]
  · rw [pure_bind]

/-- Closing a block whose output is not scanned again gives its value to the block around it. -/
private theorem close_of_not_reparses {limit : Nat} {stop : Option Delimiter} {text : Left} {b outer : OpenBlock C n}
    {around : List (OpenBlock C n)} {e : Nat} (hr : b.spec.reparses = false) (ho : outer.run = "") :
    Situation.close limit stop ⟨text, [], b, outer :: around, e⟩ = (do
      let b ← b.flush false .stop
      let outer ← outer.receive around.isEmpty (← (b.addStop stop).value)
      return ⟨text.skip (stop.elim [] Delimiter.chars), [], outer, around, e⟩) := by
  simp only [Situation.close, Situation.endRun, bind_assoc, pure_bind]
  refine OpenBlock.bind_flush_congr fun b' hb => bind_congr fun p => ?_
  rw [State.again?_eq_none (by rw [OpenBlock.spec_of_title hb, hr])]
  -- the run of the block around it has ended before the nested block was opened
  simp only [Situation.receive, Situation.endRun, OpenBlock.flush_block_of_empty ho, pure_bind]
  rfl

/-- At the end of the text a call returns, or the scan fails. -/
private theorem unwind_at_end {o : Options} {b : OpenBlock C g.size} {around : List (OpenBlock C g.size)} {text : Left}
    {e : Nat} (hrun : ∀ b ∈ around, b.run = "") (ha : b.spec.reparses = false) (ht : text.rest = []) :
    unwind g o.unterminated b around text = (do
      match ← Situation.advance g o ⟨text, [], b, around, e⟩ with
      | none => Situation.finish ⟨text, [], b, around, e⟩
      | some t => unwind g o.unterminated t.active t.around t.text) := by
  have he : text.rest.isEmpty = true := by simpa using ht
  unfold Situation.advance
  simp only [he, if_true]
  cases around with
  | nil =>
    rw [unwind, parse, dif_pos ht, if_pos (Or.inl rfl)]
    simp only [bind_assoc, pure_bind]
    rfl
  | cons outer around =>
    rw [unwind, parse, dif_pos ht]
    cases o.unterminated with
    | error => rfl
    | close =>
      rw [if_pos (Or.inr rfl)]
      simp only [close_of_not_reparses ha (hrun outer List.mem_cons_self), map_bind, map_pure, bind_assoc, pure_bind]
      rfl

/-- In front of a text the innermost call makes the next move, enters a nested call, or returns. -/
private theorem unwind_makeMove (hr : ∀ slot, (g.spec slot).reparses = false) (limit : Nat) {b : OpenBlock C g.size}
    {around : List (OpenBlock C g.size)} {text : Left} {e : Nat} (hrun : ∀ b ∈ around, b.run = "")
    (ha : b.spec.reparses = false) (hroot : around = [] → b.spec.stop = none) (ht : text.rest ≠ []) :
    unwind g policy b around text = (do
      let t ← Situation.makeMove g limit ⟨text, [], b, around, e⟩ (nextMove g b.spec text.rest)
      unwind g policy t.active t.around t.text) := by
  cases hm : nextMove g b.spec text.rest with
  | escape escaped literal =>
    simp only [Situation.makeMove, pure_bind]
    refine unwind_of_skip ?_
    rw [parse, dif_neg ht, hm]
  | close stop =>
    cases around with
    | nil =>
      -- the root has no stop
      exact absurd (stop_of_nextMove hm) (by simp [hroot rfl])
    | cons outer around =>
      rw [unwind, parse, dif_neg ht, hm]
      simp only [Situation.makeMove, close_of_not_reparses ha (hrun outer List.mem_cons_self), bind_assoc, pure_bind]
      rfl
  | enter name slot start =>
    refine (unwind_of_parse (x := do
      let b ← b.flush around.isEmpty .block
      let child ← parse g policy false ((OpenBlock.enter name (g.spec slot) text.offset start).goOnAt 0)
        (text.skip start.chars)
      let b ← b.receive around.isEmpty (← child.block.value)
      return ⟨b, child.left, Nat.le_trans child.le (text.length_skip_le _)⟩) ?_).trans ?_
    · rw [parse, dif_neg ht, hm]
      simp only [bind_assoc, pure_bind]
    · simp only [Situation.makeMove, Situation.enter, Situation.endRunBefore, hr, Bool.false_eq_true, if_false,
        Situation.endRun, bind_assoc, pure_bind, unwind]
      rfl
  | split m token =>
    refine (unwind_of_parse (x := do
      let b ← b.flush around.isEmpty .split
      return ⟨(b.addKept token).endSegment, text.skip m.whole, text.length_skip_le _⟩) ?_).trans ?_
    · rw [parse, dif_neg ht, hm]
      simp only [bind_assoc, pure_bind]
    · simp only [Situation.makeMove, Situation.endRun, bind_assoc, pure_bind]
      rfl
  | strip m =>
    simp only [Situation.makeMove, pure_bind]
    refine unwind_of_skip ?_
    rw [parse, dif_neg ht, hm]
  | char =>
    obtain ⟨x, r, hx⟩ := List.exists_cons_of_ne_nil ht
    have hc : [text.rest.head ht] = [x] := by simp [hx]
    simp only [Situation.makeMove, hx, pure_bind]
    refine unwind_of_skip ?_
    rw [parse, dif_neg ht, hm, ← hc]

/-- A step leaves the result of unwinding as it is. -/
theorem unwind_advance {o : Options} (hr : ∀ slot, (g.spec slot).reparses = false) {s : Situation C g.size}
    (hs : s.suspended = []) (hrun : ∀ b ∈ s.around, b.run = "") (ha : s.active.spec.reparses = false)
    (hroot : s.around = [] → s.active.spec.stop = none) :
    unwind g o.unterminated s.active s.around s.text = (do
      match ← s.advance g o with
      | none => s.finish
      | some t => unwind g o.unterminated t.active t.around t.text) := by
  obtain ⟨text, suspended, b, around, e⟩ := s
  subst hs
  by_cases ht : text.rest = []
  · exact unwind_at_end hrun ha ht
  · rw [Situation.advance_of_ne_nil o ht, bind_map_left]
    exact unwind_makeMove hr o.maxReparseDepth hrun ha hroot ht

end

/-! ### Scans without reparses -/

namespace State

/-- Nothing is suspended, and the blocks around the active one have no runs. -/
structure Plain (s : State C n) : Prop where
  suspended : s.input.suspended = []
  runs : ∀ b ∈ s.around, b.run = ""

private theorem Plain.keeps {s s' : State C n} (h : s.Plain) (hk : Keeps s s') : s'.Plain :=
  ⟨by rw [hk.input, h.suspended], by rw [hk.around]; exact h.runs⟩

/-- A run that ends at a nested block is empty afterwards. -/
theorem run_endRun_block {s s' : State C n} (h : s.endRun .block = .ok s') : s'.active.run = "" := by
  rcases endRun_cases h with ⟨hf, rfl⟩ | ⟨p, c, rfl⟩
  · by_cases hr : s.collect.active.run.isEmpty
    · simpa using hr
    · simp [OpenBlock.fragment?, hr] at hf
  · rw [active_modifyActive]
    show (s.collect.modifyActive _).active.run = ""
    rw [active_modifyActive]

variable {g : Grammar C} {o : Options} {s s' : State C g.size}

private theorem Plain.close {limit : Nat} {stop : Option Delimiter} (hp : s.Plain) (hs : s.Sound g)
    (hr : ∀ slot, (g.spec slot).reparses = false) (h : s.close limit stop = .ok s') : s'.Plain := by
  rcases close_cases h with ⟨s₁, h₁, -, rfl⟩ | ⟨s₁, inner, outer, p, s₂, h₁, ho, h₂, h⟩
  · exact ⟨(hp.keeps (.endRun h₁)).suspended, (hp.keeps (.endRun h₁)).runs⟩
  · have hk := Keeps.endRun h₁
    have hp₁ := hp.keeps hk
    have hn : again? inner p = none := by
      have hi : s₁.active = inner := by rw [active, ho]; rfl
      obtain ⟨slot, hslot⟩ := hs.active_spec
      refine again?_eq_none ?_ p
      rw [← hi, OpenBlock.spec_of_title hk.title, hslot, hr]
    have ha : s₁.around = outer ++ [s₁.root] := by rw [around, ho]; rfl
    have hl : (s₁.leave stop inner outer).Plain :=
      ⟨hp₁.suspended, fun b hb => hp₁.runs b (by rw [ha]; exact List.mem_of_mem_tail hb)⟩
    rcases h with ⟨text, ht, -⟩ | ⟨-, h⟩
    · exact absurd ht (by rw [hn]; simp)
    · exact (hl.keeps (.output h₂)).keeps (.addResult h)

/-- Every step of a scan without reparses keeps it plain. -/
theorem Plain.advance (hp : s.Plain) (hs : s.Sound g) (hr : ∀ slot, (g.spec slot).reparses = false)
    (h : s.advance g o = .moved s') : s'.Plain := by
  have hstep := Passage.of_advance h
  clear h
  cases hstep with
  | resume hn hc => exact absurd hc (by rw [hp.suspended]; simp)
  | close hm _ h => exact hp.close hs hr h
  | enter hm hk h =>
    rename_i slot _ s₁
    have hp₁ := hp.keeps hk
    refine ⟨hp₁.suspended, fun b hb => ?_⟩
    have hb : b ∈ s₁.active :: s₁.around := opened_append_root s₁ ▸ hb
    rcases List.mem_cons.1 hb with rfl | hb
    · -- the run of the block that was active has just ended
      rw [endRunBefore, hr slot] at h
      exact run_endRun_block h
    · exact hp₁.runs b hb
  | pass hn hm hk =>
    rename_i m s₁
    have hp₁ : (s₁.skip m).Plain := ⟨(hp.keeps hk).suspended, (hp.keeps hk).runs⟩
    exact hp₁.keeps (.restartRun _)
  | char hn => exact ⟨hp.suspended, hp.runs⟩

end State

/-- A scan in which no block is scanned again gives what recursive descent gives, and leaves the same context. -/
theorem scan_eq_descend {d : Definition C} {g : Grammar C} (hg : d.resolve = .ok g)
    (hr : ∀ slot, (g.spec slot).reparses = false) (o : Options) (text : String) (context : C) :
    ((scan g o text context).result, (scan g o text context).context) =
      descend g o.unterminated text context := by
  have hroot := (Definition.root_of_resolve hg).2
  let f (s : Situation C g.size) : Effect C Part := unwind g o.unterminated s.active s.around s.text
  have hf : ∀ s : State C g.size, s.Sound g → s.Plain → f s.situation = (do
      match ← s.situation.advance g o with
      | none => s.situation.finish
      | some t => f t) := by
    intro s hs hp
    refine unwind_advance hr ?_ ?_ ?_ ?_
    · show s.input.suspended.map _ = []
      rw [hp.suspended, List.map_nil]
    · intro b hb
      obtain ⟨b', hb', rfl⟩ := List.mem_map.1 hb
      exact hp.runs b' hb'
    · obtain ⟨slot, hslot⟩ := hs.active_spec
      show s.active.spec.reparses = false
      rw [hslot, hr]
    · intro hn
      show s.active.spec.stop = none
      rw [hs.spec_of_atRoot (State.around_situation_eq_nil_iff.1 hn), hroot]
  rw [State.scan_eq_outcome]
  exact State.observe_outcome (f := f) (P := State.Plain) hroot hf (fun s t hs hp h => hp.advance hs hr h)
    (.start g text context) (Nat.zero_le _) (.start g text context) ⟨rfl, by simp [State.around, State.start]⟩

/-- Lists in parentheses, which may be nested. The handler of the root counts its calls, and that of the lists too. -/
def lists : Definition Nat :=
  .mk { split := some (.literal ","), handler := some fun p c => (.ok p, c + 1), handleAll := true } none
    [("list", .inline (.mk
      { start := some "(", stop := some ")", split := some (.literal ","), handler := some fun p c => (.ok p, c + 1) } none
      [("list", .ref "/blocks/list")]))]

theorem scan_eq_descend_lists :
    ∃ g : Grammar Nat, lists.resolve = .ok g ∧ (∀ slot, (g.spec slot).reparses = false) ∧
      ((scan g {} "a,(b,(c))d" 0).result, (scan g {} "a,(b,(c))d" 0).context) = descend g .error "a,(b,(c))d" 0 ∧
      (scan g {} "a,(b,(c))d" 0).result.toOption =
        some (.group [.text "a", .group [.text "b", .group [.text "c"]], .text "d"]) ∧
      (scan g {} "a,(b,(c))d" 0).context = 5 := by
  have h : lists.resolvesTo (fun g => decide ((∀ slot, (g.spec slot).reparses = false) ∧
      (scan g {} "a,(b,(c))d" 0).result.toOption =
        some (.group [.text "a", .group [.text "b", .group [.text "c"]], .text "d"]) ∧
      (scan g {} "a,(b,(c))d" 0).context = 5)) = true := by
    cbv
  obtain ⟨g, hg, h⟩ := Definition.exists_of_resolvesTo h
  obtain ⟨hr, hd⟩ := of_decide_eq_true h
  exact ⟨g, hg, hr, scan_eq_descend hg hr {} "a,(b,(c))d" 0, hd⟩

end Delimited.Scan
