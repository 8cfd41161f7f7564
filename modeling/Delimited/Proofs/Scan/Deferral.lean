import Mathlib.Data.Finset.Basic
import Delimited.Proofs.Scan.Outcome
import Delimited.Proofs.Scan.Tracked

/-!
# Runs that wait for a block

Before a block whose text may be scanned again the run of the block around it is not ended: what comes out of the block
may continue it. It waits, and ends when the block has closed. When the handler of the block only gives lists, nothing
is scanned again, and waiting makes no difference to the answer (`scan_withoutReparse`).

A scan in which runs wait is compared with one in which they do not, step by step. The open blocks of both are the same,
except that around a block for which a run waits the second scan has ended this run already (`Below`). The second scan
may fail when the run ends, because the handler of the root does, where the first scan goes on. But then the first scan
cannot end well, since the same run waits for it (`Stuck`).
-/

namespace Delimited

variable {C : Type} {n : Nat}

/-- The handler of the spec gives lists, if it does not fail. -/
def Spec.GivesLists (s : Spec C n) : Prop :=
  ∀ h, s.handler = some h → ∀ p c q, (h p c).1 = .ok q → ∃ ps, q = .group ps

namespace Grammar

/-- The grammar in which nothing is scanned again that some blocks give. -/
abbrev withoutReparse (g : Grammar C) (blocks : Finset (Fin g.size)) : Grammar C :=
  ⟨g.size, g.size_pos, .ofFn fun k => { g.spec k with reparse := (g.spec k).reparse && !decide (k ∈ blocks) }⟩

private theorem spec_withoutReparse (g : Grammar C) (blocks : Finset (Fin g.size)) (k : Fin g.size) :
    (g.withoutReparse blocks).spec k = { g.spec k with reparse := (g.spec k).reparse && !decide (k ∈ blocks) } := by
  simp [spec]

end Grammar

namespace Scan

/-! ### Blocks for which a run may wait -/

namespace OpenBlock

variable {b : OpenBlock C n}

/-- Behind the end of a run at a nested block the run is empty. -/
theorem run_of_flush (isRoot : Bool) (b : OpenBlock C n) : (b.flush isRoot .block).Ensures (·.run = "") := by
  unfold flush
  cases hf : b.fragment? .block with
  | none =>
    refine .pure ?_
    unfold fragment? at hf
    split at hf
    · cases hf
    · rename_i h
      simpa [endsEmptySegment] using h
  | some r =>
    obtain ⟨text, b'⟩ := r
    obtain ⟨-, rfl⟩ := eq_of_fragment hf
    exact .bind (.any _) fun p _ => .pure rfl

/-- Inside the root no handler is asked when a run ends. -/
theorem exists_flush_false (b : OpenBlock C n) (k : Boundary) : ∃ b', b.flush false k = pure b' := by
  have ho : ∀ (b : OpenBlock C n) (f : Option (Handler C)) (p : Part), b.offer false f p = pure p := by
    intro b f p
    cases f <;> rfl
  unfold flush
  cases b.fragment? k with
  | none => exact ⟨b, rfl⟩
  | some r => exact ⟨r.2.addValue (.text r.1), by simp only [ho, pure_bind]⟩

/-- The parts of a block are not scanned again when its handler gives lists. -/
theorem again?_of_givesLists (hl : b.spec.GivesLists) (stop : Option Delimiter) :
    (b.addStop stop).value.Ensures fun p => State.again? b p = none := by
  have hspec : (b.addStop stop).spec = b.spec := spec_of_title (title_addStop stop b)
  unfold value
  rw [hspec]
  cases hh : b.spec.handler with
  | none =>
    exact .pure (State.again?_eq_none (by simp [Spec.reparses, hh]) _)
  | some h =>
    intro c p c' hp
    rcases hx : h (.group (b.addStop stop).parts.toList) c with ⟨e | q, d⟩ <;> simp only [handle, hx] at hp <;> cases hp
    obtain ⟨ps, rfl⟩ := hl h hh _ c p (by rw [hx])
    simp [State.again?, Part.asText?]

end OpenBlock

/-! ### Open blocks, of which some wait -/

/-- The blocks around two blocks with these specs. Around a block for which a run waits, the second scan has ended this
run already. -/
inductive Below : Spec C n → Spec C n → List (OpenBlock C n) → List (OpenBlock C n) → Prop
  | root {s s' : Spec C n} : Below s s' [] []
  | same {s s' : Spec C n} {o o' : OpenBlock C n} {os os' : List (OpenBlock C n)} (hs : s'.reparses = s.reparses)
    (ho : o.Eased o') (hb : Below o.spec o'.spec os os') : Below s s' (o :: os) (o' :: os')
  | waiting {s s' : Spec C n} {o o₁ o' : OpenBlock C n} {os os' : List (OpenBlock C n)} (hl : s.GivesLists)
    (hs : s'.reparses = false) (hf : ∀ c, (o.flush os.isEmpty .block c).1 = .ok o₁) (hr : o'.run = "")
    (ho : o₁.Eased o') (hb : Below o₁.spec o'.spec os os') : Below s s' (o :: os) (o' :: os')

/-- In one of the open blocks, the active one first, a list is given by a handler, while a run of the root waits that
the handler of the root does not accept. -/
inductive Stuck : List (OpenBlock C n) → Prop
  | here {b root : OpenBlock C n} (hl : b.spec.GivesLists) (hf : ∀ c r, (root.flush true .block c).1 ≠ .ok r) :
    Stuck [b, root]
  | above (b : OpenBlock C n) {bs : List (OpenBlock C n)} (h : Stuck bs) : Stuck (b :: bs)

namespace Below

variable {s s' : Spec C n} {o o' : OpenBlock C n} {os os' : List (OpenBlock C n)}

private theorem isEmpty (h : Below s s' os os') : os'.isEmpty = os.isEmpty := by
  cases h <;> rfl

private theorem nil_or_cons (h : Below s s' os os') :
    (os = [] ∧ os' = []) ∨ ∃ o t o' t', os = o :: t ∧ os' = o' :: t' := by
  cases h with
  | root => exact .inl ⟨rfl, rfl⟩
  | same | waiting => exact .inr ⟨_, _, _, _, rfl, rfl⟩

/-- In the first of these blocks the run ends, unless it has ended already. -/
theorem flush (h : Below s s' (o :: os) (o' :: os')) :
    Effect.Tracks (fun x x' => x.Eased x' ∧ Below x.spec x'.spec os os') (fun _ => False) (o.flush os.isEmpty .block)
      (o'.flush os'.isEmpty .block) := by
  cases h with
  | same hs ho hb =>
    rw [hb.isEmpty]
    exact (ho.flush os.isEmpty .block).mono (fun x x' hx => ⟨hx.eased, by rwa [hx.left, hx.right]⟩) fun _ h => h
  | waiting hl hs hf hr ho hb =>
    rw [OpenBlock.flush_block_of_empty hr]
    intro c c'
    rw [hf c]
    exact .ok ⟨ho, hb⟩

/-- The block inside them gives a list, or whatever it gives is scanned again in both scans or in neither. -/
theorem again (h : Below s s' (o :: os) (o' :: os')) :
    (s.GivesLists ∧ s'.reparses = false) ∨
      (s'.reparses = s.reparses ∧ o.Eased o' ∧ Below o.spec o'.spec os os') := by
  cases h with
  | same hs ho hb => exact .inr ⟨hs, ho, hb⟩
  | waiting hl hs => exact .inl ⟨hl, hs⟩

end Below

/-! ### Situations, side by side -/

namespace Situation

/-- The second situation is the first one with the waiting runs ended. -/
structure Eased (a b : Situation C n) : Prop where
  text : b.text = a.text
  suspended : b.suspended = a.suspended
  active : a.active.Eased b.active
  around : Below a.active.spec b.active.spec a.around b.around
  endReparses : b.endReparses = a.endReparses

/-- The run that waits will not be accepted. -/
def Doomed (s : Situation C n) : Prop := Stuck (s.active :: s.around)

/-- Only a run of the root can fail to end, since inside the root no handler is asked. -/
private theorem stuck_of_flush {s : Situation C n} {b : OpenBlock C n} (hl : b.spec.GivesLists) (c : C)
    (hf : ∀ c r, (s.active.flush s.atRoot .block c).1 ≠ .ok r) : Stuck (b :: s.active :: s.around) := by
  unfold Situation.atRoot at hf
  cases hr : s.around with
  | nil =>
    rw [hr] at hf
    exact .here hl hf
  | cons o os =>
    obtain ⟨x, hx⟩ := OpenBlock.exists_flush_false s.active .block
    rw [hr] at hf
    exact absurd (by rw [List.isEmpty_cons, hx]; rfl) (hf c x)

namespace Eased

variable {a b : Situation C n}

private theorem atRoot (h : Eased a b) : b.atRoot = a.atRoot := h.around.isEmpty

/-- The active blocks are changed to blocks that differ as they did. -/
theorem change (h : Eased a b) {x x' : OpenBlock C n} (hx : OpenBlock.Still a.active b.active x x') {t t' : Left}
    (ht : t' = t) : Eased { a with text := t, active := x } { b with text := t', active := x' } := by
  refine ⟨ht, h.suspended, hx.eased, ?_, h.endReparses⟩
  show Below x.spec x'.spec a.around b.around
  rw [hx.left, hx.right]
  exact h.around

theorem endRun (h : Eased a b) (k : Boundary) : Effect.Tracks Eased (fun _ => False) (a.endRun k) (b.endRun k) := by
  unfold Situation.endRun
  rw [h.atRoot]
  exact (h.active.flush a.atRoot k).seq fun x x' hx => .pure (h.change hx h.text)

/-- What a nested block gives is added to the block around it, the run of which may have waited. -/
theorem receive {s s' : Spec C n} {o o' : OpenBlock C n} {os os' : List (OpenBlock C n)}
    (h : Below s s' (o :: os) (o' :: os')) (text : Left) (suspended : List Left) (k : Nat) (p : Part) :
    Effect.Tracks Eased (fun _ => False) (Situation.receive p ⟨text, suspended, o, os, k⟩)
      (Situation.receive p ⟨text, suspended, o', os', k⟩) := by
  have hrun : Effect.Tracks Eased (fun _ => False) (Situation.endRun .block ⟨text, suspended, o, os, k⟩)
      (Situation.endRun .block ⟨text, suspended, o', os', k⟩) :=
    h.flush.seq fun x x' hx => .pure ⟨rfl, rfl, hx.1, hx.2, rfl⟩
  refine hrun.seq fun a b h => ?_
  rw [h.atRoot]
  exact (h.active.receive a.atRoot p).seq fun x x' hx => .pure (h.change hx h.text)

private theorem scanAgain (h : Eased a b) (limit : Nat) (block text : String) (atEnd : Bool) :
    Effect.Tracks Eased (fun _ => False) (a.scanAgain limit block text atEnd) (b.scanAgain limit block text atEnd) := by
  unfold Situation.scanAgain
  rw [h.suspended, h.endReparses, h.text]
  by_cases hl : limit ≤ a.suspended.length + a.endReparses
  · rw [if_pos hl, if_pos hl]
    exact .throw _ _
  · rw [if_neg hl, if_neg hl]
    exact .pure ⟨rfl, rfl, h.active, h.around, rfl⟩

/-- The innermost blocks close. -/
theorem close (h : Eased a b) (limit : Nat) (stop : Option Delimiter) :
    Effect.Tracks Eased (fun _ => False) (a.close limit stop) (b.close limit stop) := by
  refine (h.endRun .stop).seq ?_
  rintro ⟨_, _, inner, as, _⟩ ⟨x, xs, inner', bs, e⟩ ⟨rfl, rfl, hi, hr, rfl⟩
  dsimp only at hi hr ⊢
  -- both blocks are the root, or both are nested
  rcases hr.nil_or_cons with ⟨rfl, rfl⟩ | ⟨outer, as, outer', bs, rfl, rfl⟩
  · exact .pure ⟨rfl, rfl, hi, hr, rfl⟩
  · have hname : inner'.name = inner.name := by rw [hi.eq]; rfl
    dsimp only
    rcases hr.again with ⟨hl, hs⟩ | ⟨hs, ho, hb⟩
    · -- nothing is scanned again
      refine (hi.value stop (OpenBlock.again?_of_givesLists hl stop)).seq ?_
      rintro _ p ⟨rfl, hp⟩
      rw [hp, State.again?_eq_none hs]
      exact receive hr _ _ _ p
    · refine (hi.value stop (.any _)).seq ?_
      rintro _ p ⟨rfl, -⟩
      have hj : Eased ⟨x.skip (stop.elim [] Delimiter.chars), xs, outer, as, e⟩
        ⟨x.skip (stop.elim [] Delimiter.chars), xs, outer', bs, e⟩ := ⟨rfl, rfl, ho, hb, rfl⟩
      rw [State.again?_congr hs, hname]
      cases State.again? inner p with
      | some text => exact hj.scanAgain _ _ _ _
      | none => exact receive hr _ _ _ p

end Eased

end Situation

section

variable {g : Grammar C} {blocks : Finset (Fin g.size)}

/-- Whether the text of a block is scanned again has no part in what is recognised. -/
theorem nextMove_withoutReparse (r : Bool) (s : Spec C g.size) (rest : List Char) :
    nextMove (g.withoutReparse blocks) { s with reparse := r } rest = nextMove g s rest := by
  have hnested : ∀ k : Fin g.size, ((g.withoutReparse blocks).spec k).start = (g.spec k).start ∧
      ((g.withoutReparse blocks).spec k).escapedStart = (g.spec k).escapedStart ∧
      ((g.withoutReparse blocks).spec k).replaceEscapes = (g.spec k).replaceEscapes := fun k => by
    rw [Grammar.spec_withoutReparse]
    exact ⟨rfl, rfl, rfl⟩
  have hmap : nextMove (g.withoutReparse blocks) { s with reparse := r } rest = (nextMove g s rest).map id :=
    nextMove_map (g := g) (h := g.withoutReparse blocks) id rfl rfl rfl rfl rfl rfl (List.map_id s.blocks).symm hnested
      rest
  exact hmap.trans (Move.map_id _)

namespace Situation.Eased

variable {a b : Situation C g.size} (hg : ∀ slot, (g.spec slot).Steady)

include hg

/-- Two blocks that are entered side by side. -/
private theorem entered {name : String} {slot : Fin g.size} {start : Delimiter} {text : Left} {suspended : List Left}
    {os os' : List (OpenBlock C g.size)} {i k : Nat}
    (hb : Below (g.spec slot) ((g.withoutReparse blocks).spec slot) os os') :
    Eased ⟨text, suspended, (OpenBlock.enter name (g.spec slot) i start).goOnAt 0, os, k⟩
      ⟨text, suspended, (OpenBlock.enter name ((g.withoutReparse blocks).spec slot) i start).goOnAt 0, os', k⟩ := by
  refine ⟨rfl, rfl, ⟨?_, hg slot⟩, hb, rfl⟩
  rw [Grammar.spec_withoutReparse]
  rfl

/-- A block is entered that is scanned again in both scans, or in neither. -/
private theorem enter_alike (h : Eased a b) {slot : Fin g.size}
    (hs : ((g.withoutReparse blocks).spec slot).reparses = (g.spec slot).reparses) (name : String) (start : Delimiter) :
    Effect.Tracks Eased (fun _ => False) (a.enter g name slot start)
      (b.enter (g.withoutReparse blocks) name slot start) := by
  have hrun : Effect.Tracks Eased (fun _ => False) (a.endRunBefore (g.spec slot))
      (b.endRunBefore ((g.withoutReparse blocks).spec slot)) := by
    unfold Situation.endRunBefore
    rw [hs]
    split
    · exact .pure h
    · exact h.endRun .block
  refine hrun.seq fun a b h => .pure ?_
  rw [h.text, h.suspended, h.endReparses]
  exact entered hg (.same hs h.active h.around)

/-- A block is entered for which the run waits in the first scan only. -/
private theorem enter_waiting (h : Eased a b) {slot : Fin g.size} (hl : (g.spec slot).GivesLists)
    (hr : (g.spec slot).reparses) (hr' : ((g.withoutReparse blocks).spec slot).reparses = false) (name : String)
    (start : Delimiter) :
    Effect.Tracks Eased Doomed (a.enter g name slot start) (b.enter (g.withoutReparse blocks) name slot start) := by
  have ha : a.endRunBefore (g.spec slot) = pure a := if_pos hr
  have hb : b.endRunBefore ((g.withoutReparse blocks).spec slot) = b.endRun .block := if_neg (by simp [hr'])
  have hflush := (h.active.flush a.atRoot .block).and_left (OpenBlock.run_of_flush a.atRoot a.active)
  unfold Situation.enter
  rw [ha, hb, pure_bind, Situation.endRun, h.atRoot, bind_assoc, h.text]
  refine hflush.of_waiting (OpenBlock.steady_flush h.active.steady _ _) (fun x x' hx hf => ?_) fun c hf =>
    stuck_of_flush hl c hf
  obtain ⟨hx, hempty⟩ := hx
  have hempty' : x'.run = "" := by rw [hx.eased.eq]; exact hempty
  have haround : Below x.spec x'.spec a.around b.around := by
    rw [hx.left, hx.right]
    exact h.around
  rw [pure_bind, h.suspended, h.endReparses]
  exact .pure (entered hg (.waiting hl hr' hf hempty' hx.eased haround))

/-- A nested block is entered. Where a run of the root waits that will not be accepted, only the second scan fails
now. -/
theorem enter (h : Eased a b) (hl : ∀ slot ∈ blocks, (g.spec slot).GivesLists) (name : String) (slot : Fin g.size)
    (start : Delimiter) :
    Effect.Tracks Eased Doomed (a.enter g name slot start) (b.enter (g.withoutReparse blocks) name slot start) := by
  have hspec := g.spec_withoutReparse blocks slot
  by_cases hslot : slot ∈ blocks
  · have hr' : ((g.withoutReparse blocks).spec slot).reparses = false := by
      rw [hspec]
      simp [Spec.reparses, hslot]
    cases hr : (g.spec slot).reparses with
    | true => exact h.enter_waiting hg (hl slot hslot) hr hr' name start
    | false => exact (h.enter_alike hg (hr'.trans hr.symm) name start).weaken
  · have hr' : ((g.withoutReparse blocks).spec slot).reparses = (g.spec slot).reparses := by
      rw [hspec]
      simp [Spec.reparses, hslot]
    exact (h.enter_alike hg hr' name start).weaken

theorem makeMove (h : Eased a b) (hl : ∀ slot ∈ blocks, (g.spec slot).GivesLists) (limit : Nat) (m : Move g.size) :
    Effect.Tracks Eased Doomed (a.makeMove g limit m) (b.makeMove (g.withoutReparse blocks) limit m) := by
  have hskip : ∀ k, b.text.skip k = a.text.skip k := fun k => by rw [h.text]
  cases m with
  | escape escaped literal =>
    exact .pure (h.change (h.active.change (f := (·.addText literal.text)) (fun _ => rfl) fun _ _ => rfl) (hskip _))
  | close stop => exact (h.close limit (some stop)).weaken
  | enter name slot start => exact h.enter hg hl name slot start
  | split m token =>
    refine (h.endRun .split).seq fun a b h => ?_
    refine .pure (h.change (h.active.change (f := fun b => (b.addKept token).endSegment) (fun b => ?_) fun r b => ?_)
      (by rw [h.text]))
    · cases token <;> rfl
    · cases token <;> rfl
  | strip m => exact .pure ⟨hskip _, h.suspended, h.active, h.around, h.endReparses⟩
  | char =>
    unfold Situation.makeMove
    dsimp only
    rw [h.text]
    split
    · exact .pure h
    · rename_i x r _
      exact .pure (h.change (h.active.change (f := (·.addText (String.ofList [x]))) (fun _ => rfl) fun _ _ => rfl) rfl)

/-- Both situations take the same step. -/
theorem advance (h : Eased a b) (hl : ∀ slot ∈ blocks, (g.spec slot).GivesLists) (o : Options) :
    Effect.Tracks (Option.Rel Eased) (fun t => ∃ s, t = some s ∧ s.Doomed) (a.advance g o)
      (b.advance (g.withoutReparse blocks) o) := by
  unfold Situation.advance
  rw [h.text, h.suspended]
  by_cases hr : a.text.rest.isEmpty
  · rw [if_pos hr, if_pos hr]
    cases a.suspended with
    | cons text suspended => exact .pure (.some ⟨rfl, rfl, h.active, h.around, h.endReparses⟩)
    | nil =>
      rcases h.around.nil_or_cons with ⟨ha, hb⟩ | ⟨_, _, _, _, ha, hb⟩
      · rw [ha, hb]
        exact .pure .none
      · rw [ha, hb]
        cases o.unterminated with
        | error => exact .throw _ _
        | close => exact (h.close o.maxReparseDepth none).map (fun _ _ h => .some h) fun _ h => h.elim
  · rw [if_neg hr, if_neg hr]
    have hm : nextMove (g.withoutReparse blocks) b.active.spec a.text.rest = nextMove g a.active.spec a.text.rest := by
      rw [h.active.eq]
      exact nextMove_withoutReparse _ a.active.spec _
    rw [hm]
    exact (h.makeMove hg hl o.maxReparseDepth _).map (fun _ _ h => .some h) fun a h => ⟨a, rfl, h⟩

omit hg in
private theorem finish {a b : Situation C n} (h : Eased a b) :
    Effect.Tracks (fun p q => q = p) (fun _ => False) a.finish b.finish := by
  unfold Situation.finish
  rw [h.atRoot]
  refine (h.active.flush a.atRoot .stop).seq fun x x' hx => .pure ?_
  rw [hx.eased.eq]
  rfl

end Situation.Eased

/-! ### Scans that cannot end well -/

private theorem Stuck.of_spec {b b' : OpenBlock C n} {bs : List (OpenBlock C n)} (h : Stuck (b :: bs))
    (hs : b'.spec = b.spec) :
    Stuck (b' :: bs) := by
  cases h with
  | here hl hf => exact .here (by rwa [hs]) hf
  | above b h => exact .above b' h

namespace Situation.Doomed

theorem endRun {s : Situation C n} (h : s.Doomed) (k : Boundary) : (s.endRun k).Ensures Doomed :=
  (OpenBlock.ensures_flush s.atRoot k s.active).bind fun _ hb =>
    .pure (Stuck.of_spec h (OpenBlock.spec_of_title hb))

theorem receive {s : Situation C n} (h : s.Doomed) (p : Part) : (s.receive p).Ensures Doomed :=
  (h.endRun .block).bind fun s h => (OpenBlock.ensures_receive s.atRoot p s.active).bind fun _ hb =>
    .pure (Stuck.of_spec h (OpenBlock.spec_of_title hb))

theorem close {s : Situation C n} (h : s.Doomed) (limit : Nat) (stop : Option Delimiter) :
    (s.close limit stop).Ensures Doomed := by
  refine (h.endRun .stop).bind ?_
  rintro ⟨text, suspended, inner, around, k⟩ h
  dsimp only
  cases around with
  | nil => cases h with | above _ h => cases h
  | cons outer around =>
    cases h with
    | here hl hf =>
      -- the list comes to the root, where the run ends
      refine (OpenBlock.again?_of_givesLists hl stop).bind fun p hp => ?_
      have hnever : (OpenBlock.flush true .block outer).Ensures fun _ => False := fun c r _ hr => hf c r (by rw [hr])
      rw [hp]
      exact (hnever.bind fun _ h => h.elim).bind fun _ (h : False) => h.elim
    | above _ h =>
      refine (Effect.Ensures.any _).bind fun p _ => ?_
      cases State.again? inner p with
      | some text =>
        show (Situation.scanAgain _ _ _ _ _).Ensures _
        unfold Situation.scanAgain
        split
        · exact .throw _ _
        · exact .pure h
      | none => exact receive (s := ⟨_, _, outer, around, k⟩) h p

theorem makeMove {s : Situation C g.size} (h : s.Doomed) (limit : Nat) (m : Move g.size) :
    (s.makeMove g limit m).Ensures Doomed := by
  cases m with
  | escape escaped literal => exact .pure (Stuck.of_spec h rfl)
  | close stop => exact h.close limit (some stop)
  | enter name slot start =>
    have hrun : (s.endRunBefore (g.spec slot)).Ensures Doomed := by
      unfold Situation.endRunBefore
      split
      · exact .pure h
      · exact h.endRun .block
    exact hrun.bind fun s h => .pure (Stuck.above _ h)
  | split m token =>
    refine (h.endRun .split).bind fun s h => .pure (Stuck.of_spec h ?_)
    cases token <;> rfl
  | strip m => exact .pure h
  | char =>
    unfold Situation.makeMove
    dsimp only
    split
    · exact .pure h
    · exact .pure (Stuck.of_spec h rfl)

theorem advance {s : Situation C g.size} (h : s.Doomed) (o : Options) :
    (s.advance g o).Ensures fun t => ∃ s, t = some s ∧ s.Doomed := by
  have hmap : ∀ x : Effect C (Situation C g.size), x.Ensures Doomed →
      (some <$> x).Ensures fun t => ∃ s, t = some s ∧ s.Doomed := fun x hx => by
    rw [map_eq_pure_bind]
    exact hx.bind fun s h => .pure ⟨s, rfl, h⟩
  unfold Situation.advance
  split
  · split
    · exact .pure ⟨_, rfl, h⟩
    · split
      · rename_i hr
        -- a run waits only where a block is open
        unfold Doomed at h
        rw [hr] at h
        cases h with | above _ h => cases h
      · split
        · exact .throw _ _
        · exact hmap _ (h.close _ _)
  · exact hmap _ (h.makeMove _ _)

end Situation.Doomed

/-- A scan in which a run waits that will not be accepted fails. -/
theorem outcome_of_doomed (hroot : g.root.stop = none) {o : Options} (s : State C g.size)
    (hd : s.input.depth ≤ o.maxReparseDepth) (hs : s.Sound g) (h : s.situation.Doomed) (p : Part) :
    (s.outcome g o hd).result ≠ .ok p := by
  have ho := State.observe_advance (o := o) hs hroot
  have ha := h.advance (g := g) o s.context
  rw [← ho] at ha
  match hm : s.advance g o with
  | .failed f =>
    rw [State.outcome_failed hd hm]
    exact fun h => by cases h
  | .ended t =>
    rw [hm] at ha
    obtain ⟨s', hs', -⟩ := ha _ _ rfl
    cases hs'
  | .moved t =>
    rw [hm] at ha
    obtain ⟨s', hs', h'⟩ := ha _ _ rfl
    cases hs'
    rw [State.outcome_moved hd hm]
    exact outcome_of_doomed hroot t _ (hs.advance hm) h' p
termination_by State.measure o.maxReparseDepth s
decreasing_by exact State.advance_lt hd hm

/-! ### Scans in which runs wait -/

/-- Scans that go on from such situations give the same, or both fail. -/
theorem outcome_withoutReparse (hg : ∀ slot, (g.spec slot).Steady) (hl : ∀ slot ∈ blocks, (g.spec slot).GivesLists)
    (hroot : g.root.stop = none) {o : Options} (a : State C g.size) (b : State C (g.withoutReparse blocks).size)
    (hda : a.input.depth ≤ o.maxReparseDepth) (hdb : b.input.depth ≤ o.maxReparseDepth) (ha : a.Sound g)
    (hb : b.Sound (g.withoutReparse blocks)) (h : a.situation.Eased b.situation) (p : Part) :
    (a.outcome g o hda).result = .ok p ↔ (b.outcome (g.withoutReparse blocks) o hdb).result = .ok p := by
  have hroot' : (g.withoutReparse blocks).root.stop = none := by
    have hspec := g.spec_withoutReparse blocks g.rootSlot
    exact (congrArg Spec.stop hspec).trans hroot
  have hoa := State.observe_advance (o := o) ha hroot
  have hob := State.observe_advance (o := o) hb hroot'
  have hs := h.advance hg hl o a.context b.context
  rw [← hoa, ← hob] at hs
  match hma : a.advance g o, hmb : b.advance (g.withoutReparse blocks) o with
  | .moved t, .moved u =>
    rw [hma, hmb] at hs
    have hj : t.situation.Eased u.situation := by
      cases hs with | ok h => cases h with | some h => exact h
    rw [State.outcome_moved hda hma, State.outcome_moved hdb hmb]
    exact outcome_withoutReparse hg hl hroot t u _ _ (ha.advance hma) (hb.advance hmb) hj p
  | .ended t, .ended u =>
    have hf := h.finish a.context b.context
    rw [← State.outcome_ended hda hma, ← State.outcome_ended hdb hmb] at hf
    generalize (a.outcome g o hda).result = x at hf
    generalize (b.outcome (g.withoutReparse blocks) o hdb).result = y at hf
    cases hf with
    | ok h => rw [h]
    | error => simp
    | early _ h => exact h.elim
  | .failed f, .failed f' =>
    rw [State.outcome_failed hda hma, State.outcome_failed hdb hmb]
    simp
  | .moved t, .failed f =>
    -- the first scan fails later
    rw [hma, hmb] at hs
    have hdoom : t.situation.Doomed := by
      cases hs with | early _ h => obtain ⟨_, ht, h⟩ := h; cases ht; exact h
    have hne := outcome_of_doomed hroot t (State.depth_advance hda hma) (ha.advance hma) hdoom p
    rw [State.outcome_moved hda hma, State.outcome_failed hdb hmb]
    simp [hne]
  | .ended t, .failed f =>
    rw [hma, hmb] at hs
    cases hs with | early _ h => obtain ⟨_, ht, -⟩ := h; cases ht
  | .moved t, .ended u | .ended t, .moved u =>
    rw [hma, hmb] at hs
    cases hs with | ok h => cases h
  | .failed f, .moved u | .failed f, .ended u =>
    rw [hma, hmb] at hs
    cases hs
termination_by State.measure o.maxReparseDepth a
decreasing_by exact State.advance_lt hda hma

end

/-- Where a run waits for a block of which only lists come, this makes no difference. When the answers of all handlers
are the same in all contexts, and those of the handlers of some blocks are lists or errors, then a scan gives the same
parts whether or not what these blocks give would be scanned again, or it fails in both cases. -/
theorem scan_withoutReparse {d : Definition C} {g : Grammar C} (hg : d.resolve = .ok g)
    (hsteady : ∀ slot, (g.spec slot).Steady) {blocks : Finset (Fin g.size)}
    (hlists : ∀ slot ∈ blocks, (g.spec slot).GivesLists) (o : Options) (text : String) (context : C) (p : Part) :
    (scan g o text context).result = .ok p ↔ (scan (g.withoutReparse blocks) o text context).result = .ok p := by
  have hstart : (State.start g text context).situation.Eased
      (State.start (g.withoutReparse blocks) text context).situation := by
    refine ⟨rfl, rfl, ⟨?_, hsteady g.rootSlot⟩, .root, rfl⟩
    show (OpenBlock.root ((g.withoutReparse blocks).spec g.rootSlot)).settle (.ofString text) =
      ((OpenBlock.root (g.spec g.rootSlot)).settle (.ofString text)).withReparse
        ((g.withoutReparse blocks).spec g.rootSlot).reparse
    rw [Grammar.spec_withoutReparse]
    rfl
  rw [State.scan_eq_outcome, State.scan_eq_outcome]
  exact outcome_withoutReparse hsteady hlists (Definition.root_of_resolve hg).2 _ _ _ _ (.start g text context)
    (.start (g.withoutReparse blocks) text context) hstart p

/-- Parentheses in parentheses, which are lists, and would be scanned again if they were texts. -/
def parentheses : Definition Nat :=
  .mk {} none
    [("list", .inline (.mk
      { start := some "(", stop := some ")", handler := some fun p c => (.ok (.group [p, .text "."]), c + 1),
        reparse := true } none [("list", .ref "/blocks/list")]))]

/-- The run of the root waits for a list, and so does that of the list for the one in it. -/
theorem scan_withoutReparse_parentheses :
    ∃ g : Grammar Nat, parentheses.resolve = .ok g ∧ (∃ slot, (g.spec slot).reparses = true) ∧
      (scan g {} "a(b(c)d)e" 0).result = .ok (.group [.text "a",
        .group [.group [.text "b", .group [.group [.text "c"], .text "."], .text "d"], .text "."], .text "e"]) ∧
      (scan (g.withoutReparse .univ) {} "a(b(c)d)e" 0).result = .ok (.group [.text "a",
        .group [.group [.text "b", .group [.group [.text "c"], .text "."], .text "d"], .text "."], .text "e"]) := by
  have h : parentheses.resolvesTo (fun g => decide ((∃ slot, (g.spec slot).reparses = true) ∧
      (scan g {} "a(b(c)d)e" 0).result = .ok (.group [.text "a",
        .group [.group [.text "b", .group [.group [.text "c"], .text "."], .text "d"], .text "."], .text "e"]))) =
      true := by
    cbv
  obtain ⟨g, hg, h⟩ := Definition.exists_of_resolvesTo h
  obtain ⟨hr, hp⟩ := of_decide_eq_true h
  have hhandler : ∀ slot h, (g.spec slot).handler = some h → h = fun p c => (.ok (.group [p, .text "."]), c + 1) := by
    intro slot h hh
    obtain ⟨i, hi⟩ := Definition.handler_of_resolve hg slot
    rw [hi] at hh
    fin_cases i <;> cases hh
    rfl
  have hsteady : ∀ slot, (g.spec slot).Steady := by
    intro slot h hh
    rw [hhandler slot h hh]
    exact fun _ _ _ => rfl
  have hlists : ∀ slot ∈ (Finset.univ : Finset (Fin g.size)), (g.spec slot).GivesLists := by
    intro slot _ h hh p c q hq
    rw [hhandler slot h hh] at hq
    exact ⟨_, (Except.ok.inj hq).symm⟩
  exact ⟨g, hg, hr, hp, (scan_withoutReparse hg hsteady hlists {} "a(b(c)d)e" 0 _).1 hp⟩

end Scan

end Delimited
