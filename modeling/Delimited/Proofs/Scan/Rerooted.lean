import Delimited.Proofs.Grammar.RootHandler
import Delimited.Proofs.Scan.Segments

/-!
# States with another root

Two states that differ in the handler of the root, in the parts of the root and in the context (`State.Rerooted`) take
the same step (`State.Rerooted.advance`), as long as the handler of the root does not fail and the answers of the other
handlers do not depend on the context. The same comes to their open blocks (`State.Rerooted.note`), and a nested block
ends as the same block (`State.Rerooted.ends_iff`), so that its handler is offered the same part.

Each operation of a step has its lemma. Operations that may fail are compared by `Alongside`, which goes through binds.
-/

namespace Delimited

variable {C : Type} {n : Nat}

/-- What the handler answers does not depend on the context. -/
def Handler.Steady (h : Handler C) : Prop := ∀ p c c', (h p c).1 = (h p c').1

namespace Scan

variable {α β α' β' : Type}

/-! ### Computations side by side -/

/-- Two computations on states have gone through with related values, or failed with the same error after the same
events. -/
inductive Alongside (R : α → β → Prop) : Except (Failure C) α → Except (Failure C) β → Prop
  | ok {a : α} {b : β} (h : R a b) : Alongside R (.ok a) (.ok b)
  | error {f f' : Failure C} (he : f'.error = f.error) (hv : f'.events = f.events) : Alongside R (.error f) (.error f')

private theorem Alongside.bind {R : α → β → Prop} {S : α' → β' → Prop} {x : Except (Failure C) α}
    {y : Except (Failure C) β}
    {k : α → Except (Failure C) α'} {l : β → Except (Failure C) β'} (h : Alongside R x y)
    (hk : ∀ a b, R a b → Alongside S (k a) (l b)) : Alongside S (x >>= k) (y >>= l) := by
  cases h with
  | ok h => exact hk _ _ h
  | error he hv => exact .error he hv

/-- What is known of the first computation. -/
theorem Alongside.and_left {R : α → β → Prop} {P : α → Prop} {x : Except (Failure C) α} {y : Except (Failure C) β}
    (h : Alongside R x y) (hp : ∀ a, x = .ok a → P a) : Alongside (fun a b => R a b ∧ P a) x y := by
  cases h with
  | ok h => exact .ok ⟨h, hp _ rfl⟩
  | error he hv => exact .error he hv

namespace OpenBlock

/-- A root with a handler, and with other parts. -/
def handledBy (h : Handler C) (all : Bool) (parts : Array Part) (b : OpenBlock C n) : OpenBlock C n :=
  { b with spec := b.spec.withHandler (some h) all, parts }

end OpenBlock

namespace State

/-- The states differ in the handler of the root, in the parts of the root and in the context. The first one has no
handler for its root. -/
structure Rerooted (h : Handler C) (all : Bool) (s t : State C n) : Prop where
  handler : s.root.spec.handler = none
  eq : ∃ parts c, t = { s with root := s.root.handledBy h all parts, context := c }

namespace Rerooted

variable {h : Handler C} {all : Bool} {s t : State C n}

theorem input (hr : Rerooted h all s t) : t.input = s.input := by
  obtain ⟨-, parts, c, rfl⟩ := hr; rfl

theorem opened (hr : Rerooted h all s t) : t.opened = s.opened := by
  obtain ⟨-, parts, c, rfl⟩ := hr; rfl

theorem events (hr : Rerooted h all s t) : t.events = s.events := by
  obtain ⟨-, parts, c, rfl⟩ := hr; rfl

/-- Inside the root the same block is active. -/
theorem active (hr : Rerooted h all s t) :
    (s.opened ≠ [] ∧ t.active = s.active) ∨
      (s.opened = [] ∧ s.active.spec.handler = none ∧ ∃ parts, t.active = s.active.handledBy h all parts) := by
  obtain ⟨hn, parts, c, rfl⟩ := hr
  unfold State.active
  cases ho : s.opened with
  | nil => exact .inr ⟨rfl, hn, parts, rfl⟩
  | cons b bs => exact .inl ⟨by simp, rfl⟩

private theorem name_active (hr : Rerooted h all s t) : t.active.name = s.active.name := by
  rcases hr.active with ⟨-, ha⟩ | ⟨-, -, parts, ha⟩
  · rw [ha]
  · rw [ha]
    rfl

private theorem record (hr : Rerooted h all s t) (e : Event) : Rerooted h all (s.record e) (t.record e) := by
  obtain ⟨hn, parts, c, rfl⟩ := hr
  exact ⟨hn, parts, c, rfl⟩

private theorem skip (hr : Rerooted h all s t) (m : List Char) : Rerooted h all (s.skip m) (t.skip m) := by
  obtain ⟨hn, parts, c, rfl⟩ := hr
  exact ⟨hn, parts, c, rfl⟩

private theorem context (hr : Rerooted h all s t) (c c' : C) :
    Rerooted h all { s with context := c } { t with context := c' } := by
  obtain ⟨hn, parts, d, rfl⟩ := hr
  exact ⟨hn, parts, c', rfl⟩

private theorem opened_modifyActive_eq_nil {f : OpenBlock C n → OpenBlock C n} :
    (s.modifyActive f).opened = [] ↔ s.opened = [] := by
  unfold State.modifyActive
  split <;> simp [*]

/-- The active blocks are changed to blocks that differ as they did. -/
theorem modifyActive (hr : Rerooted h all s t) {f f' : OpenBlock C n → OpenBlock C n}
    (hn : s.opened ≠ [] → f' s.active = f s.active)
    (hroot : s.opened = [] → (f s.active).spec.handler = none ∧
      ∃ parts, f' t.active = (f s.active).handledBy h all parts) :
    Rerooted h all (s.modifyActive f) (t.modifyActive f') := by
  obtain ⟨hh, parts, c, rfl⟩ := hr
  unfold State.modifyActive
  unfold State.active at hn hroot
  cases ho : s.opened with
  | nil =>
    simp only [ho, List.head?_nil, Option.getD_none] at hroot
    obtain ⟨hs, parts', hp⟩ := hroot trivial
    refine ⟨hs, parts', c, ?_⟩
    simp only [hp]
  | cons b bs =>
    simp only [ho, List.head?_cons, Option.getD_some] at hn
    refine ⟨hh, parts, c, ?_⟩
    simp only [hn (by simp)]

/-- A change that leaves the handler alone, and is the same for the root but for its parts. -/
theorem modifyActive_of_forall (hr : Rerooted h all s t) {f f' : OpenBlock C n → OpenBlock C n}
    (hn : s.opened ≠ [] → f' = f) (hs : ∀ b, (f b).spec.handler = b.spec.handler)
    (hroot : ∀ b parts, ∃ parts', f' (b.handledBy h all parts) = (f b).handledBy h all parts') :
    Rerooted h all (s.modifyActive f) (t.modifyActive f') := by
  refine hr.modifyActive (fun ho => by rw [hn ho]) fun ho => ?_
  rcases hr.active with ⟨hne, -⟩ | ⟨-, hh, parts, ha⟩
  · exact absurd ho hne
  · rw [ha]
    exact ⟨(hs _).trans hh, hroot _ parts⟩

private theorem collect (hr : Rerooted h all s t) : Rerooted h all s.collect t.collect := by
  unfold State.collect
  rw [hr.input]
  exact hr.modifyActive_of_forall (fun _ => rfl) (fun _ => rfl) fun _ parts => ⟨parts, rfl⟩

private theorem goOnAt (hr : Rerooted h all s t) (i : Nat) :
    Rerooted h all (s.modifyActive (·.goOnAt i)) (t.modifyActive (·.goOnAt i)) :=
  hr.modifyActive_of_forall (fun _ => rfl) (fun _ => rfl) fun _ parts => ⟨parts, rfl⟩

private theorem restartRun (hr : Rerooted h all s t) : Rerooted h all s.restartRun t.restartRun := by
  unfold State.restartRun
  rw [hr.input]
  exact hr.goOnAt _

private theorem addText (hr : Rerooted h all s t) (x : String) :
    Rerooted h all (s.modifyActive (·.addText x)) (t.modifyActive (·.addText x)) :=
  hr.modifyActive_of_forall (fun _ => rfl) (fun _ => rfl) fun _ parts => ⟨parts, rfl⟩

/-- A value that a nested block gets is the same one. -/
theorem addValue (hr : Rerooted h all s t) {p q : Part} (hq : s.opened ≠ [] → q = p) :
    Rerooted h all (s.modifyActive (·.addValue p)) (t.modifyActive (·.addValue q)) :=
  hr.modifyActive_of_forall (fun ho => by rw [hq ho]) (fun _ => rfl) fun _ parts => ⟨parts.push q, rfl⟩

private theorem split (hr : Rerooted h all s t) (token : Option String) :
    Rerooted h all (s.modifyActive fun b => (token.elim b fun x => b.addToken (.text x)).endSegment)
      (t.modifyActive fun b => (token.elim b fun x => b.addToken (.text x)).endSegment) := by
  refine hr.modifyActive_of_forall (fun _ => rfl) (fun b => ?_) fun b parts => ?_
  · cases token <;> rfl
  · cases token with
    | none => exact ⟨parts, rfl⟩
    | some x => exact ⟨parts.push (.text x), rfl⟩

/-- The run of the root, or of a nested block, ends in the same way. -/
theorem fragment? (hr : Rerooted h all s t) (k : Boundary) :
    (s.active.fragment? k = none ∧ t.active.fragment? k = none) ∨
      ∃ text b b', s.active.fragment? k = some (text, b) ∧ t.active.fragment? k = some (text, b') ∧
        Rerooted h all (s.modifyActive fun _ => b) (t.modifyActive fun _ => b') ∧
        (s.opened = [] → b.spec.handler = none ∧ b'.spec.handler = some h) := by
  rcases hr.active with ⟨ho, ha⟩ | ⟨ho, hh, parts, ha⟩
  · rw [ha]
    cases hf : s.active.fragment? k with
    | none => exact .inl ⟨rfl, rfl⟩
    | some r => exact .inr ⟨r.1, r.2, r.2, rfl, rfl, hr.modifyActive (fun _ => rfl) (absurd · ho), (absurd · ho)⟩
  · rw [ha, OpenBlock.fragment?_map (f := (·.handledBy h all parts)) rfl rfl rfl rfl rfl]
    cases hf : s.active.fragment? k with
    | none => exact .inl ⟨rfl, rfl⟩
    | some r =>
      have hf : s.active.fragment? k = some (r.1, r.2) := hf
      obtain ⟨-, hb⟩ := OpenBlock.eq_of_fragment hf
      have hn : r.2.spec.handler = none := by rw [hb]; exact hh
      exact .inr ⟨r.1, r.2, r.2.handledBy h all parts, rfl, rfl,
        hr.modifyActive (absurd ho) fun _ => ⟨hn, parts, rfl⟩, fun _ => ⟨hn, rfl⟩⟩

/-- What is offered to the handler of the root is answered, and nothing is offered inside a nested block. -/
theorem applyAtRoot (hr : Rerooted h all s t) (hf : ∀ p c, ∃ q, (h p c).1 = .ok q) {k k' : Option (Handler C)}
    (hk : s.opened = [] → k = none ∧ (k' = none ∨ k' = some h)) (p : Part) :
    ∃ q c, s.applyAtRoot k p = .ok (p, s) ∧ t.applyAtRoot k' p = .ok (q, { t with context := c }) ∧
      (s.opened ≠ [] → q = p) := by
  have hroot : t.atRoot = s.atRoot := by unfold State.atRoot; rw [hr.opened]
  by_cases ho : s.opened = []
  · obtain ⟨rfl, hk'⟩ := hk ho
    rcases hk' with rfl | rfl
    · exact ⟨p, t.context, rfl, rfl, fun _ => rfl⟩
    · obtain ⟨q, hq⟩ := hf p t.context
      have ht : t.atRoot = true := by rw [hroot, State.atRoot, ho]; rfl
      refine ⟨q, (h p t.context).2, rfl, ?_, (absurd ho ·)⟩
      simp only [State.applyAtRoot, State.apply, ht, if_true]
      rw [← Prod.mk.eta (p := h p t.context), hq]
  · have hs : s.atRoot = false := by simpa [State.atRoot] using ho
    rw [hs] at hroot
    refine ⟨p, t.context, ?_, ?_, fun _ => rfl⟩
    · cases k <;> simp [State.applyAtRoot, hs]
    · cases k' <;> simp [State.applyAtRoot, hroot]

variable (hf : ∀ p c, ∃ q, (h p c).1 = .ok q)

include hf

/-- What is offered to the handler of the root becomes a part. -/
theorem offer (hr : Rerooted h all s t) {k k' : Option (Handler C)}
    (hk : s.opened = [] → k = none ∧ (k' = none ∨ k' = some h)) (p : Part) :
    Alongside (Rerooted h all) (do let (p, s) ← s.applyAtRoot k p; return s.modifyActive (·.addValue p))
      (do let (p, t) ← t.applyAtRoot k' p; return t.modifyActive (·.addValue p)) := by
  obtain ⟨q, c, hs, ht, hq⟩ := hr.applyAtRoot hf hk p
  rw [hs, ht]
  exact .ok ((hr.context s.context c).addValue hq)

theorem endRun (hr : Rerooted h all s t) (k : Boundary) :
    Alongside (Rerooted h all) (s.endRun k) (t.endRun k) := by
  unfold State.endRun
  rcases hr.collect.fragment? k with ⟨h₀, h₁⟩ | ⟨text, b, b', h₀, h₁, hb, hh⟩
  · simp only [h₀, h₁]
    exact .ok hr.collect
  · simp only [h₀, h₁]
    refine hb.offer hf (fun ho => ?_) (.text text)
    obtain ⟨hn, hsome⟩ := hh (opened_modifyActive_eq_nil.1 ho)
    exact ⟨hn, .inr hsome⟩

private theorem addResult (hr : Rerooted h all s t) (p : Part) :
    Alongside (Rerooted h all) (s.addResult p) (t.addResult p) := by
  refine (hr.restartRun.endRun hf .block).bind fun s t hr => hr.offer hf (fun ho => ?_) p
  rcases hr.active with ⟨hne, -⟩ | ⟨-, hh, parts, ha⟩
  · exact absurd ho hne
  · rw [hh, ha]
    refine ⟨ite_self _, ?_⟩
    cases all
    · exact .inl rfl
    · exact .inr rfl

omit hf in
private theorem scanAgain (hr : Rerooted h all s t) (limit : Nat) (block text : String) (atEnd : Bool) :
    Alongside (Rerooted h all) (s.scanAgain limit block text atEnd) (t.scanAgain limit block text atEnd) := by
  obtain ⟨hn, parts, c, rfl⟩ := hr
  unfold State.scanAgain
  show Alongside _ (if limit ≤ s.input.depth + s.endReparses then _ else _)
    (if limit ≤ s.input.depth + s.endReparses then _ else _)
  split
  · exact .error rfl rfl
  · refine .ok (goOnAt ?_ 0)
    exact ⟨hn, parts, c, rfl⟩

omit hf in
/-- A nested block that closes gives the same value. -/
theorem output (hr : Rerooted h all s t) {inner : OpenBlock C n}
    (hs : ∀ k, inner.spec.handler = some k → k.Steady) :
    Alongside (fun x y => y.1 = x.1 ∧ Rerooted h all x.2 y.2) (s.output inner) (t.output inner) := by
  unfold State.output
  cases hk : inner.spec.handler with
  | none => exact .ok ⟨rfl, hr⟩
  | some k =>
    have hc := hs k hk (.group inner.parts.toList) s.context t.context
    simp only [State.apply]
    rcases hx : k (.group inner.parts.toList) s.context with ⟨a | a, c⟩ <;>
      rcases hy : k (.group inner.parts.toList) t.context with ⟨b | b, c'⟩ <;>
      rw [hx, hy] at hc <;> cases hc
    · exact .error rfl hr.events
    · exact .ok ⟨rfl, hr.context c c'⟩

/-- A nested block ends in the same way. -/
theorem endRun_nested (hr : Rerooted h all s t) (ho : s.opened ≠ []) (k : Boundary) :
    Alongside (fun u v => Rerooted h all u v ∧ u.titles = s.titles ∧ u.opened ≠ [] ∧ v.active = u.active) (s.endRun k)
      (t.endRun k) := by
  have hu := (hr.endRun hf k).and_left fun u hu => Keeps.endRun hu
  generalize s.endRun k = x at hu
  generalize t.endRun k = y at hu
  cases hu with
  | error he hv => exact .error he hv
  | ok h =>
    obtain ⟨hr', hk⟩ := h
    refine .ok ⟨hr', hk.titles, hk.opened_ne_nil ho, ?_⟩
    rcases hr'.active with ⟨-, ha⟩ | ⟨hn, -⟩
    · exact ha
    · exact absurd hn (hk.opened_ne_nil ho)

/-- A nested block closes in the same way. -/
theorem closing (hr : Rerooted h all s t) (hs : ∀ x ∈ s.titles, ∀ k, x.2.1.handler = some k → k.Steady)
    (ho : s.opened ≠ []) (stop : Option Delimiter) :
    Alongside (fun x y => y.1 = x.1 ∧ Rerooted h all x.2 y.2) (s.closing stop) (t.closing stop) := by
  refine (hr.endRun_nested hf ho .stop).bind ?_
  rintro u v ⟨hr', ht, -, ha⟩
  rw [ha, hr'.opened]
  have hleave : Rerooted h all (u.leave stop u.active u.opened.tail) (v.leave stop u.active u.opened.tail) := by
    obtain ⟨hn, parts, c, rfl⟩ := hr'
    exact ⟨hn, parts, c, rfl⟩
  refine hleave.output fun k hk => hs u.active.title ?_ k ?_
  · rw [← ht, titles_eq]
    exact List.mem_cons_self
  · rw [← hk]
    exact congrArg Spec.handler (OpenBlock.spec_of_title (OpenBlock.title_addStop stop u.active)).symm

/-- The value of a nested block that closes is scanned again in the same way, or goes to the same block. -/
theorem close (hr : Rerooted h all s t) (hs : ∀ x ∈ s.titles, ∀ k, x.2.1.handler = some k → k.Steady)
    (ho : s.opened ≠ []) (limit : Nat) (stop : Option Delimiter) :
    Alongside (Rerooted h all) (s.close limit stop) (t.close limit stop) := by
  have ha : t.active = s.active := by
    rcases hr.active with ⟨-, ha⟩ | ⟨hn, -⟩
    · exact ha
    · exact absurd hn ho
  rw [close_eq_closing ho, close_eq_closing (by rwa [hr.opened]), ha]
  refine (hr.closing hf hs ho stop).bind ?_
  rintro ⟨p, u⟩ ⟨q, v⟩ ⟨rfl, hr'⟩
  dsimp only
  cases again? s.active q with
  | some text => exact hr'.scanAgain limit s.active.name text stop.isNone
  | none => exact hr'.addResult hf q

private theorem endRunBefore (hr : Rerooted h all s t) (child : Spec C n) :
    Alongside (Rerooted h all) (s.endRunBefore child) (t.endRunBefore child) := by
  unfold State.endRunBefore
  split
  · exact .ok hr.collect
  · exact hr.endRun hf .block

omit hf in
private theorem resume (hr : Rerooted h all s t) (input : Input) :
    Rerooted h all (s.resume input) (t.resume input) := by
  have hc : Rerooted h all { s.collect with input } { t.collect with input } := by
    obtain ⟨hn, parts, c, he⟩ := hr.collect
    rw [he]
    exact ⟨hn, parts, c, rfl⟩
  exact hc.restartRun.record _

end Rerooted

end State

/-! ### Steps side by side -/

/-- What comes of a step in each of the scans. -/
inductive AlongsideProgress (R : State C n → State C n → Prop) : Progress C n → Progress C n → Prop
  | ended {s t : State C n} (hr : R s t) : AlongsideProgress R (.ended s) (.ended t)
  | moved {s t : State C n} (hr : R s t) : AlongsideProgress R (.moved s) (.moved t)
  | failed {f f' : Failure C} (he : f'.error = f.error) (hv : f'.events = f.events) :
    AlongsideProgress R (.failed f) (.failed f')

/-! ### Moves -/

section

variable {g : Grammar C}

/-- The handler of the root has no part in what is recognised. -/
theorem nextMove_withRootHandler (h k : Option (Handler C)) (all a : Bool) (s : Spec C g.size) (rest : List Char) :
    nextMove (g.withRootHandler h all) (s.withHandler k a) rest = nextMove g s rest := by
  have hnested : ∀ slot : Fin g.size,
      ((g.withRootHandler h all).spec slot).start = (g.spec slot).start ∧
      ((g.withRootHandler h all).spec slot).escapedStart = (g.spec slot).escapedStart ∧
      ((g.withRootHandler h all).spec slot).replaceEscapes = (g.spec slot).replaceEscapes := by
    intro slot
    by_cases hs : slot = g.rootSlot
    · have hroot : (g.withRootHandler h all).spec slot = (g.spec slot).withHandler h all := by
        rw [hs]
        exact Grammar.root_withRootHandler
      rw [hroot]
      exact ⟨rfl, rfl, rfl⟩
    · rw [Grammar.spec_withRootHandler hs]
      exact ⟨rfl, rfl, rfl⟩
  have hmap : nextMove (g.withRootHandler h all) (s.withHandler k a) rest = (nextMove g s rest).map id :=
    nextMove_map (g := g) (h := g.withRootHandler h all) id rfl rfl rfl rfl rfl rfl (List.map_id s.blocks).symm hnested
      rest
  exact hmap.trans (Move.map_id _)

variable {h : Handler C} {all all₀ : Bool} {s t : State C g.size}

variable (all₀) in
private theorem State.Rerooted.nextMove (hr : Rerooted h all s t) (rest : List Char) :
    Scan.nextMove (g.withRootHandler (some h) all) t.active.spec rest =
      Scan.nextMove (g.withRootHandler none all₀) s.active.spec rest := by
  have h₀ := nextMove_withRootHandler (g := g) none s.active.spec.handler all₀ s.active.spec.handleAll s.active.spec rest
  refine Eq.trans ?_ h₀.symm
  rcases hr.active with ⟨-, ha⟩ | ⟨-, -, parts, ha⟩
  · rw [ha]
    exact nextMove_withRootHandler (some h) s.active.spec.handler all s.active.spec.handleAll s.active.spec rest
  · rw [ha]
    exact nextMove_withRootHandler (some h) (some h) all all s.active.spec rest

variable (hf : ∀ p c, ∃ q, (h p c).1 = .ok q) (hstart : g.root.start = none)

include hf hstart

private theorem State.Rerooted.enter (hr : Rerooted h all s t) {name : String} {slot : Fin g.size} {start : Delimiter}
    (hslot : ((g.withRootHandler none all₀).spec slot).start = some start) :
    Alongside (Rerooted h all) (s.enter (g.withRootHandler none all₀) name slot start)
      (t.enter (g.withRootHandler (some h) all) name slot start) := by
  have hne : slot ≠ g.rootSlot := by
    rintro rfl
    have hroot : (g.withRootHandler none all₀).spec g.rootSlot = g.root.withHandler none all₀ :=
      Grammar.root_withRootHandler
    rw [hroot] at hslot
    cases hstart.symm.trans hslot
  have h₀ : (g.withRootHandler none all₀).spec slot = g.spec slot := Grammar.spec_withRootHandler hne
  have h₁ : (g.withRootHandler (some h) all).spec slot = g.spec slot := Grammar.spec_withRootHandler hne
  unfold State.enter
  rw [h₀, h₁, hr.input]
  refine ((hr.record _).endRunBefore hf _).bind fun s₁ t₁ hr₁ => .ok ?_
  obtain ⟨hn, parts, c, rfl⟩ := hr₁
  exact ⟨hn, parts, c, rfl⟩

private theorem State.Rerooted.makeMove (hr : Rerooted h all s t)
    (hs : ∀ x ∈ s.titles, ∀ k, x.2.1.handler = some k → k.Steady)
    (hc : ∀ stop, Scan.nextMove (g.withRootHandler none all₀) s.active.spec s.input.current.rest = .close stop →
      s.opened ≠ []) (limit : Nat) :
    Alongside (Rerooted h all) (s.makeMove (g.withRootHandler none all₀) limit)
      (t.makeMove (g.withRootHandler (some h) all) limit) := by
  have hmove := hr.nextMove all₀ s.input.current.rest
  have hsource := nextMove_source (g.withRootHandler none all₀) s.active.spec s.input.current.rest
  unfold State.makeMove
  rw [hr.input, hr.name_active, hmove]
  dsimp only
  cases hm : Scan.nextMove (g.withRootHandler none all₀) s.active.spec s.input.current.rest with
  | escape escaped literal =>
    exact .ok (((hr.record _).collect.addText literal.text).skip _).restartRun
  | close stop => exact hr.close hf hs (hc stop hm) limit (some stop)
  | enter name slot start =>
    rw [hm] at hsource
    exact hr.enter hf hstart hsource.2
  | split m token =>
    exact ((hr.record _).endRun hf .split).bind fun s₁ t₁ hr₁ => .ok (((hr₁.split token).skip _).restartRun)
  | strip m => exact .ok ((hr.record _).collect.skip _).restartRun
  | char =>
    dsimp only
    cases s.input.current.next? with
    | none => exact .ok hr
    | some x =>
      obtain ⟨hn, parts, c, rfl⟩ := hr
      exact .ok ⟨hn, parts, c, rfl⟩

end

/-! ### Scans -/

section

variable {g : Grammar C} {h : Handler C} {all all₀ : Bool} {o : Options} {s t : State C g.size}
  (hf : ∀ p c, ∃ q, (h p c).1 = .ok q) (hroot : g.root.start = none ∧ g.root.stop = none)
  (hsteady : ∀ slot, slot ≠ g.rootSlot → ∀ k, (g.spec slot).handler = some k → k.Steady)

include hsteady in
/-- Without a handler of the root, the answers of all handlers do not depend on the context. -/
theorem steady_of_sound (hs : s.Sound (g.withRootHandler none all₀)) :
    ∀ x ∈ s.titles, ∀ k, x.2.1.handler = some k → k.Steady := by
  intro x hx k hk
  obtain ⟨slot, hslot⟩ := hs.specs x hx
  rw [hslot] at hk
  by_cases hr : slot = g.rootSlot
  · rw [hr] at hk
    have hnone : ((g.withRootHandler none all₀).spec g.rootSlot).handler = none :=
      congrArg Spec.handler Grammar.root_withRootHandler
    rw [hnone] at hk
    cases hk
  · have hspec : (g.withRootHandler none all₀).spec slot = g.spec slot := Grammar.spec_withRootHandler hr
    rw [hspec] at hk
    exact hsteady slot hr k hk

include hf in
/-- A nested block ends as the same block. -/
theorem State.Rerooted.ends_iff (hr : Rerooted h all s t) (ho : s.opened ≠ []) {stop : Option Delimiter}
    {b : OpenBlock C g.size} :
    s.Ends (g.withRootHandler none all₀) o stop b ↔ t.Ends (g.withRootHandler (some h) all) o stop b := by
  have hplace : s.EndsAt (g.withRootHandler none all₀) o stop ↔ t.EndsAt (g.withRootHandler (some h) all) o stop := by
    cases stop with
    | none =>
      unfold State.EndsAt
      dsimp only
      rw [hr.input, hr.opened]
    | some d =>
      unfold State.EndsAt
      dsimp only
      rw [hr.input, hr.nextMove all₀]
  have hblock : (∃ u, s.endRun .stop = .ok u ∧ b = u.active.addStop stop) ↔
      ∃ u, t.endRun .stop = .ok u ∧ b = u.active.addStop stop := by
    have hrun := hr.endRun_nested hf ho .stop
    generalize s.endRun .stop = x at hrun ⊢
    generalize t.endRun .stop = y at hrun ⊢
    cases hrun with
    | error he hv => simp
    | ok h => simp [h.2.2.2]
  exact ⟨fun h => ⟨hplace.1 h.place, hblock.1 h.block⟩, fun h => ⟨hplace.2 h.place, hblock.2 h.block⟩⟩

include hf hsteady

/-- The same comes to the open blocks. -/
theorem State.Rerooted.note (hr : Rerooted h all s t) (hs : s.Sound (g.withRootHandler none all₀))
    {own : List Arrival} {around : List (List Arrival)} (ha : around.length = s.opened.length) :
    t.note (g.withRootHandler (some h) all) o (own :: around) =
      s.note (g.withRootHandler none all₀) o (own :: around) := by
  have hclose : ∀ stop, t.noteClose stop around = s.noteClose stop around := by
    intro stop
    cases around with
    | nil => rfl
    | cons outer around =>
      have ho : s.opened ≠ [] := by
        rw [← List.length_pos_iff, ← ha]
        exact Nat.succ_pos _
      have hagain : ∀ p, again? t.active p = again? s.active p := by
        intro p
        rcases hr.active with ⟨-, hact⟩ | ⟨hn, -⟩
        · rw [hact]
        · exact absurd hn ho
      have hc := hr.closing hf (steady_of_sound hsteady hs) ho stop
      unfold State.noteClose State.returned
      generalize s.closing stop = x at hc ⊢
      generalize t.closing stop = y at hc ⊢
      cases hc with
      | error he hv => rfl
      | ok h =>
        dsimp only
        rw [h.1, hagain]
  have hmove := hr.nextMove all₀ s.input.current.rest
  unfold State.note
  dsimp only
  rw [hr.input, hmove, hclose none]
  cases Scan.nextMove (g.withRootHandler none all₀) s.active.spec s.input.current.rest <;> simp only [hclose]

include hroot

/-- Both scans take the same step. -/
theorem State.Rerooted.advance (hr : Rerooted h all s t) (hs : s.Sound (g.withRootHandler none all₀)) :
    AlongsideProgress (Rerooted h all) (s.advance (g.withRootHandler none all₀) o)
      (t.advance (g.withRootHandler (some h) all) o) := by
  have hof : ∀ {x y : Except (Failure C) (State C g.size)}, Alongside (Rerooted h all) x y →
      AlongsideProgress (Rerooted h all) (.of x) (.of y) := by
    intro x y hxy
    cases hxy with
    | ok h => exact .moved h
    | error he hv => exact .failed he hv
  have htitles := steady_of_sound hsteady hs
  have hstop : (g.withRootHandler none all₀).root.stop = none :=
    (congrArg Spec.stop Grammar.root_withRootHandler).trans hroot.2
  unfold State.advance
  rw [hr.input]
  split
  · cases s.input.resume? with
    | some input => exact .moved (hr.resume input)
    | none =>
      dsimp only
      rw [hr.opened]
      cases ho : s.opened with
      | nil => exact .ended hr
      | cons inner outer =>
        dsimp only
        cases o.unterminated with
        | error => exact .failed rfl hr.events
        | close => exact hof (hr.close hf htitles (by simp [ho]) _ none)
  · exact hof (hr.makeMove hf hroot.1 htitles (fun stop => hs.opened_of_close hstop) _)

end

end Scan

end Delimited
