import Delimited.Except
import Delimited.Scan.State

/-!
# Steps

What a step can do, said once. Most operations on a state change no more than the active block and the context, which
`State.Keeps` says; closing a block ends in one of three ways (`State.close_cases`); and `Step` has one case for
each way in which `State.advance` goes on (`Step.of_advance`). `Passage` has fewer cases: those that differ in what they
do to the input. What holds of a state after each of its steps is proved from these cases.
-/

namespace Delimited.Scan

variable {C : Type} {n : Nat}

namespace OpenBlock

/-- What stays the same about a block as long as it is open. -/
def title (b : OpenBlock C n) : String × Spec C n × Nat := (b.name, b.spec, b.openedAt)

theorem spec_of_title {b b' : OpenBlock C n} (h : b.title = b'.title) : b.spec = b'.spec := congrArg (·.2.1) h

theorem title_split (token : Option String) (b : OpenBlock C n) :
    (token.elim b fun t => b.addToken (.text t)).endSegment.title = b.title := by
  cases token <;> rfl

/-- The block with its stop, if that has been found and is kept. -/
def addStop (stop : Option Delimiter) (b : OpenBlock C n) : OpenBlock C n :=
  match stop with
  | some d => if b.spec.keepDelimiters then b.addToken (.text d.text) else b
  | none => b

theorem title_addStop (stop : Option Delimiter) (b : OpenBlock C n) : (b.addStop stop).title = b.title := by
  cases stop with
  | none => rfl
  | some d => by_cases hk : b.spec.keepDelimiters <;> simp [addStop, hk, title, addToken]

/-- The fragment that a block gives up is its run, and nothing else about the block changes. -/
theorem eq_of_fragment {k : Boundary} {b b' : OpenBlock C n} {text : String} (h : b.fragment? k = some (text, b')) :
    text = b.run ∧ b' = { b with run := "" } := by
  unfold fragment? at h
  split at h
  · simp only [Option.some.injEq, Prod.mk.injEq] at h
    exact ⟨h.1.symm, h.2.symm⟩
  · exact absurd h (by simp)

/-- A change that leaves alone what the end of a run depends on comes to the same before it and behind it. -/
theorem fragment?_map {f : OpenBlock C n → OpenBlock C n} {b : OpenBlock C n} (hrun : (f b).run = b.run)
    (hvalue : (f b).hasValue = b.hasValue) (hsplit : (f b).hasSplit = b.hasSplit)
    (hignore : (f b).spec.ignoreEmpty = b.spec.ignoreEmpty) (hf : { f b with run := "" } = f { b with run := "" })
    (k : Boundary) : (f b).fragment? k = (b.fragment? k).map fun r => (r.1, f r.2) := by
  have he : (f b).endsEmptySegment k = b.endsEmptySegment k := by
    cases k <;> simp only [endsEmptySegment, hvalue, hsplit]
  unfold fragment?
  rw [hrun, he, hignore, hf]
  split <;> rfl

end OpenBlock

namespace State

/-! ### The active block and those around it -/

/-- The blocks around the active one, the root last. -/
def around (s : State C n) : List (OpenBlock C n) := (s.opened ++ [s.root]).tail

theorem length_around (s : State C n) : s.around.length = s.opened.length := by
  simp [around]

theorem opened_append_root (s : State C n) : s.opened ++ [s.root] = s.active :: s.around := by
  unfold active around
  cases s.opened <;> rfl

@[simp] theorem active_modifyActive (f : OpenBlock C n → OpenBlock C n) (s : State C n) :
    (s.modifyActive f).active = f s.active := by
  unfold modifyActive active
  split <;> simp_all

@[simp] theorem around_modifyActive (f : OpenBlock C n → OpenBlock C n) (s : State C n) :
    (s.modifyActive f).around = s.around := by
  unfold modifyActive around
  split <;> simp_all

/-- Changing the active block changes nothing else. -/
theorem modifyActive_eq (f : OpenBlock C n → OpenBlock C n) (s : State C n) :
    (s.modifyActive f).input = s.input ∧ (s.modifyActive f).endReparses = s.endReparses ∧
      (s.modifyActive f).context = s.context ∧ (s.modifyActive f).events = s.events := by
  unfold modifyActive
  split <;> simp

@[simp] theorem input_modifyActive (f : OpenBlock C n → OpenBlock C n) (s : State C n) :
    (s.modifyActive f).input = s.input := (modifyActive_eq f s).1

@[simp] theorem context_modifyActive (f : OpenBlock C n → OpenBlock C n) (s : State C n) :
    (s.modifyActive f).context = s.context := (modifyActive_eq f s).2.2.1

/-! ### Moving the cursor -/

theorem rest_skip {s : State C n} {m r : List Char} (h : s.input.current.rest = m ++ r) :
    (s.skip m).input.current.rest = r := (Cursor.advance_of_eq_append h).2

theorem skip_nil (s : State C n) : s.skip [] = s := by
  have h := Cursor.advance_of_eq_append (c := s.input.current) (m := []) (List.nil_append _).symm
  have : s.input.current.advance (byteLength []) = s.input.current := Cursor.ext h.1 h.2
  unfold skip
  rw [this]

/-! ### Handlers change no more than the context -/

theorem apply_eq_ok {s s' : State C n} {h : Handler C} {p q : Part} {block : String}
    (hs : s.apply h p block = .ok (q, s')) : ∃ c, s' = { s with context := c } := by
  unfold State.apply at hs
  split at hs
  · simp only [Except.ok.injEq, Prod.mk.injEq] at hs
    exact ⟨_, hs.2.symm⟩
  · simp [fail] at hs

theorem applyAtRoot_eq_ok {s s' : State C n} {h : Option (Handler C)} {p q : Part}
    (hs : s.applyAtRoot h p = .ok (q, s')) : ∃ c, s' = { s with context := c } := by
  unfold State.applyAtRoot at hs
  split at hs
  · split at hs
    · exact apply_eq_ok hs
    · simp only [Except.ok.injEq, Prod.mk.injEq] at hs
      exact ⟨s.context, hs.2.symm⟩
  · simp only [Except.ok.injEq, Prod.mk.injEq] at hs
    exact ⟨s.context, hs.2.symm⟩

theorem output_eq_ok {s s' : State C n} {inner : OpenBlock C n} {p : Part} (hs : s.output inner = .ok (p, s')) :
    ∃ c, s' = { s with context := c } := by
  unfold State.output at hs
  split at hs
  · exact apply_eq_ok hs
  · simp only [Except.ok.injEq, Prod.mk.injEq] at hs
    exact ⟨s.context, hs.2.symm⟩

/-- The end of a run gives nothing, or the run becomes a part of the active block. -/
theorem endRun_cases {s s' : State C n} {b : Boundary} (hs : s.endRun b = .ok s') :
    (s.collect.active.fragment? b = none ∧ s' = s.collect) ∨
      ∃ p c, s' = { s.collect.modifyActive (fun _ => { s.collect.active with run := "" }) with
        context := c }.modifyActive (·.addValue p) := by
  unfold endRun at hs
  dsimp only at hs
  split at hs
  · simp only [Except.ok.injEq] at hs
    exact Or.inl ⟨‹_›, hs.symm⟩
  · rename_i text inner hf
    obtain ⟨-, rfl⟩ := OpenBlock.eq_of_fragment hf
    obtain ⟨⟨p, t⟩, h₁, h₂⟩ := bind_eq_ok hs
    simp only [pure, Except.pure, Except.ok.injEq] at h₂
    obtain ⟨c, rfl⟩ := applyAtRoot_eq_ok h₁
    exact Or.inr ⟨p, c, h₂.symm⟩

/-- The result of a closed block is added where the run of the block around it has ended. -/
theorem addResult_eq_ok {s s' : State C n} {p : Part} (hs : s.addResult p = .ok s') :
    ∃ t q c, s.restartRun.endRun .block = .ok t ∧ s' = { t with context := c }.modifyActive (·.addValue q) := by
  unfold addResult at hs
  obtain ⟨t, h₁, hs⟩ := bind_eq_ok hs
  obtain ⟨⟨q, u⟩, h₂, hs⟩ := bind_eq_ok hs
  simp only [pure, Except.pure, Except.ok.injEq] at hs
  obtain ⟨c, rfl⟩ := applyAtRoot_eq_ok h₂
  exact ⟨t, q, c, h₁, hs.symm⟩

/-! ### What the operations leave alone -/

/-- The second state differs from the first in the active block, the context and the events at most, and the active
block is still the same one. -/
structure Keeps (s s' : State C n) : Prop where
  input : s'.input = s.input
  around : s'.around = s.around
  title : s'.active.title = s.active.title
  endReparses : s'.endReparses = s.endReparses

namespace Keeps

theorem refl (s : State C n) : Keeps s s := ⟨rfl, rfl, rfl, rfl⟩

theorem trans {s t u : State C n} (h : Keeps s t) (h' : Keeps t u) : Keeps s u :=
  ⟨h'.input.trans h.input, h'.around.trans h.around, h'.title.trans h.title, h'.endReparses.trans h.endReparses⟩

theorem length_opened {s s' : State C n} (h : Keeps s s') : s'.opened.length = s.opened.length := by
  rw [← length_around, h.around, length_around]

/-- A block that is open stays open. -/
theorem opened_ne_nil {s s' : State C n} (h : Keeps s s') (ho : s.opened ≠ []) : s'.opened ≠ [] := by
  rw [← List.length_pos_iff] at ho ⊢
  rwa [h.length_opened]

theorem modifyActive {f : OpenBlock C n → OpenBlock C n} {s : State C n} (h : (f s.active).title = s.active.title) :
    Keeps s (s.modifyActive f) := by
  obtain ⟨hi, he, -⟩ := modifyActive_eq f s
  exact ⟨hi, around_modifyActive f s, by rw [active_modifyActive]; exact h, he⟩

theorem record (e : Event) (s : State C n) : Keeps s (s.record e) := ⟨rfl, rfl, rfl, rfl⟩

theorem collect (s : State C n) : Keeps s s.collect := modifyActive rfl

theorem restartRun (s : State C n) : Keeps s s.restartRun := modifyActive rfl

theorem context (c : C) (s : State C n) : Keeps s { s with context := c } := ⟨rfl, rfl, rfl, rfl⟩

theorem endRun {s s' : State C n} {b : Boundary} (hs : s.endRun b = .ok s') : Keeps s s' := by
  rcases endRun_cases hs with ⟨-, rfl⟩ | ⟨p, c, rfl⟩
  · exact collect s
  · exact (((collect s).trans (modifyActive rfl)).trans (context c _)).trans (modifyActive rfl)

theorem addResult {s s' : State C n} {p : Part} (hs : s.addResult p = .ok s') : Keeps s s' := by
  obtain ⟨t, q, c, ht, rfl⟩ := addResult_eq_ok hs
  exact (((restartRun s).trans (endRun ht)).trans (context c t)).trans (modifyActive rfl)

theorem output {s s' : State C n} {inner : OpenBlock C n} {p : Part} (hs : s.output inner = .ok (p, s')) :
    Keeps s s' := by
  obtain ⟨c, rfl⟩ := output_eq_ok hs
  exact context c s

theorem endRunBefore {s s' : State C n} {child : Spec C n} (hs : s.endRunBefore child = .ok s') : Keeps s s' := by
  unfold State.endRunBefore at hs
  split at hs
  · simp only [Except.ok.injEq] at hs
    rw [← hs]
    exact collect s
  · exact endRun hs

/-- Taking up a text again exchanges the input. -/
theorem resume (input : Input) (s : State C n) : Keeps { s with input } (s.resume input) :=
  have hcollect : Keeps { s with input } { s.collect with input } :=
    ⟨rfl, (collect s).around, (collect s).title, (collect s).endReparses⟩
  (hcollect.trans (restartRun _)).trans (record _ _)

end Keeps

/-- A text that is scanned again is the current one from its start, and what was current is suspended. -/
theorem scanAgain_eq_ok {s s' : State C n} {limit : Nat} {block text : String} {atEnd : Bool}
    (hs : s.scanAgain limit block text atEnd = .ok s') :
    s.input.depth + s.endReparses < limit ∧ s'.input = s.input.suspend text ∧ s'.around = s.around ∧
      s'.active = s.active.goOnAt 0 ∧ s'.context = s.context ∧
      s'.endReparses = if atEnd then s.endReparses + 1 else s.endReparses := by
  unfold scanAgain at hs
  split at hs
  · simp [fail] at hs
  · simp only [Except.ok.injEq] at hs
    obtain ⟨hi, he, hc, -⟩ := modifyActive_eq (·.goOnAt 0)
      { s.record (.reparse block text (s.input.depth + 1)) with
        input := s.input.suspend text, endReparses := if atEnd then s.endReparses + 1 else s.endReparses }
    subst hs
    exact ⟨by omega, hi, around_modifyActive _ _, active_modifyActive _ _, hc, he⟩

/-! ### Closing a block -/

/-- The state without its innermost block, behind the stop of the block if that has been found. -/
def leave (stop : Option Delimiter) (inner : OpenBlock C n) (outer : List (OpenBlock C n)) (s : State C n) :
    State C n :=
  { s.skip (stop.elim [] Delimiter.chars) with opened := outer }.record
    (.exit s.input.current.offset inner.name (stop.map Delimiter.text))

/-- The text in the output of a block that is to be scanned again. -/
def again? (inner : OpenBlock C n) (p : Part) : Option String := if inner.spec.reparses then p.asText? else none

/-- Only a text is scanned again, and only for a block that reparses. -/
theorem again?_eq_some {inner : OpenBlock C n} {p : Part} {text : String} (h : again? inner p = some text) :
    inner.spec.reparses = true ∧ p = .text text := by
  unfold again? at h
  split at h
  · rename_i hr
    cases p with
    | group ps => cases h
    | text s =>
      cases h
      exact ⟨hr, rfl⟩
  · cases h

theorem again?_eq_none {inner : OpenBlock C n} (h : inner.spec.reparses = false) (p : Part) : again? inner p = none := by
  unfold again?
  rw [h]
  rfl

/-- Nothing but the spec of a block says whether its output is scanned again. -/
theorem again?_congr {m : Nat} {b : OpenBlock C n} {b' : OpenBlock C m} (h : b'.spec.reparses = b.spec.reparses) :
    again? b' = again? b := by
  unfold again?
  rw [h]

/-- Closing in steps: the run ends, the block is left, its output is made, and this is scanned again or becomes a
result. -/
theorem close_eq (limit : Nat) (stop : Option Delimiter) (s : State C n) :
    s.close limit stop = (do
      let s ← s.endRun .stop
      match s.opened with
      | [] => return s.skip (stop.elim [] Delimiter.chars)
      | inner :: outer =>
        let (p, s) ← (s.leave stop inner outer).output (inner.addStop stop)
        match again? inner p with
        | some text => s.scanAgain limit inner.name text stop.isNone
        | none => s.addResult p) := by
  unfold close
  congr 1
  funext s₁
  show (match s₁.opened with | [] => _ | inner :: outer => _) = _
  split
  · rfl
  · rename_i inner outer _
    have hname : (inner.addStop stop).name = inner.name := congrArg Prod.fst (OpenBlock.title_addStop stop inner)
    have hspec : (inner.addStop stop).spec = inner.spec := OpenBlock.spec_of_title (OpenBlock.title_addStop stop inner)
    show (do
      let (p, s) ← (s₁.leave stop inner outer).output (inner.addStop stop)
      match if (inner.addStop stop).spec.reparses then p.asText? else none with
      | some text => s.scanAgain limit (inner.addStop stop).name text stop.isNone
      | none => s.addResult p) = _
    rw [hname, hspec]
    rfl

/-- The ways in which closing a block goes through. Without an open block only the run ends. -/
theorem close_cases {limit : Nat} {stop : Option Delimiter} {s s' : State C n} (h : s.close limit stop = .ok s') :
    (∃ s₁, s.endRun .stop = .ok s₁ ∧ s₁.opened = [] ∧ s' = s₁.skip (stop.elim [] Delimiter.chars)) ∨
    (∃ s₁ inner outer p s₂, s.endRun .stop = .ok s₁ ∧ s₁.opened = inner :: outer ∧
      (s₁.leave stop inner outer).output (inner.addStop stop) = .ok (p, s₂) ∧
      ((∃ text, again? inner p = some text ∧ s₂.scanAgain limit inner.name text stop.isNone = .ok s') ∨
        (again? inner p = none ∧ s₂.addResult p = .ok s'))) := by
  rw [close_eq] at h
  obtain ⟨s₁, h₁, h⟩ := bind_eq_ok h
  split at h
  · rename_i ho
    simp only [pure, Except.pure, Except.ok.injEq] at h
    exact Or.inl ⟨s₁, h₁, ho, h.symm⟩
  · rename_i inner outer ho
    obtain ⟨⟨p, s₂⟩, h₂, h⟩ := bind_eq_ok h
    refine Or.inr ⟨s₁, inner, outer, p, s₂, h₁, ho, h₂, ?_⟩
    dsimp only at h
    split at h
    · rename_i text ht
      exact Or.inl ⟨text, ht, h⟩
    · rename_i hn
      exact Or.inr ⟨hn, h⟩

end State

/-! ### One step -/

/-- The steps that do not fail. -/
inductive Step (g : Grammar C) (o : Options) (s : State C g.size) : State C g.size → Prop
  /-- A suspended text is taken up again. -/
  | resume {c : Cursor} {cs : List Cursor} (hr : s.input.current.rest = []) (hs : s.input.suspended = c :: cs) :
    Step g o s (s.resume ⟨c, cs⟩)
  /-- A block is closed at the end of the input. -/
  | closeAtEnd {s' : State C g.size} (hr : s.input.current.rest = []) (hs : s.input.suspended = [])
    (ho : s.opened ≠ []) (h : s.close o.maxReparseDepth none = .ok s') : Step g o s s'
  | escape {escaped literal : Delimiter}
    (hm : nextMove g s.active.spec s.input.current.rest = .escape escaped literal) :
    Step g o s (((((s.record (.escape s.input.current.offset s.active.name escaped.text)).collect).modifyActive
      (·.addText literal.text)).skip escaped.chars).restartRun)
  | close {stop : Delimiter} {s' : State C g.size} (hm : nextMove g s.active.spec s.input.current.rest = .close stop)
    (h : s.close o.maxReparseDepth (some stop) = .ok s') : Step g o s s'
  | enter {name : String} {slot : Fin g.size} {start : Delimiter} {s₁ : State C g.size}
    (hm : nextMove g s.active.spec s.input.current.rest = .enter name slot start)
    (h : (s.record (.enter s.input.current.offset name start.text)).endRunBefore (g.spec slot) = .ok s₁) :
    Step g o s { s₁.skip start.chars with
      opened := .enter name (g.spec slot) s.input.current.offset start :: s₁.opened }
  | split {m : RuleMatch} {token : Option String} {s₁ : State C g.size}
    (hm : nextMove g s.active.spec s.input.current.rest = .split m token)
    (h : (s.record (.split s.input.current.offset s.active.name (String.ofList m.whole))).endRun .split = .ok s₁) :
    Step g o s (((s₁.modifyActive fun f => (token.elim f fun t => f.addToken (.text t)).endSegment).skip
      m.whole).restartRun)
  | strip {m : RuleMatch} (hm : nextMove g s.active.spec s.input.current.rest = .strip m) :
    Step g o s (((s.record (.strip s.input.current.offset s.active.name (String.ofList m.whole))).collect.skip
      m.whole).restartRun)
  | char {c : Char} {current : Cursor} (hm : nextMove g s.active.spec s.input.current.rest = .char)
    (hn : s.input.current.next? = some (c, current)) :
    Step g o s ({ s with input := { s.input with current } }.record
      (.char s.input.current.offset c s.active.name))

private theorem of_eq_moved {x : Except (Failure C) (State C n)} {s : State C n} (h : Progress.of x = .moved s) :
    x = .ok s := by
  cases x with
  | error f => exact absurd h (by simp [Progress.of])
  | ok t => rw [Progress.moved.inj h]

private theorem Step.of_makeMove {g : Grammar C} {o : Options} {s s' : State C g.size}
    (hne : s.input.current.rest ≠ []) (h : s.makeMove g o.maxReparseDepth = .ok s') : Step g o s s' := by
  unfold State.makeMove at h
  dsimp only at h
  split at h
  · rename_i hm
    simp only [Except.ok.injEq] at h
    rw [← h]
    exact .escape hm
  · rename_i hm
    exact .close hm h
  · rename_i hm
    unfold State.enter at h
    obtain ⟨s₁, h₁, h⟩ := bind_eq_ok h
    simp only [pure, Except.pure, Except.ok.injEq] at h
    rw [← h]
    exact .enter hm h₁
  · rename_i hm
    obtain ⟨s₁, h₁, h⟩ := bind_eq_ok h
    simp only [pure, Except.pure, Except.ok.injEq] at h
    rw [← h]
    exact .split hm h₁
  · rename_i hm
    simp only [Except.ok.injEq] at h
    rw [← h]
    exact .strip hm
  · rename_i hm
    split at h
    · rename_i hn
      simp only [Except.ok.injEq] at h
      rw [← h]
      exact .char hm hn
    · rename_i hn
      unfold Cursor.next? at hn
      split at hn
      · exact absurd ‹_› hne
      · simp at hn

/-- A state goes on in one of the ways of `Step`. -/
theorem Step.of_advance {g : Grammar C} {o : Options} {s s' : State C g.size} (h : s.advance g o = .moved s') :
    Step g o s s' := by
  unfold State.advance at h
  split at h
  · rename_i he
    have hr : s.input.current.rest = [] := by simpa [Cursor.atEnd] using he
    split at h
    · rename_i input hi
      unfold Input.resume? at hi
      split at hi
      · simp at hi
      · rename_i c cs hs
        simp only [Option.some.injEq] at hi
        rw [← Progress.moved.inj h, ← hi]
        exact .resume hr hs
    · rename_i hi
      have hs : s.input.suspended = [] := by
        unfold Input.resume? at hi
        split at hi
        · assumption
        · simp at hi
      split at h
      · simp at h
      · rename_i ho
        split at h
        · exact absurd (of_eq_moved h) (by simp [State.fail])
        · exact .closeAtEnd hr hs (by simp [ho]) (of_eq_moved h)
  · rename_i he
    exact Step.of_makeMove (by simpa [Cursor.atEnd] using he) (of_eq_moved h)

/-! ### Ways through the input -/

/-- The steps again, as far as they lead through the input. Escapes, splits and strips are alike: the cursor passes what
has been recognised, and the run goes on behind it. So are the two ways to close a block. -/
inductive Passage (g : Grammar C) (o : Options) (s : State C g.size) : State C g.size → Prop
  | resume {c : Cursor} {cs : List Cursor} (hr : s.input.current.rest = []) (hs : s.input.suspended = c :: cs) :
    Passage g o s (s.resume ⟨c, cs⟩)
  | close {stop : Option Delimiter} {s' : State C g.size} (hp : stop.elim [] Delimiter.chars <+: s.input.current.rest)
    (hn : stop = none → s.input.current.rest = [] ∧ s.opened ≠ []) (h : s.close o.maxReparseDepth stop = .ok s') :
    Passage g o s s'
  | enter {name : String} {slot : Fin g.size} {start : Delimiter} {s₁ : State C g.size}
    (hp : start.chars <+: s.input.current.rest) (hk : State.Keeps s s₁)
    (h : (s.record (.enter s.input.current.offset name start.text)).endRunBefore (g.spec slot) = .ok s₁) :
    Passage g o s { s₁.skip start.chars with
      opened := .enter name (g.spec slot) s.input.current.offset start :: s₁.opened }
  | pass {m : List Char} {s₁ : State C g.size} (hm : m ≠ []) (hp : m <+: s.input.current.rest)
    (hk : State.Keeps s s₁) : Passage g o s (s₁.skip m).restartRun
  | char {c : Char} {current : Cursor} (hn : s.input.current.next? = some (c, current)) :
    Passage g o s ({ s with input := { s.input with current } }.record
      (.char s.input.current.offset c s.active.name))

theorem Step.passage {g : Grammar C} {o : Options} {s s' : State C g.size} (h : Step g o s s') : Passage g o s s' := by
  have hp := recognised_isPrefix g s.active.spec s.input.current.rest
  cases h with
  | resume hr hs => exact .resume hr hs
  | closeAtEnd hr _ ho h =>
    have hp : (none : Option Delimiter).elim [] Delimiter.chars <+: s.input.current.rest := List.nil_prefix
    exact .close hp (fun _ => ⟨hr, ho⟩) h
  | escape hm =>
    rename_i escaped _
    rw [hm] at hp
    exact .pass escaped.ne_nil hp (((State.Keeps.record _ s).trans (.collect _)).trans (.modifyActive rfl))
  | close hm h =>
    rename_i stop
    rw [hm] at hp
    have hp : (some stop).elim [] Delimiter.chars <+: s.input.current.rest := hp
    exact .close hp (by simp) h
  | enter hm h =>
    rw [hm] at hp
    exact .enter hp ((State.Keeps.record _ s).trans (.endRunBefore h)) h
  | split hm h =>
    rename_i m token _
    rw [hm] at hp
    exact .pass m.ne_nil hp (((State.Keeps.record _ s).trans (.endRun h)).trans
      (.modifyActive (OpenBlock.title_split token _)))
  | strip hm =>
    rename_i m
    rw [hm] at hp
    exact .pass m.ne_nil hp ((State.Keeps.record _ s).trans (.collect _))
  | char _ hn => exact .char hn

theorem Passage.of_advance {g : Grammar C} {o : Options} {s s' : State C g.size} (h : s.advance g o = .moved s') :
    Passage g o s s' := (Step.of_advance h).passage

end Delimited.Scan
