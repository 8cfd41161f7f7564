import Delimited.Proofs.Scan.Row

/-!
# Parts of a block

When a block ends, its parts are the items of its row (`Noted.parts_of_ends`), between its start and its stop if they
are kept. In the root the handler has answered for the fragments, and for the values if it is asked for all; nothing
else becomes of an item. So it does not matter when a run has become a part, nor that a block that is scanned again
lets the run in front of it go on in its output, and behind that in the text that was suspended.

The proof keeps a draft for every open block (`OpenBlock.Drafted`). The draft of the innermost one is as far as the
block, and so is that of a block around one that may be scanned again; that of any other block around has yet to end the
run that ended in front of the nested block (`Situation.Drafted`).
-/

namespace Delimited

variable {C : Type} {n : Nat}

/-- A delimiter of a block as a part, if it is there and is kept. -/
def Spec.keptDelimiter (s : Spec C n) (d : Option Delimiter) : List Part :=
  if s.keepDelimiters then d.toList.map fun d => .text d.text else []

namespace Scan

variable {α β : Type}

/-! ### Values of effects -/

private theorem Effect.bind_eq_ok {x : Effect C α} {f : α → Effect C β} {c c' : C} {b : β}
    (h : (x >>= f) c = (.ok b, c')) : ∃ a d, x c = (.ok a, d) ∧ f a d = (.ok b, c') := by
  rw [bind_apply] at h
  split at h
  · exact ⟨_, _, ‹_›, h⟩
  · cases h

theorem Effect.map_eq_ok {x : Effect C α} {f : α → β} {c c' : C} {b : β} (h : (f <$> x) c = (.ok b, c')) :
    ∃ a, x c = (.ok a, c') ∧ f a = b := by
  rw [map_eq_pure_bind] at h
  obtain ⟨a, d, ha, h⟩ := bind_eq_ok h
  cases h
  exact ⟨a, ha, rfl⟩

/-! ### Items as parts -/

/-- A handler answers with this part, in some context; without a handler a part stays as it is. -/
def Answers : Option (Handler C) → Part → Part → Prop
  | some h, p, q => ∃ c, (h p c).1 = .ok q
  | none, p, q => q = p

/-- What an item of a block becomes. -/
def Item.Becomes (isRoot : Bool) (s : Spec C n) : Item → Part → Prop
  | .fragment text, q => Answers (if isRoot then s.handler else none) (.text text) q
  | .value p, q => Answers (if isRoot && s.handleAll then s.handler else none) p q
  | .token text, q => q = .text text

/-- Whether a segment to which nothing has come is kept when it ends at a boundary. -/
def Draft.keepsEmpty (ignoreEmpty : Bool) (t : Draft) : Boundary → Bool
  | .block => false
  | .split => !ignoreEmpty
  | .stop => decide (0 < t.splits) && !ignoreEmpty

namespace OpenBlock

variable {isRoot : Bool} {b b' : OpenBlock C n} {c c' : C} {p q : Part} {t : Draft}

private theorem offer_eq_ok {h : Option (Handler C)} (hq : b.offer isRoot h p c = (.ok q, c')) :
    Answers (if isRoot then h else none) p q := by
  unfold offer at hq
  cases h with
  | none =>
    cases hq
    cases isRoot <;> rfl
  | some h =>
    cases isRoot with
    | false =>
      cases hq
      rfl
    | true =>
      simp only [if_true, handle] at hq
      split at hq
      · rename_i r d hr
        cases hq
        exact ⟨c, by rw [hr]⟩
      · cases hq

/-! ### Drafted blocks -/

/-- A draft of a block is as far as the block. -/
structure Drafted (isRoot : Bool) (b : OpenBlock C n) (t : Draft) : Prop where
  run : b.run = String.ofList t.run
  hasValue : b.hasValue = !t.items.isEmpty
  hasSplit : b.hasSplit = decide (0 < t.splits)
  parts : ∃ body, b.parts.toList = b.spec.keptDelimiter b.spec.start ++ body ∧
    List.Forall₂ (Item.Becomes isRoot b.spec) (t.ended ++ t.items) body

namespace Drafted

private theorem root {s : Spec C n} (h : s.start = none) : (OpenBlock.root s).Drafted true {} :=
  ⟨rfl, rfl, rfl, [], by simp [OpenBlock.root, Spec.keptDelimiter, h], .nil⟩

theorem enter (name : String) {s : Spec C n} (i : Nat) {start : Delimiter} (h : s.start = some start) :
    ((OpenBlock.enter name s i start).goOnAt 0).Drafted false {} := by
  refine ⟨rfl, rfl, rfl, [], ?_, .nil⟩
  by_cases hk : s.keepDelimiters <;> simp [OpenBlock.enter, goOnAt, Spec.keptDelimiter, h, hk]

theorem addText (h : b.Drafted isRoot t) (m : List Char) :
    (b.addText (String.ofList m)).Drafted isRoot { t with run := t.run ++ m } :=
  ⟨by simp [OpenBlock.addText, h.run], h.hasValue, h.hasSplit, h.parts⟩

/-- An item that becomes a part. -/
private theorem addItem (h : b.Drafted isRoot t) {i : Item} (hi : i.Becomes isRoot b.spec q) {r : List Char} :
    ({ b with run := String.ofList r }.addValue q).Drafted isRoot { t with items := t.items ++ [i], run := r } := by
  obtain ⟨body, hp, hb⟩ := h.parts
  refine ⟨rfl, by simp [addValue], h.hasSplit, body ++ [q], by simp [addValue, hp], ?_⟩
  rw [← List.append_assoc]
  exact List.rel_append hb (.cons hi .nil)

/-- A run is a fragment just when it becomes an item. -/
private theorem fragment?_eq (h : b.Drafted isRoot t) (k : Boundary) :
    b.fragment? k = if t.run ≠ [] ∨ t.keepsEmpty b.spec.ignoreEmpty k = true ∧ t.items = [] then
      some (b.run, { b with run := "" }) else none := by
  have hr : b.run.isEmpty = t.run.isEmpty := by
    rw [Bool.eq_iff_iff, h.run]
    simp
  have he : (b.endsEmptySegment k && !b.spec.ignoreEmpty) = (t.keepsEmpty b.spec.ignoreEmpty k && t.items.isEmpty) := by
    cases k <;> simp [endsEmptySegment, Draft.keepsEmpty, h.hasValue, h.hasSplit, Bool.and_comm, Bool.and_left_comm]
  unfold fragment?
  rw [hr, he]
  congr 1
  simp

private theorem flush {k : Boundary} (h : b.Drafted isRoot t) (hf : b.flush isRoot k c = (.ok b', c')) :
    b'.spec = b.spec ∧ b'.Drafted isRoot (t.endRun (t.keepsEmpty b.spec.ignoreEmpty k)) := by
  by_cases hk : t.run ≠ [] ∨ t.keepsEmpty b.spec.ignoreEmpty k = true ∧ t.items = []
  · unfold OpenBlock.flush at hf
    rw [h.fragment?_eq, if_pos hk] at hf
    rw [Draft.endRun, if_pos hk]
    obtain ⟨q, d, hq, hf⟩ := Effect.bind_eq_ok hf
    cases hf
    have ha := offer_eq_ok hq
    rw [h.run] at ha
    exact ⟨rfl, h.addItem (i := .fragment _) (r := []) ha⟩
  · unfold OpenBlock.flush at hf
    rw [h.fragment?_eq, if_neg hk] at hf
    rw [Draft.endRun, if_neg hk]
    cases hf
    exact ⟨rfl, h⟩

/-- The value of a nested block becomes a part where the run has ended. -/
theorem receive (h : b.Drafted isRoot t) (hr : t.run = []) (hb : b.receive isRoot p c = (.ok b', c')) :
    b'.spec = b.spec ∧ b'.Drafted isRoot (t.addValue p) := by
  obtain ⟨q, d, hq, hb⟩ := Effect.bind_eq_ok hb
  cases hb
  have ha : (Item.value p).Becomes isRoot b.spec q := by
    have ha := offer_eq_ok hq
    cases isRoot <;> exact ha
  have hv := h.addItem ha (r := [])
  have hrun : b.run = String.ofList [] := by rw [h.run, hr]
  rw [← hrun] at hv
  rw [← hr] at hv
  exact ⟨rfl, hv⟩

private theorem endSegment (h : b.Drafted isRoot t) (token : Option String) :
    (b.addKept token).endSegment.Drafted isRoot (t.endSegment token) := by
  obtain ⟨body, hp, hb⟩ := h.parts
  cases token with
  | none =>
    refine ⟨h.run, rfl, by simp [addKept, OpenBlock.endSegment, Draft.endSegment], body, hp, ?_⟩
    simpa [Draft.endSegment, addKept, OpenBlock.endSegment] using hb
  | some token =>
    refine ⟨h.run, rfl, by simp [addKept, addToken, OpenBlock.endSegment, Draft.endSegment], body ++ [.text token],
      by simp [addKept, addToken, OpenBlock.endSegment, hp], ?_⟩
    have ht : (Item.token token).Becomes isRoot b.spec (.text token) := rfl
    simpa [Draft.endSegment, addKept, addToken, OpenBlock.endSegment] using List.rel_append hb (.cons ht .nil)

end Drafted

end OpenBlock

/-! ### Drafts of all open blocks -/

namespace Situation

/-- What becomes of the active block when it closes. -/
def closing (stop : Option Delimiter) (s : Situation C n) : Effect C Part := do
  ((← s.active.flush s.atRoot .stop).addStop stop).value

/-- The drafts of the blocks around a nested one. The run in front of it goes on if it may be scanned again, and has
ended if not. -/
inductive Surrounded : Spec C n → List (OpenBlock C n) → List (List Arrival) → Prop
  | nil (child : Spec C n) : Surrounded child [] []
  | cons {child : Spec C n} {b : OpenBlock C n} {around : List (OpenBlock C n)} {own : List Arrival}
      {notes : List (List Arrival)} {t : Draft}
      (ht : t = if child.reparses then .ofArrivals b.spec.ignoreEmpty own
        else (Draft.ofArrivals b.spec.ignoreEmpty own).endRun false)
      (h : b.Drafted around.isEmpty t) (ha : Surrounded b.spec around notes) :
      Surrounded child (b :: around) (own :: notes)

theorem Surrounded.length_eq {child : Spec C n} {blocks : List (OpenBlock C n)} {notes : List (List Arrival)}
    (h : Surrounded child blocks notes) : notes.length = blocks.length := by
  induction h with
  | nil => rfl
  | cons _ _ _ ih => rw [List.length_cons, List.length_cons, ih]

/-- The drafts of what has come to the open blocks are as far as these. -/
inductive Drafted (s : Situation C n) : List (List Arrival) → Prop
  | mk {own : List Arrival} {around : List (List Arrival)}
      (h : s.active.Drafted s.atRoot (.ofArrivals s.active.spec.ignoreEmpty own))
      (ha : Surrounded s.active.spec s.around around) : Drafted s (own :: around)

/-- While the output of a nested block is scanned, the run of the block around it goes on. -/
theorem Surrounded.drafted_of_reparses {child : Spec C n} {s : Situation C n} {own : List Arrival}
    {notes : List (List Arrival)} (h : Surrounded child (s.active :: s.around) (own :: notes))
    (hr : child.reparses = true) : s.Drafted (own :: notes) := by
  cases h with
  | cons ht hb ha =>
    rw [if_pos hr] at ht
    rw [ht] at hb
    exact .mk hb ha

/-- The value of a nested block comes to the block around it, behind the run in front of it. -/
theorem Surrounded.drafted_of_receive {child : Spec C n} {s t : Situation C n} {own : List Arrival}
    {notes : List (List Arrival)} {p : Part} {c c' : C} (h : Surrounded child (s.active :: s.around) (own :: notes))
    (hp : s.receive p c = (.ok t, c')) : t.Drafted ((own ++ [.value p]) :: notes) := by
  cases h with
  | @cons _ _ _ _ _ d hd hb ha =>
    -- this run has ended before, or it ends now
    have hend : d.endRun false = (Draft.ofArrivals s.active.spec.ignoreEmpty own).endRun false := by
      rw [hd]
      split
      · rfl
      · exact Draft.endRun_of_run (Draft.run_endRun false _)
    obtain ⟨s₁, c₁, h₁, hp⟩ := Effect.bind_eq_ok hp
    obtain ⟨b₁, c₂, hb₁, h₁⟩ := Effect.bind_eq_ok h₁
    cases h₁
    obtain ⟨b₂, c₃, hb₂, hp⟩ := Effect.bind_eq_ok hp
    cases hp
    obtain ⟨hs₁, hflush⟩ := hb.flush hb₁
    obtain ⟨hs₂, hvalue⟩ := hflush.receive (Draft.run_endRun _ d) hb₂
    refine .mk ?_ ?_
    · rw [hs₂, hs₁, Draft.ofArrivals_append]
      show b₂.Drafted s.around.isEmpty (((Draft.ofArrivals s.active.spec.ignoreEmpty own).endRun false).addValue p)
      rw [← hend]
      exact hvalue
    · rw [hs₂, hs₁]
      exact ha

namespace Drafted

variable {s t : Situation C n} {own : List Arrival} {around notes : List (List Arrival)} {c c' : C}

/-- Where the texts stand makes no difference. -/
theorem congr (h : s.Drafted notes) (ha : t.active = s.active) (hr : t.around = s.around) : t.Drafted notes := by
  cases h with
  | mk h hs =>
    refine .mk ?_ ?_
    · rw [ha, atRoot, hr]
      exact h
    · rwa [ha, hr]

theorem addText (h : s.Drafted (own :: around)) (m : List Char) (text : Left) :
    Drafted { s with text, active := s.active.addText (String.ofList m) } ((own ++ m.map .char) :: around) := by
  cases h with
  | mk h ha =>
    refine .mk ?_ ha
    rw [Draft.ofArrivals_append, Draft.foldl_add_chars]
    exact h.addText m

/-- A split ends the segment of the active block. -/
theorem split (h : s.Drafted (own :: around)) {b : OpenBlock C n} (hb : s.active.flush s.atRoot .split c = (.ok b, c'))
    (token : Option String) (text : Left) :
    Drafted { s with text, active := (b.addKept token).endSegment } ((own ++ [.split token]) :: around) := by
  cases h with
  | mk h ha =>
    obtain ⟨hs, hd⟩ := h.flush hb
    have ht : (b.addKept token).endSegment.spec = s.active.spec :=
      (OpenBlock.spec_of_title (OpenBlock.title_split token b)).trans hs
    refine .mk ?_ ?_
    · rw [ht, Draft.ofArrivals_append]
      exact hd.endSegment token
    · rwa [ht]

theorem enter {g : Grammar C} {s t : Situation C g.size} {name : String} {slot : Fin g.size} {start : Delimiter}
    (h : s.Drafted (own :: around)) (hstart : (g.spec slot).start = some start)
    (ht : s.enter g name slot start c = (.ok t, c')) : t.Drafted ([] :: own :: around) := by
  cases h with
  | mk h ha =>
    obtain ⟨s₁, d, h₁, ht⟩ := Effect.bind_eq_ok ht
    cases ht
    have hs₁ : ∃ b, s₁ = { s with active := b } ∧ b.spec = s.active.spec ∧
        b.Drafted s.atRoot (if (g.spec slot).reparses then .ofArrivals s.active.spec.ignoreEmpty own
          else (Draft.ofArrivals s.active.spec.ignoreEmpty own).endRun false) := by
      unfold endRunBefore at h₁
      split at h₁
      · cases h₁
        exact ⟨s.active, rfl, rfl, by rwa [if_pos ‹_›]⟩
      · obtain ⟨b, d', hb, h₁⟩ := Effect.bind_eq_ok h₁
        cases h₁
        obtain ⟨hs, hd⟩ := h.flush hb
        exact ⟨b, rfl, hs, by rwa [if_neg ‹_›]⟩
    obtain ⟨b, rfl, hs, hb⟩ := hs₁
    refine .mk (OpenBlock.Drafted.enter name _ hstart) (.cons ?_ hb ?_)
    · rw [hs]
      rfl
    · rwa [hs]

private theorem close {limit : Nat} {stop : Option Delimiter} (h : s.Drafted (own :: around)) (ho : s.around ≠ [])
    (ht : s.close limit stop c = (.ok t, c')) :
    ∃ p d outer rest, s.closing stop c = (.ok p, d) ∧ around = outer :: rest ∧
      t.Drafted ((outer ++ if (State.again? s.active p).isNone then [.value p] else []) :: rest) := by
  obtain ⟨text, suspended, active, bs, e⟩ := s
  cases h with
  | mk h ha =>
    cases ha with
    | nil => exact absurd rfl ho
    | @cons _ b bs outer rest d hd hb ha =>
      have hs : Surrounded active.spec (b :: bs) (outer :: rest) := .cons hd hb ha
      obtain ⟨s₁, c₁, h₁, ht⟩ := Effect.bind_eq_ok ht
      obtain ⟨inner, c₂, hi, h₁⟩ := Effect.bind_eq_ok h₁
      cases h₁
      obtain ⟨p, c₃, hp, ht⟩ := Effect.bind_eq_ok ht
      have hspec : inner.spec = active.spec := (h.flush hi).1
      have hclosing : closing stop ⟨text, suspended, active, b :: bs, e⟩ c = (.ok p, c₃) := by
        unfold closing
        rw [Effect.bind_apply, hi]
        exact hp
      have hagain : State.again? inner = State.again? active := State.again?_congr (by rw [hspec])
      refine ⟨p, c₃, outer, rest, hclosing, rfl, ?_⟩
      rw [hagain] at ht
      cases hr : State.again? active p with
      | some again =>
        rw [hr] at ht
        dsimp only [scanAgain] at ht
        split at ht
        · cases ht
        · cases ht
          rw [Option.isNone_some, if_neg Bool.false_ne_true, List.append_nil]
          exact hs.drafted_of_reparses (State.again?_eq_some hr).1
      | none =>
        rw [hr] at ht
        exact hs.drafted_of_receive ht

end Drafted

end Situation

/-! ### States -/

namespace State

/-- Closing a block is an effect of the block alone. -/
theorem observe_closing (stop : Option Delimiter) (s : State C n) :
    observe (·.1) (·.2.context) (s.closing stop) = s.situation.closing stop s.context := by
  have hflush : s.situation.closing stop = (do
      let t ← s.situation.endRun .stop
      (t.active.addStop stop).value) := by
    simp [Situation.closing, Situation.endRun]
  rw [hflush]
  refine observe_bind (observe_endRun .stop s) fun t ht => ?_
  have ha : t.situation.active = t.active.goOnAt 0 :=
    situation_of_runStart (by rw [runStart_endRun ht, (Keeps.endRun ht).input])
  rw [ha, OpenBlock.addStop_goOnAt]
  exact observe_output _ _

/-- What is noted of a block that closes is what its situation gives. -/
theorem returned_of_closing {stop : Option Delimiter} {s : State C n} {p : Part} {d : C}
    (h : s.situation.closing stop s.context = (.ok p, d)) :
    s.returned stop = if (again? s.situation.active p).isNone then [.value p] else [] := by
  have ho := (observe_closing stop s).trans h
  unfold returned
  cases hc : s.closing stop with
  | error f =>
    rw [hc] at ho
    cases ho
  | ok r =>
    rw [hc] at ho
    cases ho
    rfl

section

variable {g : Grammar C} {o : Options} {s t : State C g.size} {notes : List (List Arrival)}

/-- A block that closes keeps the drafts of those around it. -/
private theorem drafted_close {stop : Option Delimiter} {own : List Arrival} {around : List (List Arrival)}
    {limit : Nat} {u : Situation C g.size} {c : C} (h : s.situation.Drafted (own :: around))
    (ho : s.situation.around ≠ []) (hc : s.situation.close limit stop s.context = (.ok u, c)) :
    u.Drafted (s.noteClose stop around) := by
  obtain ⟨p, d, outer, rest, hp, rfl, hd⟩ := h.close ho hc
  rwa [noteClose, returned_of_closing hp]

/-- A move keeps the drafts as far as the blocks. -/
private theorem drafted_makeMove {limit : Nat} {own : List Arrival} {around : List (List Arrival)}
    {u : Situation C g.size} {c : C} (hs : s.Sound g) (hg : g.root.stop = none)
    (h : s.situation.Drafted (own :: around)) (hr : s.input.current.rest ≠ [])
    (hu : s.situation.makeMove g limit (nextMove g s.active.spec s.input.current.rest) s.context = (.ok u, c)) :
    u.Drafted (s.note g o (own :: around)) := by
  have hsource := nextMove_source g s.active.spec s.input.current.rest
  rw [note, if_neg (by simpa [Cursor.atEnd] using hr)]
  cases hmove : nextMove g s.active.spec s.input.current.rest with
  | escape escaped literal =>
    rw [hmove] at hu
    cases hu
    exact h.addText literal.chars _
  | close stop =>
    rw [hmove] at hu
    exact drafted_close h (mt around_situation_eq_nil_iff.1 (hs.opened_of_close hg hmove)) hu
  | enter name slot start =>
    rw [hmove] at hu hsource
    exact h.enter hsource.2 hu
  | split m token =>
    rw [hmove] at hu
    obtain ⟨v, d, hv, hu⟩ := Effect.bind_eq_ok hu
    obtain ⟨b, d', hb, hv⟩ := Effect.bind_eq_ok hv
    cases hv
    cases hu
    exact h.split hb token _
  | strip m =>
    rw [hmove] at hu
    cases hu
    exact h.congr rfl rfl
  | char =>
    rw [hmove] at hu
    obtain ⟨x, r, hx⟩ := List.exists_cons_of_ne_nil hr
    have hx' : s.situation.text.rest = x :: r := hx
    rw [Situation.makeMove, hx'] at hu
    cases hu
    rw [hx]
    exact h.addText [x] _

/-- Every step keeps the drafts as far as the blocks. -/
theorem drafted_advance (hs : s.Sound g) (hg : g.root.stop = none) (h : s.situation.Drafted notes)
    (ht : s.advance g o = .moved t) : t.situation.Drafted (s.note g o notes) := by
  have hstep := observe_advance (o := o) hs hg
  rw [ht] at hstep
  have hstep : s.situation.advance g o s.context = (.ok (some t.situation), t.context) := hstep.symm
  obtain ⟨own, around, rfl⟩ : ∃ own around, notes = own :: around := by cases h; exact ⟨_, _, rfl⟩
  generalize t.situation = u at hstep ⊢
  generalize t.context = d at hstep
  by_cases hr : s.situation.text.rest = []
  · have hend : s.input.current.atEnd = true := List.isEmpty_iff.2 hr
    rw [note, if_pos hend]
    cases hc : s.input.suspended with
    | cons c cs =>
      have hsus : s.situation.suspended = c.left :: cs.map Cursor.left := by rw [situation, hc]; rfl
      rw [Situation.advance_of_suspended o hr hsus] at hstep
      cases hstep
      exact h.congr rfl rfl
    | nil =>
      have hsus : s.situation.suspended = [] := by rw [situation, hc]; rfl
      by_cases ha : s.situation.around = []
      · rw [Situation.advance_of_nil o hr hsus ha] at hstep
        cases hstep
      · cases hu : o.unterminated with
        | error =>
          rw [Situation.advance_of_error hu hr hsus ha] at hstep
          cases hstep
        | close =>
          rw [Situation.advance_of_close hu hr hsus ha] at hstep
          obtain ⟨v, hv, hvu⟩ := Effect.map_eq_ok hstep
          obtain rfl := Option.some.inj hvu
          exact drafted_close h ha hv
  · rw [Situation.advance_of_ne_nil o hr] at hstep
    obtain ⟨v, hv, hvu⟩ := Effect.map_eq_ok hstep
    obtain rfl := Option.some.inj hvu
    exact drafted_makeMove hs hg h hr hv

end

end State

/-- The drafts of what has come to the open blocks are as far as these, in every state that a scan goes through. -/
theorem Noted.drafted {D : Definition C} {g : Grammar C} {o : Options} {text : String} {context : C}
    {s : State C g.size} {notes : List (List Arrival)} (hD : D.resolve = .ok g) (h : Noted g o text context s notes) :
    s.situation.Drafted notes := by
  obtain ⟨hstart, hstop⟩ := Definition.root_of_resolve hD
  induction h with
  | start => exact .mk (OpenBlock.Drafted.root hstart) (.nil _)
  | step h ht ih => exact State.drafted_advance h.reachable.sound hstop ih ht

/-- There are notes for each open block and for the root. -/
theorem Noted.length_eq {D : Definition C} {g : Grammar C} {o : Options} {text : String} {context : C}
    {s : State C g.size} {notes : List (List Arrival)} (hD : D.resolve = .ok g) (h : Noted g o text context s notes) :
    notes.length = s.opened.length + 1 := by
  cases h.drafted hD with
  | mk _ ha =>
    have hl := ha.length_eq
    rw [State.situation, List.length_map, State.length_around] at hl
    rw [List.length_cons, hl]

/-! ### Parts of a block that ends -/

/-- A stop that is kept is the last part. -/
theorem OpenBlock.parts_addStop (stop : Option Delimiter) (b : OpenBlock C n) :
    (b.addStop stop).parts.toList = b.parts.toList ++ b.spec.keptDelimiter stop := by
  cases stop with
  | none => simp [addStop, Spec.keptDelimiter]
  | some d => by_cases hk : b.spec.keepDelimiters <;> simp [addStop, addToken, Spec.keptDelimiter, hk]

section

variable {D : Definition C} {g : Grammar C} {o : Options} {text : String} {context : C} {s : State C g.size}
  {notes : List (List Arrival)} {stop : Option Delimiter} {b : OpenBlock C g.size}

/-- When a block ends, the items of what has come to it have become its parts. -/
theorem Noted.body_of_ends (hD : D.resolve = .ok g) (h : Noted g o text context s notes) (hb : s.Ends g o stop b) :
    ∃ own around body, notes = own :: around ∧
      List.Forall₂ (Item.Becomes s.atRoot s.active.spec) (rowItems s.active.spec.ignoreEmpty own) body ∧
      b.parts.toList =
        s.active.spec.keptDelimiter s.active.spec.start ++ body ++ s.active.spec.keptDelimiter stop := by
  obtain ⟨t, ht, rfl⟩ := hb.block
  cases h.drafted hD with
  | @mk own around hd ha =>
    have hrun := (State.observe_endRun .stop s).symm
    rw [ht] at hrun
    obtain ⟨b, c, hb, hbt⟩ := Effect.bind_eq_ok hrun
    obtain ⟨hspec, hdraft⟩ := hd.flush hb
    -- the block at the end of its run, as it is in the state and in the situation
    have hactive : b = t.situation.active :=
      congrArg Situation.active (Except.ok.inj (congrArg Prod.fst hbt))
    have hparts : t.active.parts = b.parts := by rw [hactive]; rfl
    have htspec : t.active.spec = s.active.spec := OpenBlock.spec_of_title (State.Keeps.endRun ht).title
    obtain ⟨body, hp, hbody⟩ := hdraft.parts
    rw [hspec, State.atRoot_situation] at hbody
    rw [hspec] at hp
    refine ⟨own, around, body, rfl, hbody, ?_⟩
    rw [OpenBlock.parts_addStop, hparts, hp, htspec]
    rfl

/-- When a block ends, its parts are what the items of its row have become, between its start and its stop if they are
kept. -/
theorem Noted.parts_of_ends (hD : D.resolve = .ok g) (h : Noted g o text context s notes) (hb : s.Ends g o stop b) :
    ∃ own around k items body, notes = own :: around ∧ Row s.active.spec.ignoreEmpty k own items ∧
      List.Forall₂ (Item.Becomes s.atRoot s.active.spec) items body ∧
      b.parts.toList =
        s.active.spec.keptDelimiter s.active.spec.start ++ body ++ s.active.spec.keptDelimiter stop := by
  obtain ⟨own, around, body, hn, hbody, hp⟩ := h.body_of_ends hD hb
  exact ⟨own, around, _, _, body, hn, row_rowItems _ own, hbody, hp⟩

end

/-- A row in which what is in brackets is scanned again. -/
def columns : Definition Nat :=
  .mk { split := some (.literal ",") } none
    [("again", .inline (.mk
      { start := some "[", stop := some "]", handler := some fun p c => (.ok (.text p.flattenText), c + 1),
        reparse := true } none []))]

/-- Two segments of the root go on from the text into the output of a nested block, or from there into the text. -/
theorem parts_of_ends_columns :
    ∃ (g : Grammar Nat) (s : State Nat g.size) (notes : List (List Arrival)) (b : OpenBlock Nat g.size),
      columns.resolve = .ok g ∧ Noted g {} "a[b,c]d," 0 s notes ∧ s.Ends g {} none b ∧
        ∃ own around k items body, notes = own :: around ∧ Row s.active.spec.ignoreEmpty k own items ∧
          List.Forall₂ (Item.Becomes s.atRoot s.active.spec) items body ∧
          [.text "ab", .text "cd", .text ""] =
            s.active.spec.keptDelimiter s.active.spec.start ++ body ++ s.active.spec.keptDelimiter none := by
  have h : reaches columns {} "a[b,c]d," 0 12 (fun _ s =>
      s.input.current.rest.isEmpty && s.input.suspended.isEmpty && s.opened.isEmpty &&
        match s.endRun .stop with
        | .ok t => decide (t.active.parts.toList = [.text "ab", .text "cd", .text ""])
        | .error _ => false) = true := by
    cbv
  obtain ⟨g, s, hg, hs, h⟩ := exists_of_reaches h
  simp only [Bool.and_eq_true, List.isEmpty_iff] at h
  obtain ⟨⟨⟨hr, hsus⟩, ho⟩, h⟩ := h
  split at h
  · rename_i t ht
    obtain ⟨notes, hn⟩ := hs.exists_noted
    have hb : s.Ends g {} none t.active := ⟨⟨hr, hsus, absurd ho⟩, t, ht, rfl⟩
    have hparts := hn.parts_of_ends hg hb
    rw [of_decide_eq_true h] at hparts
    exact ⟨g, s, notes, t.active, hg, hn, hb, hparts⟩
  · cases h

end Scan

end Delimited
