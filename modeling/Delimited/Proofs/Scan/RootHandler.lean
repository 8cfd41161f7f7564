import Delimited.Proofs.Scan.Rerooted
import Delimited.Proofs.Scan.Termination

/-!
# The handler of the root

The scans with and without a handler of the root go side by side (`Abreast.after`), so that both end, or fail, after as
many steps. The same has come to both roots; without a handler its items become parts as they are, and with one that
answers like a function they become what `Item.handled` says (`scan_withRootHandler`).
-/

namespace Delimited.Scan

variable {C : Type} {n : Nat}

/-- What an item of the root becomes with a handler that answers like a function. -/
def Item.handled (f : Part → Part) (all : Bool) : Item → Part
  | .fragment text => f (.text text)
  | .value p => if all then f p else p
  | .token text => .text text

/-! ### The parts of the root -/

/-- The parts of the root at the end of a scan. -/
def rootParts (g : Grammar C) (o : Options) (text : String) (context : C) : Except Error (List Part) :=
  match (do (← State.run g o (.start g text context) (State.depth_start_le g o text context)).endRun .stop) with
  | .ok s => .ok s.root.parts.toList
  | .error f => .error f.error

/-- A scan gives the parts of the root as one part. -/
theorem result_scan (g : Grammar C) (o : Options) (text : String) (context : C) :
    (scan g o text context).result = Part.assemble <$> rootParts g o text context := by
  unfold scan rootParts
  generalize (do (← State.run g o (.start g text context) (State.depth_start_le g o text context)).endRun .stop) = x
  cases x <;> rfl

section

variable {g : Grammar C} {o : Options} {text : String} {context : C} {s : State C g.size} {k : Nat}

private theorem rootParts_of_failed {f : Failure C} (hk : (State.start g text context).after g o k = some s)
    (hf : s.advance g o = .failed f) : rootParts g o text context = .error f.error := by
  obtain ⟨hd, hrun⟩ := State.run_of_after (State.depth_start_le g o text context) hk
  unfold rootParts
  rw [hrun, State.run_of_failed hd hf]
  rfl

private theorem rootParts_of_ended (hk : (State.start g text context).after g o k = some s)
    (he : s.advance g o = .ended s) :
    rootParts g o text context = match s.endRun .stop with
      | .ok t => .ok t.root.parts.toList
      | .error f => .error f.error := by
  obtain ⟨hd, hrun⟩ := State.run_of_after (State.depth_start_le g o text context) hk
  unfold rootParts
  rw [hrun, State.run_of_ended hd he]
  rfl

/-- Where a scan ends the items of what has come to the root have become its parts. -/
theorem Noted.parts_of_ended {D : Definition C} {notes : List (List Arrival)} {t u : State C g.size}
    (hD : D.resolve = .ok g) (hn : Noted g o text context s notes) (he : s.advance g o = .ended t)
    (hu : s.endRun .stop = .ok u) :
    ∃ own, notes = [own] ∧
      List.Forall₂ (Item.Becomes true g.root) (rowItems g.root.ignoreEmpty own) u.root.parts.toList := by
  have ho := (State.advance_eq_ended he).2
  have hspec := hn.reachable.sound.spec_of_atRoot ho
  have hroot : s.atRoot = true := by rw [State.atRoot, ho]; rfl
  have hactive : u.active = u.root := by
    have ho : u.opened = [] := by
      rw [← List.length_eq_zero_iff, (State.Keeps.endRun hu).length_opened, ho]
      rfl
    rw [State.active, ho]
    rfl
  obtain ⟨own, around, body, rfl, hb, hp⟩ := hn.body_of_ends hD ⟨State.endsAt_of_ended he, u, hu, rfl⟩
  have hl := hn.length_eq hD
  rw [ho] at hl
  obtain rfl : around = [] := List.eq_nil_of_length_eq_zero (Nat.succ.inj hl)
  rw [hroot, hspec] at hb
  rw [hspec, (Definition.root_of_resolve hD).1] at hp
  refine ⟨own, rfl, ?_⟩
  have hbody : u.root.parts.toList = body := by
    rw [← hactive]
    simpa [Spec.keptDelimiter, OpenBlock.addStop] using hp
  rw [hbody]
  exact hb

end

/-! ### Two scans side by side -/

/-- The items of the root of a scan that ends: those of the row of what has come to the root. -/
def RootItems (g : Grammar C) (o : Options) (text : String) (context : C) (items : List Item) : Prop :=
  ∃ s own k, Noted g o text context s [own] ∧ s.advance g o = .ended s ∧ Row g.root.ignoreEmpty k own items

/-- States of the scans without and with a handler of the root that differ in the root and in the context only. The same
has come to their blocks. -/
structure Abreast (g : Grammar C) (h : Handler C) (all all₀ : Bool) (o : Options) (text : String) (context : C)
    (s t : State C g.size) : Prop where
  rerooted : s.Rerooted h all t
  notes : ∃ notes, Noted (g.withRootHandler none all₀) o text context s notes ∧
    Noted (g.withRootHandler (some h) all) o text context t notes

section

variable {D : Definition C} {g : Grammar C} {h : Handler C} {f : Part → Part} {all all₀ : Bool} {o : Options}
  {text : String} {context : C} {s t : State C g.size}

/-- Inside the root two states are the same: they are at the same place of the same texts, the same blocks are open, the
same has been told, and if the innermost block ends, it ends as the same block. -/
structure SameInside (g : Grammar C) (h h' : Option (Handler C)) (all all' : Bool) (o : Options)
    (s t : State C g.size) : Prop where
  input : t.input = s.input
  opened : t.opened = s.opened
  events : t.events = s.events
  ends : s.opened ≠ [] → ∀ stop b,
    s.Ends (g.withRootHandler h all) o stop b ↔ t.Ends (g.withRootHandler h' all') o stop b

private theorem Abreast.start : Abreast g h all all₀ o text context (.start (g.withRootHandler none all₀) text context)
    (.start (g.withRootHandler (some h) all) text context) := by
  have h₀ : (g.withRootHandler none all₀).root = g.root.withHandler none all₀ := Grammar.root_withRootHandler
  have h₁ : (g.withRootHandler (some h) all).root = g.root.withHandler (some h) all := Grammar.root_withRootHandler
  refine ⟨⟨congrArg Spec.handler h₀, #[], context, ?_⟩, [[]], .start, .start⟩
  unfold State.start
  rw [h₀, h₁]
  rfl

/-- The end of the root as a list of items. -/
private theorem map_of_becomes {s : Spec C n} {k : Item → Part} {items : List Item} {body : List Part}
    (hb : List.Forall₂ (Item.Becomes true s) items body) (hk : ∀ i q, i.Becomes true s q → q = k i) :
    body = items.map k := by
  induction hb with
  | nil => rfl
  | cons hq _ ih => rw [List.map_cons, hk _ _ hq, ih]

private theorem becomes_of_none {s : Spec C n} (hs : s.handler = none) (i : Item) (q : Part)
    (hq : i.Becomes true s q) : q = i.part := by
  cases i <;> simpa [Item.Becomes, Item.part, Answers, hs] using hq

variable (hf : ∀ p c, (h p c).1 = .ok (f p))

include hf

private theorem becomes_of_some {s : Spec C n} (hs : s.handler = some h) (ha : s.handleAll = all) (i : Item) (q : Part)
    (hq : i.Becomes true s q) : q = i.handled f all := by
  cases i with
  | fragment text =>
    obtain ⟨c, hc⟩ : ∃ c, (h (.text text) c).1 = .ok q := by simpa [Item.Becomes, Answers, hs] using hq
    exact Except.ok.inj (hc.symm.trans (hf _ c))
  | value p =>
    cases all with
    | false => simpa [Item.Becomes, Item.handled, Answers, ha] using hq
    | true =>
      obtain ⟨c, hc⟩ : ∃ c, (h p c).1 = .ok q := by simpa [Item.Becomes, Answers, hs, ha] using hq
      exact Except.ok.inj (hc.symm.trans (hf _ c))
  | token text => exact hq

variable (hsteady : ∀ slot, slot ≠ g.rootSlot → ∀ k, (g.spec slot).handler = some k → k.Steady)

private theorem Abreast.sameInside (hab : Abreast g h all all₀ o text context s t) :
    SameInside g none (some h) all₀ all o s t where
  input := hab.rerooted.input
  opened := hab.rerooted.opened
  events := hab.rerooted.events
  ends ho _ _ := hab.rerooted.ends_iff (fun p c => ⟨f p, hf p c⟩) ho

variable (hD : D.resolve = .ok g)

include hD hsteady

/-- Both scans take the same step, and stay abreast. -/
theorem Abreast.advance (hab : Abreast g h all all₀ o text context s t) :
    AlongsideProgress (Abreast g h all all₀ o text context) (s.advance (g.withRootHandler none all₀) o)
      (t.advance (g.withRootHandler (some h) all) o) := by
  obtain ⟨hr, notes, hn₀, hn₁⟩ := hab
  have htotal : ∀ p c, ∃ q, (h p c).1 = .ok q := fun p c => ⟨f p, hf p c⟩
  have hstep := hr.advance (o := o) htotal (Definition.root_of_resolve hD) hsteady hn₀.reachable.sound
  have hl := hn₀.length_eq (Definition.resolve_withHandler hD none all₀)
  obtain ⟨own, around, rfl⟩ := List.exists_cons_of_length_eq_add_one hl
  have hnote : t.note (g.withRootHandler (some h) all) o (own :: around) =
      s.note (g.withRootHandler none all₀) o (own :: around) :=
    hr.note htotal hsteady hn₀.reachable.sound (Nat.succ.inj hl)
  generalize hx : s.advance (g.withRootHandler none all₀) o = x at hstep ⊢
  generalize hy : t.advance (g.withRootHandler (some h) all) o = y at hstep ⊢
  cases hstep with
  | ended hr' =>
    obtain rfl := (State.advance_eq_ended hx).1
    obtain rfl := (State.advance_eq_ended hy).1
    exact .ended ⟨hr', _, hn₀, hn₁⟩
  | failed he hv => exact .failed he hv
  | moved hr' => exact .moved ⟨hr', _, hn₀.step hx, hnote ▸ hn₁.step hy⟩

/-- After as many steps both scans are abreast. -/
theorem Abreast.after (hab : Abreast g h all all₀ o text context s t) (k : Nat) :
    Option.Rel (Abreast g h all all₀ o text context) (s.after (g.withRootHandler none all₀) o k)
      (t.after (g.withRootHandler (some h) all) o k) := by
  induction k generalizing s t with
  | zero => exact .some hab
  | succ k ih =>
    have hstep := hab.advance hf hsteady hD
    unfold State.after
    generalize s.advance (g.withRootHandler none all₀) o = x at hstep ⊢
    generalize t.advance (g.withRootHandler (some h) all) o = y at hstep ⊢
    cases hstep with
    | ended _ => exact .none
    | failed _ _ => exact .none
    | moved hab => exact ih hab

variable (all all₀ o text context)

/-- Both scans come to states from which the first one does not go on. -/
theorem Abreast.exists_last : ∃ s t k, Abreast g h all all₀ o text context s t ∧
    (State.start (g.withRootHandler none all₀) text context).after (g.withRootHandler none all₀) o k = some s ∧
    (State.start (g.withRootHandler (some h) all) text context).after (g.withRootHandler (some h) all) o k = some t ∧
    ∀ u, s.advance (g.withRootHandler none all₀) o ≠ .moved u := by
  obtain ⟨k, e, s, hs, hstuck⟩ := exists_stuck (g.withRootHandler none all₀) o
    (.start (g.withRootHandler none all₀) text context) (State.depth_start_le _ o text context)
  have hk := State.after_of_steps hs
  have hstart : Abreast g h all all₀ o text context _ _ := .start
  have hrel := hstart.after hf hsteady hD k
  rw [hk] at hrel
  generalize ht : (State.start (g.withRootHandler (some h) all) text context).after
    (g.withRootHandler (some h) all) o k = y at hrel
  cases hrel with
  | some hab => exact ⟨s, _, k, hab, hk, ht, hstuck⟩

/-- Both scans fail with the same error, or end. Then the parts of the roots come from the same items. -/
private theorem rootParts_withRootHandler :
    (∃ e, rootParts (g.withRootHandler none all₀) o text context = .error e ∧
      rootParts (g.withRootHandler (some h) all) o text context = .error e) ∨
    ∃ items, RootItems (g.withRootHandler none all₀) o text context items ∧
      rootParts (g.withRootHandler none all₀) o text context = .ok (items.map Item.part) ∧
      rootParts (g.withRootHandler (some h) all) o text context = .ok (items.map (Item.handled f all)) := by
  obtain ⟨s, t, k, hab, hs, ht, hlast⟩ := Abreast.exists_last all all₀ o text context hf hsteady hD
  have hstep := hab.advance hf hsteady hD
  generalize hx : s.advance (g.withRootHandler none all₀) o = x at hstep
  generalize hy : t.advance (g.withRootHandler (some h) all) o = y at hstep
  cases hstep with
  | moved _ => exact absurd hx (hlast _)
  | failed he _ => exact .inl ⟨_, rootParts_of_failed hs hx, (rootParts_of_failed ht hy).trans (congrArg _ he)⟩
  | @ended s' t' _ =>
    obtain rfl := (State.advance_eq_ended hx).1
    obtain rfl := (State.advance_eq_ended hy).1
    obtain ⟨hr, notes, hn₀, hn₁⟩ := hab
    rw [rootParts_of_ended hs hx, rootParts_of_ended ht hy]
    have hrun := hr.endRun (fun p c => ⟨f p, hf p c⟩) .stop
    generalize hu : s'.endRun .stop = u at hrun
    generalize hv : t'.endRun .stop = v at hrun
    cases hrun with
    | error he _ => exact .inl ⟨_, rfl, congrArg _ he⟩
    | ok _ =>
      have h₀ : (g.withRootHandler none all₀).root = g.root.withHandler none all₀ := Grammar.root_withRootHandler
      have h₁ : (g.withRootHandler (some h) all).root = g.root.withHandler (some h) all := Grammar.root_withRootHandler
      obtain ⟨own, rfl, hb₀⟩ := hn₀.parts_of_ended (Definition.resolve_withHandler hD none all₀) hx hu
      obtain ⟨own', hn, hb₁⟩ := hn₁.parts_of_ended (Definition.resolve_withHandler hD (some h) all) hy hv
      obtain rfl := (List.cons.inj hn).1
      rw [h₀] at hb₀
      rw [h₁] at hb₁
      obtain ⟨k, hrow⟩ : ∃ k, Row (g.root.withHandler none all₀).ignoreEmpty k own (rowItems g.root.ignoreEmpty own) :=
        ⟨_, row_rowItems _ own⟩
      refine .inr ⟨rowItems g.root.ignoreEmpty own, ⟨s', own, k, hn₀, hx, h₀ ▸ hrow⟩, ?_, ?_⟩
      · exact congrArg Except.ok (map_of_becomes hb₀ (becomes_of_none rfl))
      · exact congrArg Except.ok (map_of_becomes hb₁ (becomes_of_some hf rfl rfl))

/-- Two grammars that differ in the handler of the root recognise the same, as long as no handler asks for the context
and that of the root does not fail. After as many steps their scans are at the same place of the same texts, the same
blocks are open with the same parts, and if the innermost one ends, it ends as the same block, of which its handler gets
the parts. Both scans fail with the same error, or both give a part. Then the parts of the root are the items of its
row; a handler answers for every fragment, for every value if it is asked for all, and for no token. -/
theorem scan_withRootHandler :
    (D.withHandler none all₀).resolve = .ok (g.withRootHandler none all₀) ∧
    (D.withHandler (some h) all).resolve = .ok (g.withRootHandler (some h) all) ∧
    (∀ k, Option.Rel (SameInside g none (some h) all₀ all o)
      ((State.start (g.withRootHandler none all₀) text context).after (g.withRootHandler none all₀) o k)
      ((State.start (g.withRootHandler (some h) all) text context).after (g.withRootHandler (some h) all) o k)) ∧
    ((∃ e, (scan (g.withRootHandler none all₀) o text context).result = .error e ∧
        (scan (g.withRootHandler (some h) all) o text context).result = .error e) ∨
      ∃ items, RootItems (g.withRootHandler none all₀) o text context items ∧
        rootParts (g.withRootHandler none all₀) o text context = .ok (items.map Item.part) ∧
        rootParts (g.withRootHandler (some h) all) o text context = .ok (items.map (Item.handled f all)) ∧
        (scan (g.withRootHandler none all₀) o text context).result = .ok (.assemble (items.map Item.part)) ∧
        (scan (g.withRootHandler (some h) all) o text context).result =
          .ok (.assemble (items.map (Item.handled f all)))) := by
  refine ⟨Definition.resolve_withHandler hD none all₀, Definition.resolve_withHandler hD (some h) all, fun k => ?_, ?_⟩
  · have hstart : Abreast g h all all₀ o text context _ _ := .start
    have hrel := hstart.after hf hsteady hD k
    generalize State.after _ o k (.start (g.withRootHandler none all₀) text context) = x at hrel ⊢
    generalize State.after _ o k (.start (g.withRootHandler (some h) all) text context) = y at hrel ⊢
    cases hrel with
    | none => exact .none
    | some hab => exact .some (hab.sameInside hf)
  · rw [result_scan, result_scan]
    rcases rootParts_withRootHandler all all₀ o text context hf hsteady hD with ⟨e, h₀, h₁⟩ | ⟨items, hi, h₀, h₁⟩
    · rw [h₀, h₁]
      exact .inl ⟨e, rfl, rfl⟩
    · rw [h₀, h₁]
      exact .inr ⟨items, hi, rfl, rfl, rfl, rfl⟩

end

/-- A row with lists, and in which what is in brackets is scanned again. -/
def cells : Definition Nat :=
  .mk { split := some (.literal ","), storeSplit := .whole } none
    [("list", .inline (.mk { start := some "(", stop := some ")" } none [])),
     ("again", .inline (.mk
      { start := some "[", stop := some "]", handler := some fun p c => (.ok (.text p.flattenText), c),
        reparse := true } none []))]

/-- A part between marks. -/
def marked (p : Part) : Part := .text ("<" ++ p.flattenText ++ ">")

/-- A list is marked as one value, and what is scanned again as the text that it has become. -/
theorem scan_withRootHandler_cells :
    ∃ g : Grammar Nat, cells.resolve = .ok g ∧
      (∀ k, Option.Rel (SameInside g none (some fun p c => (.ok (marked p), c + 1)) false true {})
        ((State.start (g.withRootHandler none false) "(a)[b,]" 0).after (g.withRootHandler none false) {} k)
        ((State.start (g.withRootHandler (some fun p c => (.ok (marked p), c + 1)) true) "(a)[b,]" 0).after
          (g.withRootHandler (some fun p c => (.ok (marked p), c + 1)) true) {} k)) ∧
      (∃ items, RootItems (g.withRootHandler none false) {} "(a)[b,]" 0 items ∧
        items.map Item.part = [.text "a", .text "b", .text ",", .text ""] ∧
        items.map (Item.handled marked true) = [.text "<a>", .text "<b>", .text ",", .text "<>"]) ∧
      (scan (g.withRootHandler none false) {} "(a)[b,]" 0).result =
        .ok (.group [.text "a", .text "b", .text ",", .text ""]) ∧
      (scan (g.withRootHandler (some fun p c => (.ok (marked p), c + 1)) true) {} "(a)[b,]" 0).result =
        .ok (.group [.text "<a>", .text "<b>", .text ",", .text "<>"]) := by
  have h : cells.resolvesTo (fun g =>
      decide (rootParts (g.withRootHandler none false) {} "(a)[b,]" 0 =
        .ok [.text "a", .text "b", .text ",", .text ""]) &&
      decide (rootParts (g.withRootHandler (some fun p c => (.ok (marked p), c + 1)) true) {} "(a)[b,]" 0 =
        .ok [.text "<a>", .text "<b>", .text ",", .text "<>"])) = true := by
    cbv
  obtain ⟨g, hg, h⟩ := Definition.exists_of_resolvesTo h
  rw [Bool.and_eq_true, decide_eq_true_iff, decide_eq_true_iff] at h
  have hsteady : ∀ slot, slot ≠ g.rootSlot → ∀ k, (g.spec slot).handler = some k → k.Steady := by
    intro slot _ k hk
    obtain ⟨i, hi⟩ := Definition.handler_of_resolve hg slot
    rw [hi] at hk
    fin_cases i <;> cases hk
    exact fun _ _ _ => rfl
  obtain ⟨-, -, hsame, hend⟩ := scan_withRootHandler true false {} "(a)[b,]" 0
    (h := fun p c => (.ok (marked p), c + 1)) (f := marked) (fun _ _ => rfl) hsteady hg
  rcases hend with ⟨e, he, -⟩ | ⟨items, hi, h₀, h₁, hr₀, hr₁⟩
  · rw [result_scan, h.1] at he
    cases he
  · have hparts := (Except.ok.inj (h.1.symm.trans h₀)).symm
    have hparts' := (Except.ok.inj (h.2.symm.trans h₁)).symm
    rw [hparts] at hr₀
    rw [hparts'] at hr₁
    exact ⟨g, hg, hsame, ⟨items, hi, hparts, hparts'⟩, hr₀, hr₁⟩

end Delimited.Scan
