import Mathlib
import Delimited.Proofs.Pattern.Reading
import Delimited.Proofs.Pattern.Start
import Delimited.Rule

/-!
# Anchoring

The source of a pattern is read between `^(?:` and `)`. What is read begins with the anchor, or it is an alternation
(`anchored_or_alternation_of_read`): a source may close the parenthesis of the wrapping itself and go on with branches that
nothing anchors. In all other cases every match starts at the start of the text, and what a rule consumes is what its
pattern matches (`Rule.whole_eq_text`); `a)|(b` is a source of the other kind.
-/

namespace Delimited.Pattern

/-! ### Numbered expressions -/

/-- Whatever node the expression has, its captures are numbered from 1 on. -/
def Expr.Numbered (e : Expr) : Prop := ∀ f n f', Expr.node? f e = some (n, f') → n.Numbered

namespace Expr.Numbered

private theorem of_atomic {e : Expr} (h : e.atomic = true) : e.Numbered := by
  intro f n f' hn
  cases e with
  | empty | flags | anchor =>
    cases hn
    trivial
  | literal | dot | property | shorthand | bracketed =>
    obtain ⟨_, -, hn⟩ := Option.map_eq_some_iff.1 hn
    cases hn
    trivial
  | repetition | group | concat | alternation => cases h

private theorem node_repeated {min : Nat} {max : Option Nat} {greedy : Bool} {n : Node} (h : n.Numbered) :
    (Node.repeated min max greedy n).Numbered := by
  unfold Node.repeated
  split
  split
  · trivial
  · split
    · exact h
    · exact h

private theorem repetition {e : Expr} (h : e.Numbered) (min : Nat) (max : Option Nat) (greedy : Bool) :
    (Expr.repetition min max greedy e).Numbered := by
  intro f n f' hn
  rw [Expr.node?, Option.bind_eq_bind, Option.bind_eq_some_iff] at hn
  obtain ⟨⟨m, f₁⟩, hm, hn⟩ := hn
  cases hn
  exact node_repeated (h _ _ _ hm)

private theorem group {e : Expr} (h : e.Numbered) {kind : GroupKind} (hk : ∀ k, kind = .capture k → 0 < k) :
    (Expr.group kind e).Numbered := by
  intro f n f' hn
  rw [Expr.node?, Option.bind_eq_bind, Option.bind_eq_some_iff] at hn
  obtain ⟨⟨m, f₁⟩, hm, hn⟩ := hn
  cases hn
  have hnum := h _ _ _ hm
  cases kind with
  | capture k => exact ⟨hk k rfl, hnum⟩
  | plain changes => exact hnum

private theorem concat {es : List Expr} (h : ∀ e ∈ es, e.Numbered) : (Expr.concat es).Numbered := by
  intro f n f' hn
  rw [Expr.node?] at hn
  induction es generalizing f n with
  | nil =>
    cases hn
    trivial
  | cons e es ih =>
    obtain ⟨he, hes⟩ := List.forall_mem_cons.1 h
    simp only [Expr.seqNode?, Option.bind_eq_bind, Option.bind_eq_some_iff] at hn
    obtain ⟨⟨a, f₁⟩, ha, ⟨b, f₂⟩, hb, hn⟩ := hn
    cases hn
    exact ⟨he _ _ _ ha, ih hes _ _ hb⟩

private theorem alternation {es : List Expr} (h : ∀ e ∈ es, e.Numbered) : (Expr.alternation es).Numbered := by
  intro f n f' hn
  rw [Expr.node?] at hn
  induction es generalizing f n with
  | nil =>
    cases hn
    trivial
  | cons e es ih =>
    obtain ⟨he, hes⟩ := List.forall_mem_cons.1 h
    cases es with
    | nil => exact he _ _ _ hn
    | cons e' es =>
      simp only [Expr.altNode?, Option.bind_eq_bind, Option.bind_eq_some_iff] at hn
      obtain ⟨⟨a, f₁⟩, ha, ⟨b, f₂⟩, hb, hn⟩ := hn
      cases hn
      exact ⟨he _ _ _ ha, ih hes _ _ hb⟩

private theorem ofItems {es : List Expr} (h : ∀ e ∈ es, e.Numbered) : (Expr.ofItems es).Numbered := by
  match es with
  | [] => exact of_atomic rfl
  | [e] => exact h e List.mem_cons_self
  | _ :: _ :: _ => exact concat h

private theorem ofBranches {es : List Expr} (h : ∀ e ∈ es, e.Numbered) : (Expr.ofBranches es).Numbered := by
  match es with
  | [] => exact alternation h
  | [e] => exact h e List.mem_cons_self
  | _ :: _ :: _ => exact alternation h

end Expr.Numbered

/-! ### What a reader keeps -/

/-- All that has been read at a level is numbered. -/
structure Level.Numbered (l : Level) : Prop where
  items : ∀ e ∈ l.items, e.Numbered
  branches : ∀ e ∈ l.branches, e.Numbered

theorem Level.Numbered.expr {l : Level} (h : l.Numbered) : l.expr.Numbered := by
  refine .ofBranches fun e he => ?_
  rcases List.mem_cons.1 (List.mem_reverse.1 he) with rfl | he
  · exact .ofItems fun e he => h.items e (List.mem_reverse.1 he)
  · exact h.branches e he

/-- In front of the first bar the level begins with the anchor. -/
def Level.Led (l : Level) : Prop := l.branches = [] → ∃ items, l.items = items ++ [.anchor .lineStart]

/-- In front of the first bar the level begins with the anchor, and goes on. -/
def Level.LedOn (l : Level) : Prop :=
  l.branches = [] → ∃ items, items ≠ [] ∧ l.items = items ++ [.anchor .lineStart]

private theorem Level.LedOn.led {l : Level} (h : l.LedOn) : l.Led := fun hb => (h hb).imp fun _ h => h.2

/-- A reader behind the opening of a wrapping group. What it has read is numbered, and its outermost level begins with the
anchor. Once all groups are closed, something follows the anchor. -/
structure Reader.Wrapped (st : Reader) : Prop where
  level : st.level.Numbered
  opened : ∀ o ∈ st.opened, o.1.Numbered ∧ ∀ k, o.2.1 = .capture k → 0 < k
  ledOn : st.opened = [] → st.level.LedOn
  led : ∀ o ∈ st.opened.getLast?, o.1.Led

namespace Reader.Wrapped

variable {st st' : Reader} {r r' : List Char}

private theorem push (h : st.Wrapped) {e : Expr} (he : e.Numbered) : (st.push e).Wrapped where
  level := ⟨List.forall_mem_cons.2 ⟨he, h.level.items⟩, h.level.branches⟩
  opened := h.opened
  ledOn ho hb := by
    obtain ⟨items, -, hi⟩ := h.ledOn ho hb
    exact ⟨e :: items, by simp, congrArg (e :: ·) hi⟩
  led := h.led

private theorem nextBranch (h : st.Wrapped) : st.nextBranch.Wrapped where
  level := by
    refine ⟨by simp [Reader.nextBranch], List.forall_mem_cons.2 ⟨?_, h.level.branches⟩⟩
    exact .ofItems fun e he => h.level.items e (List.mem_reverse.1 he)
  opened := h.opened
  ledOn _ hb := by simp [Reader.nextBranch] at hb
  led := h.led

private theorem enter (h : st.Wrapped) (kind : GroupKind) (hk : ∀ k, kind = .capture k → 0 < k) (verbose : Bool) :
    (st.enter kind verbose).Wrapped where
  level := ⟨by simp [Reader.enter], by simp [Reader.enter]⟩
  opened := List.forall_mem_cons.2 ⟨⟨h.level, hk⟩, h.opened⟩
  ledOn ho := by simp [Reader.enter] at ho
  led := by
    intro o ho
    have ho : o ∈ ((st.level, kind, st.verbose) :: st.opened).getLast? := ho
    cases hc : st.opened with
    | nil =>
      rw [hc] at ho
      obtain rfl := Option.some.inj ho
      exact (h.ledOn hc).led
    | cons o' opened =>
      rw [hc, List.getLast?_cons_cons, ← hc] at ho
      exact h.led o ho

/-- Closing a group makes it an item of the level around it. -/
theorem closeGroup (h : st.Wrapped) (hs : st.closeGroup = some st') : st'.Wrapped := by
  unfold Reader.closeGroup at hs
  split at hs
  · cases hs
  · rename_i outer kind verbose opened ho
    cases hs
    have hopened := h.opened
    rw [ho] at hopened
    obtain ⟨⟨houter, hk⟩, hopened⟩ := List.forall_mem_cons.1 hopened
    refine ⟨⟨List.forall_mem_cons.2 ⟨.group h.level.expr hk, houter.items⟩, houter.branches⟩, hopened, ?_, ?_⟩
    · rintro rfl hb
      obtain ⟨items, hi⟩ := h.led (outer, kind, verbose) (by rw [ho]; rfl) hb
      exact ⟨_ :: items, by simp, congrArg (_ :: ·) hi⟩
    · intro o hmem
      refine h.led o ?_
      rw [ho]
      cases opened with
      | nil => cases hmem
      | cons o' opened => exact hmem

private theorem repeatLast (h : st.Wrapped) {min : Nat} {max : Option Nat} {greedy : Bool}
    (hs : st.repeatLast min max greedy = some st') : st'.Wrapped := by
  unfold Reader.repeatLast at hs
  split at hs
  · cases hs
  · cases hs
  · rename_i e items _ hi
    cases hs
    have hitems := h.level.items
    rw [hi] at hitems
    obtain ⟨he, hitems⟩ := List.forall_mem_cons.1 hitems
    refine ⟨⟨List.forall_mem_cons.2 ⟨he.repetition min max greedy, hitems⟩, h.level.branches⟩, h.opened, ?_, h.led⟩
    -- the item that is repeated is not the anchor
    intro ho hb
    obtain ⟨front, hne, hf⟩ := h.ledOn ho hb
    obtain ⟨e', front, rfl⟩ := List.exists_cons_of_ne_nil hne
    rw [hi, List.cons_append, List.cons.injEq] at hf
    exact ⟨_ :: front, by simp, congrArg (_ :: ·) hf.2⟩

private theorem repeatSimply (h : st.Wrapped) {min : Nat} {max : Option Nat}
    (hs : st.repeatSimply min max r = some (st', r')) :
    st'.Wrapped := by
  unfold Reader.repeatSimply at hs
  split at hs
  all_goals
    obtain ⟨u, hu, hs⟩ := Option.map_eq_some_iff.1 hs
    cases hs
    exact h.repeatLast hu

private theorem repeatCounted (h : st.Wrapped) (hs : st.repeatCounted r = some (st', r')) : st'.Wrapped := by
  unfold Reader.repeatCounted at hs
  simp only [Option.bind_eq_bind, Option.bind_eq_some_iff] at hs
  obtain ⟨⟨min, s⟩, -, hs⟩ := hs
  dsimp only at hs
  split at hs
  · exact h.repeatSimply hs
  · split at hs
    · exact h.repeatSimply hs
    · split at hs
      · split at hs
        · exact h.repeatSimply hs
        · cases hs
      · cases hs
  · cases hs

private theorem enterCapture (h : st.Wrapped) : st.enterCapture.Wrapped := by
  have he := h.enter (.capture (st.captures + 1)) (fun k hk => by cases hk; exact Nat.succ_pos _) st.verbose
  exact ⟨he.level, he.opened, he.ledOn, he.led⟩

private theorem enterNamed (h : st.Wrapped) (hs : st.enterNamed r = some (st', r')) : st'.Wrapped := by
  unfold Reader.enterNamed at hs
  simp only [Option.bind_eq_bind, Option.bind_eq_some_iff] at hs
  obtain ⟨⟨name, rest⟩, -, hs⟩ := hs
  split at hs
  · cases hs
  · cases hs
    have he := h.enterCapture
    exact ⟨he.level, he.opened, he.ledOn, he.led⟩

private theorem openGroup (h : st.Wrapped) (hs : st.openGroup r = some (st', r')) : st'.Wrapped := by
  unfold Reader.openGroup at hs
  split at hs
  · cases hs
  · cases hs
  · cases hs
  · cases hs
  · exact h.enterNamed hs
  · exact h.enterNamed hs
  · split at hs
    · rename_i changes _ _ _
      split at hs
      · split at hs
        · cases hs
        · cases hs
          have hp := h.push (e := .flags changes) (.of_atomic rfl)
          exact ⟨hp.level, hp.opened, hp.ledOn, hp.led⟩
      · cases hs
        exact h.enter _ (by simp) _
    · cases hs
  · cases hs
    exact h.enterCapture

/-- Whatever a character makes the reader read, it stays behind the opening of the wrapping group. -/
theorem construct {c : Char} {read : Reader → List Char → Option (Reader × List Char)} (h : st.Wrapped)
    (hc : construct? c = some read) (hs : read st r = some (st', r')) : st'.Wrapped := by
  unfold construct? at hc
  split at hc
  all_goals cases hc
  · exact h.openGroup hs
  · obtain ⟨u, hu, hs⟩ := Option.map_eq_some_iff.1 hs
    cases hs
    exact h.closeGroup hu
  · cases hs
    exact h.nextBranch
  · obtain ⟨u, hu, hs⟩ := Option.map_eq_some_iff.1 hs
    cases hs
    exact h.push (.of_atomic (atomic_of_readClass hu))
  · exact h.repeatSimply hs
  · exact h.repeatSimply hs
  · exact h.repeatSimply hs
  · exact h.repeatCounted hs
  · obtain ⟨u, hu, hs⟩ := Option.map_eq_some_iff.1 hs
    cases hs
    exact h.push (.of_atomic (atomic_of_readEscape hu))
  all_goals
    cases hs
    exact h.push (.of_atomic rfl)

end Reader.Wrapped

/-- Whether the expression is an alternation. -/
def Expr.isChoice : Expr → Bool
  | .alternation _ => true
  | _ => false

/-- An expression that begins with the anchor, or is an alternation. -/
def Expr.AnchoredOrChoice (e : Expr) : Prop :=
  (∃ items, e = .concat (.anchor .lineStart :: items)) ∨ e.isChoice = true

theorem Level.LedOn.expr {l : Level} (h : l.LedOn) : l.expr.AnchoredOrChoice := by
  unfold Level.expr
  cases hb : l.branches with
  | nil =>
    obtain ⟨items, hne, hi⟩ := h hb
    refine Or.inl ?_
    rw [hi, List.reverse_concat]
    obtain ⟨e, es, he⟩ := List.exists_cons_of_ne_nil (l := items.reverse) (by simpa using hne)
    rw [he]
    exact ⟨e :: es, rfl⟩
  | cons b bs =>
    refine Or.inr ?_
    obtain ⟨e, es, he⟩ := List.exists_cons_of_ne_nil (l := (b :: bs).reverse) (by simp)
    rw [List.reverse_cons, he]
    cases es <;> rfl

/-- Behind the opening of the wrapping group, all that a reader may read to the end is numbered, and it begins with the
anchor or is an alternation. -/
theorem Reader.Wrapped.run {st : Reader} {s : List Char} {e : Expr} (h : st.Wrapped) (he : st.run s = some e) :
    e.Numbered ∧ e.AnchoredOrChoice := by
  fun_induction Reader.run st s with
  | case1 st s hs ho =>
    cases he
    exact ⟨h.level.expr, (h.ledOn (List.isEmpty_iff.1 ho)).expr⟩
  | case2 => cases he
  | case3 st s c r hs hc ih => exact ih (h.push (.of_atomic rfl)) he
  | case4 => cases he
  | case5 st s c r hs read hc st' r' hr ih => exact ih (h.construct hc hr) he

/-- What is read for a source has its captures numbered, and begins with the anchor or is an alternation. -/
theorem anchored_or_alternation_of_read {source : String} {e : Expr}
    (h : Expr.read? (anchoredSource source) = some e) : e.Numbered ∧ e.AnchoredOrChoice := by
  have hrun : Reader.run {} (anchoredSource source) = some e := (Option.filter_eq_some_iff.1 h).1
  rw [Reader.run_anchoredSource] at hrun
  refine Reader.Wrapped.run ⟨⟨by simp [Reader.inside], by simp [Reader.inside]⟩, ?_, ?_, ?_⟩ hrun
  · intro o ho
    obtain rfl := List.mem_singleton.1 ho
    exact ⟨⟨List.forall_mem_singleton.2 (.of_atomic rfl), by simp⟩, by simp⟩
  · intro ho
    cases ho
  · intro o ho hb
    obtain rfl := Option.some.inj ho
    exact ⟨[], rfl⟩

/-! ### Matches of accepted patterns -/

/-- What begins with the line anchor begins, without flags, with the start of the text. -/
theorem Expr.anchored_of_concat {items : List Expr} {n : Node} {f : Flags}
    (h : Expr.node? {} (.concat (.anchor .lineStart :: items)) = some (n, f)) : n.anchored = true := by
  simp only [Expr.node?, Expr.seqNode?, Option.bind_eq_bind, Option.bind_eq_some_iff] at h
  obtain ⟨⟨a, f₁⟩, ha, ⟨b, f₂⟩, -, h⟩ := h
  cases ha
  cases h
  rfl

/-- The source is read as one branch between the anchor and the end. Nothing in it goes on with an alternation after the
wrapping group. -/
def SingleBranch (source : String) : Prop := (Expr.read? (anchoredSource source)).all (!·.isChoice) = true

instance (source : String) : Decidable (SingleBranch source) := inferInstanceAs (Decidable (_ = true))

/-- Every match of a pattern whose source is a single branch starts at the start of the text. -/
theorem start_of_ofSource {source : String} {p : Pattern} (h : ofSource source = .ok p) (hs : SingleBranch source)
    {text : List Char} {places : Places} (hp : p.program.search text = some places) :
    places[0]? = some (some 0) := by
  unfold ofSource at h
  split at h
  · cases h
  · rename_i n hn
    split at h
    · cases h
      unfold node? at hn
      simp only [Option.bind_eq_bind, Option.bind_eq_some_iff] at hn
      obtain ⟨e, he, ⟨m, f⟩, hm, hn⟩ := hn
      cases hn
      obtain ⟨hnum, ⟨items, rfl⟩ | hc⟩ := anchored_or_alternation_of_read he
      · exact start_of_search (Node.begins_program (hnum _ _ _ hm)) (Expr.anchored_of_concat hm) hp
      · unfold SingleBranch at hs
        rw [he, Option.all_some, hc] at hs
        cases hs
    · cases h

end Delimited.Pattern

namespace Delimited

open Pattern

/-- When a rule is an accepted pattern whose source is a single branch, what it consumes is what its pattern matches, and
so is capture 0. The match starts at the start of the text, and nothing in front of it is consumed. -/
theorem Rule.whole_eq_text {source : String} {p : Pattern} (h : ofSource source = .ok p) (hs : SingleBranch source)
    {rest : List Char} {m : RuleMatch} (hm : (Rule.pattern p).matchStart? rest = some m) :
    (∃ places, p.program.search rest = some places ∧ places[0]? = some (some 0)) ∧
      (∃ k, p.find rest = some k ∧ k.text = m.whole) ∧ m.group 0 = m.whole ∧ m.whole <+: rest := by
  have hpre := Rule.whole_prefix hm
  simp only [Rule.matchStart?, Option.bind_eq_bind, Option.bind_eq_some_iff] at hm
  obtain ⟨k, hk, hm⟩ := hm
  obtain ⟨places, hp, htext⟩ := exists_places_of_find hk
  have hz := start_of_ofSource h hs hp
  have ht : k.text = k.consumed := htext hz
  have hw : m.whole = k.consumed := RuleMatch.whole_of? hm
  refine ⟨⟨places, hp, hz⟩, ⟨k, hk, ht.trans hw.symm⟩, ?_, hpre⟩
  unfold RuleMatch.of? at hm
  split at hm
  · cases hm
  · rw [← Option.some.inj hm]
    exact ht

/-- Whether a source is accepted, and what its pattern and its rule match in a text is so. -/
def Rule.matchesAs (source : String) (rest : List Char) (q : Pattern.Match → RuleMatch → Bool) : Bool :=
  match ofSource source with
  | .ok p =>
    match p.find rest, (Rule.pattern p).matchStart? rest with
    | some k, some m => q k m
    | _, _ => false
  | .error _ => false

private theorem Rule.exists_of_matchesAs {source : String} {rest : List Char} {q : Pattern.Match → RuleMatch → Bool}
    (h : matchesAs source rest q = true) :
    ∃ p k m, ofSource source = .ok p ∧ p.find rest = some k ∧ (Rule.pattern p).matchStart? rest = some m ∧
      q k m = true := by
  unfold matchesAs at h
  split at h
  · rename_i p hp
    split at h
    · rename_i k m hk hm
      exact ⟨p, k, m, hp, hk, hm, h⟩
    · cases h
  · cases h

/-- Both branches of a source are tied to the start. -/
theorem Rule.whole_eq_text_branches :
    ∃ p m, ofSource "^a|b" = .ok p ∧ SingleBranch "^a|b" ∧ (Rule.pattern p).matchStart? ['b', 'x'] = some m ∧
      m.whole = ['b'] ∧ m.group 0 = m.whole := by
  have h : matchesAs "^a|b" ['b', 'x'] (fun _ m => decide (m.whole = ['b'])) = true := by
    cbv
  have hs : SingleBranch "^a|b" := by
    unfold SingleBranch
    cbv
  obtain ⟨p, _, m, hp, -, hm, hw⟩ := exists_of_matchesAs h
  exact ⟨p, m, hp, hs, hm, of_decide_eq_true hw, (Rule.whole_eq_text hp hs hm).2.2.1⟩

/-- The parenthesis in this source closes the group of the wrapping, and the branch behind the bar is not tied to the
start: what stands in front of its match is consumed with it. -/
theorem Rule.whole_ne_text :
    ∃ p k m, ofSource "a)|(b" = .ok p ∧ p.find ['x', 'b'] = some k ∧ (Rule.pattern p).matchStart? ['x', 'b'] = some m ∧
      k.text = ['b'] ∧ m.whole = ['x', 'b'] ∧ m.group 0 = ['b'] := by
  have h : matchesAs "a)|(b" ['x', 'b'] (fun k m => decide (k.text = ['b'] ∧ m.whole = ['x', 'b'] ∧
      m.group 0 = ['b'])) = true := by
    cbv
  obtain ⟨p, k, m, hp, hk, hm, hq⟩ := exists_of_matchesAs h
  exact ⟨p, k, m, hp, hk, hm, of_decide_eq_true hq⟩

end Delimited
