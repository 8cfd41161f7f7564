import Mathlib
import Delimited.Proofs.Scan.Conservation
import Delimited.Proofs.Text.Slice

/-!
# Which move comes first

What may be found at the start of a text is listed in order of priority: the escaped stop of the block, its stop, the
escaped starts of all nested blocks, their starts, the split and the strips (`signs`). The first of these that is there
leads to the next move, and a character is text only when none of them is (`nextMove_eq_iff`). So no start is found
where an escaped start stands, whichever of the nested blocks it belongs to.

The step that follows moves the cursor of the current text over what has been recognised, by one character at least and
never into the middle of one (`State.cursors_advance`). Closing a block may put a new text in front of it, but leaves no
other cursor changed.
-/

namespace Delimited.Scan

variable {C : Type} {n : Nat}

/-! ### Signs -/

/-- What may be found at the start of a text. -/
inductive Sign (n : Nat) where
  /-- An escaped delimiter, and the text it stands for. -/
  | escape (escaped literal : Delimiter)
  /-- The stop of the block. -/
  | stop (stop : Delimiter)
  /-- The start of a nested block. -/
  | start (name : String) (slot : Fin n) (start : Delimiter)
  /-- A match of the split, of which a part is kept. -/
  | split (rule : Rule) (store : StoreSplit)
  /-- A match of a strip. -/
  | strip (rule : Rule)

/-- A sign is there, at the start of a text, and asks for a move. Delimiters and matches are not empty. -/
inductive Sign.Asks (rest : List Char) : Sign n → Move n → Prop
  | escape {escaped literal : Delimiter} (h : escaped.chars <+: rest) :
    Asks rest (.escape escaped literal) (.escape escaped literal)
  | stop {stop : Delimiter} (h : stop.chars <+: rest) : Asks rest (.stop stop) (.close stop)
  | start {name : String} {slot : Fin n} {start : Delimiter} (h : start.chars <+: rest) :
    Asks rest (.start name slot start) (.enter name slot start)
  | split {rule : Rule} {store : StoreSplit} {m : RuleMatch} (h : rule.matchStart? rest = some m) :
    Asks rest (.split rule store) (.split m (store.token? m))
  | strip {rule : Rule} {m : RuleMatch} (h : rule.matchStart? rest = some m) : Asks rest (.strip rule) (.strip m)

/-- An escaped delimiter as a sign. It stands for itself, or for the bare delimiter. -/
def Sign.ofEscaped (replace : Bool) (bare : Option Delimiter) (escaped : Delimiter) : Sign n :=
  .escape escaped (if replace then bare.getD escaped else escaped)

/-- What is looked for in a block before the start of any nested block. -/
def signsBeforeStarts (g : Grammar C) (s : Spec C g.size) : List (Sign g.size) :=
  s.escapedStop.toList.map (.ofEscaped s.replaceEscapes s.stop)
    ++ s.stop.toList.map .stop
    ++ s.blocks.flatMap fun b =>
      (g.spec b.2).escapedStart.toList.map (.ofEscaped (g.spec b.2).replaceEscapes (g.spec b.2).start)

/-- What may be found in a block, the sign that comes first at the front. -/
def signs (g : Grammar C) (s : Spec C g.size) : List (Sign g.size) :=
  signsBeforeStarts g s
    ++ s.blocks.flatMap (fun b => (g.spec b.2).start.toList.map (.start b.1 b.2))
    ++ s.split.toList.map (.split · s.storeSplit)
    ++ s.strip.map .strip

/-- The move that the first sign asks for which is there, or a character of text when there is none. -/
inductive First (rest : List Char) : List (Sign n) → Move n → Prop
  | char : First rest [] .char
  | here {sign : Sign n} {later : List (Sign n)} {m : Move n} (h : sign.Asks rest m) : First rest (sign :: later) m
  | later {sign : Sign n} {later : List (Sign n)} {m : Move n} (hn : ∀ k, ¬ sign.Asks rest k)
    (h : First rest later m) : First rest (sign :: later) m

/-- The move that a sign asks for, if it is there. -/
private def Sign.move? (rest : List Char) : Sign n → Option (Move n)
  | .escape e l => if e.starts rest then some (.escape e l) else none
  | .stop d => if d.starts rest then some (.close d) else none
  | .start name slot d => if d.starts rest then some (.enter name slot d) else none
  | .split rule store => (rule.matchStart? rest).map fun m => .split m (store.token? m)
  | .strip rule => (rule.matchStart? rest).map .strip

private theorem Sign.asks_iff {rest : List Char} {sign : Sign n} {m : Move n} :
    sign.Asks rest m ↔ sign.move? rest = some m := by
  -- a delimiter asks for its move where the text starts with it
  have hstarts : ∀ {d : Delimiter} {k : Move n}, (if d.starts rest then some k else none) = some m ↔
      d.chars <+: rest ∧ k = m := by
    intro d k
    rw [← List.isPrefixOf_iff_prefix]
    simp [Delimiter.starts]
  cases sign with
  | escape e l =>
    rw [Sign.move?, hstarts]
    constructor
    · intro h
      cases h with
      | escape h => exact ⟨h, rfl⟩
    · rintro ⟨h, rfl⟩
      exact .escape h
  | stop d =>
    rw [Sign.move?, hstarts]
    constructor
    · intro h
      cases h with
      | stop h => exact ⟨h, rfl⟩
    · rintro ⟨h, rfl⟩
      exact .stop h
  | start name slot d =>
    rw [Sign.move?, hstarts]
    constructor
    · intro h
      cases h with
      | start h => exact ⟨h, rfl⟩
    · rintro ⟨h, rfl⟩
      exact .start h
  | split rule store =>
    rw [Sign.move?, Option.map_eq_some_iff]
    constructor
    · intro h
      cases h with
      | split h => exact ⟨_, h, rfl⟩
    · rintro ⟨k, h, rfl⟩
      exact .split h
  | strip rule =>
    rw [Sign.move?, Option.map_eq_some_iff]
    constructor
    · intro h
      cases h with
      | strip h => exact ⟨_, h, rfl⟩
    · rintro ⟨k, h, rfl⟩
      exact .strip h

private theorem first_iff {rest : List Char} {signs : List (Sign n)} {m : Move n} :
    First rest signs m ↔ (signs.findSome? (·.move? rest)).getD .char = m := by
  induction signs with
  | nil =>
    constructor
    · rintro ⟨⟩
      rfl
    · rintro rfl
      exact .char
  | cons sign later ih =>
    rw [List.findSome?_cons]
    cases hs : sign.move? rest with
    | some k =>
      constructor
      · intro h
        cases h with
        | here h => exact Option.some.inj (hs.symm.trans (Sign.asks_iff.1 h))
        | later hn _ => exact absurd (Sign.asks_iff.2 hs) (hn k)
      · rintro rfl
        exact .here (Sign.asks_iff.2 hs)
    | none =>
      have hn : ∀ k, ¬ sign.Asks rest k := by
        intro k hk
        rw [Sign.asks_iff, hs] at hk
        cases hk
      constructor
      · intro h
        cases h with
        | here h => exact absurd h (hn m)
        | later _ h => exact ih.1 h
      · intro h
        exact .later hn (ih.2 h)

/-! ### The next move is the first one -/

section

variable {g : Grammar C} {s : Spec C g.size} {rest : List Char}

private theorem recognise?_eq : recognise? g s rest =
    ((s.escapedStop.filter (·.starts rest)).map
        (fun e => Move.escape e (if s.replaceEscapes then s.stop.getD e else e))
      <|> (s.stop.filter (·.starts rest)).map Move.close
      <|> s.blocks.findSome? (fun b => ((g.spec b.2).escapedStart.filter (·.starts rest)).map
        (fun e => Move.escape e (if (g.spec b.2).replaceEscapes then (g.spec b.2).start.getD e else e)))
      <|> s.blocks.findSome? (fun b => ((g.spec b.2).start.filter (·.starts rest)).map (Move.enter b.1 b.2))
      <|> (splitMatch? s rest).map (fun (m, token) => Move.split m token)
      <|> (stripMatch? s rest).map Move.strip) := rfl

/-- A delimiter that may be missing is looked for as a sign. -/
private theorem findSome?_toList {sign : Delimiter → Sign n} {move : Delimiter → Move n}
    (h : ∀ d, (sign d).move? rest = if d.starts rest then some (move d) else none) (d : Option Delimiter) :
    (d.toList.map sign).findSome? (·.move? rest) = (d.filter (·.starts rest)).map move := by
  cases d with
  | none => rfl
  | some d =>
    rw [Option.filter_some]
    by_cases hd : d.starts rest <;> simp [h, hd]

private theorem findSome?_flatMap {α β γ : Type} (f : α → List β) (p : β → Option γ) (l : List α) :
    (l.flatMap f).findSome? p = l.findSome? fun a => (f a).findSome? p := by
  induction l with
  | nil => rfl
  | cons a l ih =>
    rw [List.flatMap_cons, List.findSome?_append, ih, List.findSome?_cons]
    cases (f a).findSome? p <;> rfl

private theorem recognise?_eq_findSome? : recognise? g s rest = (signs g s).findSome? (·.move? rest) := by
  have hsplit : (s.split.toList.map (Sign.split (n := g.size) · s.storeSplit)).findSome? (·.move? rest) =
      (splitMatch? s rest).map fun (m, token) => Move.split m token := by
    unfold splitMatch?
    cases s.split with
    | none => rfl
    | some r => cases hr : r.matchStart? rest <;> simp [Sign.move?, hr]
  have hstrip : (s.strip.map (Sign.strip (n := g.size))).findSome? (·.move? rest) =
      (stripMatch? s rest).map Move.strip := by
    unfold stripMatch?
    rw [List.findSome?_map, List.map_findSome?]
    rfl
  have hescaped : ∀ (replace : Bool) (bare d : Option Delimiter),
      (d.toList.map (Sign.ofEscaped (n := g.size) replace bare)).findSome? (·.move? rest) =
        (d.filter (·.starts rest)).map fun e => Move.escape e (if replace then bare.getD e else e) :=
    fun _ _ d => findSome?_toList (fun _ => rfl) d
  have hstop : ∀ d : Option Delimiter, (d.toList.map (Sign.stop (n := g.size))).findSome? (·.move? rest) =
      (d.filter (·.starts rest)).map Move.close := findSome?_toList fun _ => rfl
  have hstart : ∀ (name : String) (slot : Fin g.size) (d : Option Delimiter),
      (d.toList.map (Sign.start name slot)).findSome? (·.move? rest) =
        (d.filter (·.starts rest)).map (Move.enter name slot) := fun _ _ d => findSome?_toList (fun _ => rfl) d
  rw [recognise?_eq, signs, signsBeforeStarts]
  simp only [List.findSome?_append, findSome?_flatMap, hescaped, hstop, hstart, hsplit, hstrip, Option.or_assoc]
  simp only [Option.or_eq_orElse]
  rfl

/-- The next move is the one that the first sign asks for. -/
theorem nextMove_eq_iff {m : Move g.size} : nextMove g s rest = m ↔ First rest (signs g s) m := by
  rw [nextMove, recognise?_eq_findSome?, first_iff]

end

/-- Where some sign of a front is there, one of this front asks for the move. -/
theorem First.of_asks {rest : List Char} {front later : List (Sign n)} {m k : Move n} {sign : Sign n}
    (h : First rest (front ++ later) m) (hs : sign ∈ front) (hk : sign.Asks rest k) :
    ∃ sign ∈ front, sign.Asks rest m := by
  induction front with
  | nil => cases hs
  | cons first front ih =>
    cases h with
    | here ha => exact ⟨first, List.mem_cons_self, ha⟩
    | later hn h =>
      rcases List.mem_cons.1 hs with rfl | hs
      · exact absurd hk (hn k)
      · obtain ⟨found, hf, ha⟩ := ih h hs
        exact ⟨found, List.mem_cons_of_mem _ hf, ha⟩

section

variable {g : Grammar C} {s : Spec C g.size} {rest : List Char}

/-- What is looked for before the starts does not lead into a block. -/
private theorem escape_or_close {sign : Sign g.size} {m : Move g.size} (hs : sign ∈ signsBeforeStarts g s)
    (h : sign.Asks rest m) : (∃ e literal, m = .escape e literal) ∨ ∃ stop, m = .close stop := by
  simp only [signsBeforeStarts, List.mem_append, List.mem_flatMap, List.mem_map] at hs
  rcases hs with (⟨e, -, rfl⟩ | ⟨d, -, rfl⟩) | ⟨b, -, e, -, rfl⟩
  · cases h with
    | escape => exact Or.inl ⟨e, _, rfl⟩
  · cases h with
    | stop => exact Or.inr ⟨d, rfl⟩
  · cases h with
    | escape => exact Or.inl ⟨e, _, rfl⟩

/-- Where an escaped start of a nested block stands, no start is found, whichever of the blocks it belongs to: the move is
an escape, unless the stop of the block itself is there. -/
theorem nextMove_of_escapedStart {b : String × Fin g.size} (hb : b ∈ s.blocks) {escaped : Delimiter}
    (he : (g.spec b.2).escapedStart = some escaped) (h : escaped.chars <+: rest) :
    (∃ e literal, nextMove g s rest = .escape e literal) ∨ ∃ stop, nextMove g s rest = .close stop := by
  have hfirst : First rest (signs g s) (nextMove g s rest) := nextMove_eq_iff.1 rfl
  rw [signs, List.append_assoc, List.append_assoc] at hfirst
  have hmem : .ofEscaped (g.spec b.2).replaceEscapes (g.spec b.2).start escaped ∈ signsBeforeStarts g s := by
    refine List.mem_append_right _ (List.mem_flatMap.2 ⟨b, hb, List.mem_map_of_mem ?_⟩)
    rw [he]
    exact List.mem_singleton_self _
  obtain ⟨sign, hs, ha⟩ := hfirst.of_asks hmem (.escape h)
  exact escape_or_close hs ha

end

/-! ### What a step passes -/

section

variable {g : Grammar C} {s : Spec C g.size} {rest : List Char}

/-- In front of a text something is recognised, or a character passed. -/
theorem consumed_ne_nil (s : Spec C g.size) (h : rest ≠ []) : consumed g s rest ≠ [] := by
  obtain ⟨c, rest, rfl⟩ := List.exists_cons_of_ne_nil h
  unfold consumed
  dsimp only
  split
  · exact List.cons_ne_nil c []
  · rename_i hm
    exact fun hn => hm (Move.eq_char_of_recognised hn)

private theorem consumed_of_ne_char (h : rest ≠ []) (hm : nextMove g s rest ≠ .char) :
    consumed g s rest = (nextMove g s rest).recognised := by
  obtain ⟨c, rest, rfl⟩ := List.exists_cons_of_ne_nil h
  unfold consumed
  dsimp only
  split
  · contradiction
  · rfl

end

/-- The cursors of the current text and of the suspended ones. -/
def Input.cursors (i : Input) : List Cursor := i.current :: i.suspended

namespace State

variable {g : Grammar C} {o : Options} {s t : State C g.size}

/-- Moving on after what leaves the input alone. -/
private theorem cursors_skip {u : State C n} {s : State C n} (hk : Keeps s u) (m : List Char) :
    (u.skip m).input.cursors = s.input.current.advance (byteLength m) :: s.input.suspended := by
  unfold State.skip
  rw [hk.input]
  rfl

private theorem cursors_pass {u : State C n} {s : State C n} (hk : Keeps s u) (m : List Char) :
    (u.skip m).restartRun.input.cursors = s.input.current.advance (byteLength m) :: s.input.suspended := by
  rw [Keeps.input (.restartRun (u.skip m))]
  exact cursors_skip hk m

/-- Closing a block moves the cursor over its stop, and may put a new text in front of it. -/
private theorem cursors_close {limit : Nat} {stop : Option Delimiter} (h : s.close limit stop = .ok t) :
    ∃ fresh : List Cursor, fresh.length ≤ 1 ∧ t.input.cursors =
      fresh ++ s.input.current.advance (byteLength (stop.elim [] Delimiter.chars)) :: s.input.suspended := by
  rcases close_cases h with ⟨s₁, h₁, -, rfl⟩ | ⟨s₁, inner, outer, p, s₂, h₁, -, h₂, h⟩
  · exact ⟨[], Nat.zero_le 1, cursors_skip (Keeps.endRun h₁) _⟩
  · have hc : s₂.input.cursors =
        s.input.current.advance (byteLength (stop.elim [] Delimiter.chars)) :: s.input.suspended := by
      rw [(Keeps.output h₂).input]
      exact cursors_skip (Keeps.endRun h₁) _
    rcases h with ⟨text, -, h⟩ | ⟨-, h⟩
    · obtain ⟨-, ht, -⟩ := scanAgain_eq_ok h
      refine ⟨[.ofString text], le_rfl, ?_⟩
      rw [ht, ← hc]
      rfl
    · refine ⟨[], Nat.zero_le 1, ?_⟩
      rw [(Keeps.addResult h).input, hc]
      rfl

/-- A step in front of a text moves the cursor over what is consumed. Only closing a block puts a new text in front. -/
theorem cursors_advance (hne : s.input.current.rest ≠ []) (h : s.advance g o = .moved t) :
    ∃ fresh : List Cursor, fresh.length ≤ 1 ∧
      (fresh ≠ [] → ∃ stop, nextMove g s.active.spec s.input.current.rest = .close stop) ∧
      t.input.cursors = fresh ++ s.input.current.advance (byteLength (s.consumed g)) :: s.input.suspended := by
  have hmove : ∀ {m : Move g.size}, nextMove g s.active.spec s.input.current.rest = m → m ≠ .char →
      s.consumed g = m.recognised := by
    rintro m rfl hm
    exact consumed_of_ne_char hne hm
  -- apart from closing a block, no step puts a text in front of another one
  have hpass : ∀ {m : List Char}, s.consumed g = m → t.input.cursors =
      s.input.current.advance (byteLength m) :: s.input.suspended → ∃ fresh : List Cursor, fresh.length ≤ 1 ∧
      (fresh ≠ [] → ∃ stop, nextMove g s.active.spec s.input.current.rest = .close stop) ∧
      t.input.cursors = fresh ++ s.input.current.advance (byteLength (s.consumed g)) :: s.input.suspended := by
    rintro m rfl ht
    exact ⟨[], Nat.zero_le 1, fun hn => absurd rfl hn, ht⟩
  have hs := Step.of_advance h
  clear h
  cases hs with
  | resume hr _ => exact absurd hr hne
  | closeAtEnd hr _ _ _ => exact absurd hr hne
  | escape hm =>
    exact hpass (hmove hm (by simp))
      (cursors_pass (((Keeps.record _ s).trans (.collect _)).trans (.modifyActive rfl)) _)
  | close hm h =>
    obtain ⟨fresh, hl, ht⟩ := cursors_close h
    refine ⟨fresh, hl, fun _ => ⟨_, hm⟩, ?_⟩
    rw [ht, hmove hm (by simp)]
    rfl
  | enter hm h =>
    exact hpass (hmove hm (by simp)) (cursors_skip ((Keeps.record _ s).trans (.endRunBefore h)) _)
  | split hm h =>
    rename_i token _
    exact hpass (hmove hm (by simp)) (cursors_pass (((Keeps.record _ s).trans (.endRun h)).trans
      (.modifyActive (OpenBlock.title_split token _))) _)
  | strip hm =>
    exact hpass (hmove hm (by simp)) (cursors_pass ((Keeps.record _ s).trans (.collect _)) _)
  | char hm hn =>
    rename_i c current
    obtain ⟨hr, -, -⟩ := Cursor.next?_eq_some hn
    obtain rfl : current = _ := congrArg Prod.snd (Option.some.inj (hn.symm.trans (Cursor.next?_eq_advance hr)))
    have hc : s.consumed g = [c] := by
      rw [hr] at hm
      rw [State.consumed, hr, Scan.consumed, hm]
    exact hpass hc rfl

end State

/-- The next move is the one that comes first in the order of priority. An escaped delimiter is found before every bare
one of its kind. The step that follows passes at least one character, and no more than there is, up to a boundary: some
cursor of the new input is that of the current text behind what has been consumed, with what was suspended still
below it. -/
theorem nextMove_priority {g : Grammar C} (s : Spec C g.size) {rest : List Char} (hne : rest ≠ []) :
    (∀ m, nextMove g s rest = m ↔ First rest (signs g s) m) ∧
    (∀ e, s.escapedStop = some e → e.chars <+: rest → ∃ literal, nextMove g s rest = .escape e literal) ∧
    (∀ b ∈ s.blocks, ∀ e, (g.spec b.2).escapedStart = some e → e.chars <+: rest →
      (∃ e literal, nextMove g s rest = .escape e literal) ∨ ∃ stop, nextMove g s rest = .close stop) ∧
    (1 ≤ byteLength (consumed g s rest) ∧ byteLength (consumed g s rest) ≤ byteLength rest ∧
      IsBoundary rest (byteLength (consumed g s rest))) ∧
    ∀ (o : Options) (st t : State C g.size), st.active.spec = s → st.input.current.rest = rest →
      st.advance g o = .moved t → ∃ (fresh : List Cursor) (behind : Cursor),
        t.input.cursors = fresh ++ behind :: st.input.suspended ∧ fresh.length ≤ 1 ∧
        (fresh ≠ [] → ∃ stop, nextMove g s rest = .close stop) ∧
        behind.offset = st.input.current.offset + byteLength (consumed g s rest) ∧
        rest = consumed g s rest ++ behind.rest ∧ behind.text = st.input.current.text := by
  obtain ⟨behind, hrest⟩ := consumed_isPrefix g s rest
  refine ⟨fun m => nextMove_eq_iff, ?_, fun b hb e he h => nextMove_of_escapedStart hb he h, ⟨?_, ?_, ?_⟩, ?_⟩
  · intro e he h
    exact ⟨_, nextMove_eq_escape he (List.isPrefixOf_iff_prefix.2 h)⟩
  · exact Nat.pos_of_ne_zero fun h => consumed_ne_nil s hne (byteLength_eq_zero.1 h)
  · conv => rhs; rw [← hrest]
    rw [byteLength_append]
    exact Nat.le_add_right _ _
  · exact ⟨_, behind, hrest.symm, rfl⟩
  · rintro o st t rfl rfl h
    obtain ⟨fresh, hl, hc, ht⟩ := State.cursors_advance hne h
    obtain ⟨hp, hr⟩ := Cursor.advance_of_eq_append hrest.symm
    refine ⟨fresh, _, ht, hl, hc, Cursor.offset_advance ⟨behind, hrest⟩, ?_, ?_⟩
    · show _ = _ ++ (st.input.current.advance (byteLength (consumed g _ _))).rest
      rw [hr, hrest]
    · show (st.input.current.advance (byteLength (consumed g _ _))).passed.reverse ++
        (st.input.current.advance (byteLength (consumed g _ _))).rest = _
      rw [hp, hr, Cursor.text, List.reverse_append, List.reverse_reverse, List.append_assoc, hrest]

/-- Lists in parentheses, and calls in brackets behind them, whose start is escaped by a parenthesis. -/
def lateEscape : Definition Unit :=
  .mk {} none
    [("list", .inline (.mk { start := some "(", stop := some ")" } none [])),
      ("call", .inline (.mk { start := some "[", stop := some "]", escapedStart := some "(!" } none []))]

/-- Whether a step has been taken. -/
private def taken {C : Type} {n : Nat} : Progress C n → Bool
  | .moved _ => true
  | _ => false

/-- The escaped start of the calls is found before the start of the lists, and its two bytes are passed. -/
theorem nextMove_priority_lateEscape :
    ∃ g : Grammar Unit, lateEscape.resolve = .ok g ∧ "(!x".toList ≠ [] ∧
      (∃ e literal, nextMove g g.root "(!x".toList = .escape e literal) ∧
      First "(!x".toList (signs g g.root) (nextMove g g.root "(!x".toList) ∧
      IsBoundary "(!x".toList (byteLength (consumed g g.root "(!x".toList)) ∧
      ∃ t, (State.start g "(!x" ()).advance g {} = .moved t ∧ t.input.current.offset = 2 := by
  have h : lateEscape.resolvesTo (fun g => decide (g.root.stop = none) &&
      g.root.blocks.any (fun b => decide ((g.spec b.2).escapedStart = Delimiter.ofString? "(!")) &&
      decide (byteLength (consumed g g.root "(!x".toList) = 2) &&
      taken ((State.start g "(!x" ()).advance g {})) = true := by
    cbv
  obtain ⟨g, hg, h⟩ := Definition.exists_of_resolvesTo h
  simp only [Bool.and_eq_true, decide_eq_true_eq, List.any_eq_true] at h
  obtain ⟨⟨⟨hstop, b, hb, he⟩, hlength⟩, hmoved⟩ := h
  have hne : "(!x".toList ≠ [] := by decide
  obtain ⟨hfirst, -, hescaped, ⟨-, -, hboundary⟩, hstep⟩ := nextMove_priority g.root hne
  have hescape : ∃ e literal, nextMove g g.root "(!x".toList = .escape e literal := by
    rcases hescaped b hb ⟨"(!".toList, by decide⟩ (he.trans rfl) (by decide) with h | ⟨stop, h⟩
    · exact h
    · exact absurd (stop_of_nextMove h) (by simp [hstop])
  refine ⟨g, hg, hne, hescape, (hfirst _).1 rfl, hboundary, ?_⟩
  unfold taken at hmoved
  split at hmoved
  · rename_i t ht
    obtain ⟨fresh, behind, hc, -, hfresh, ho, -, -⟩ := hstep {} _ t rfl rfl ht
    refine ⟨t, ht, ?_⟩
    have hnil : fresh = [] := by
      by_contra hn
      obtain ⟨stop, h⟩ := hfresh hn
      exact absurd (stop_of_nextMove h) (by simp [hstop])
    rw [hnil] at hc
    have hcurrent : t.input.current = behind := congrArg (fun l => l.head?.getD behind) hc
    rw [hcurrent, ho, hlength]
    rfl
  · cases hmoved

end Delimited.Scan
