import Delimited.Proofs.Scan.Outcome

/-!
# Texts that go on

In a grammar of single characters the next move depends on the next character only (`nextMove_cons`). A scan of a text
therefore takes the same steps as a scan of this text with something behind it, until nothing is left of the shorter one:
the situations differ by what comes behind the text at the bottom (`Situation.extend`), and every step keeps it so
(`Situation.advance_extend`).
-/

namespace Delimited.Scan

variable {C : Type} {n : Nat}

/-! ### Grammars of single characters -/

/-- The characters of a literal rule. -/
def literalChars : Rule → List Char
  | .literal d => d.chars
  | .pattern _ => []

/-- All delimiters and rules are single characters, there are no escapes, and no block keeps its delimiters. -/
structure SingleCharacters (g : Grammar C) : Prop where
  start : ∀ slot, ∀ d ∈ (g.spec slot).start, d.chars.length = 1
  stop : ∀ slot, ∀ d ∈ (g.spec slot).stop, d.chars.length = 1
  rules : ∀ slot, ∀ r ∈ rules (g.spec slot), (literalChars r).length = 1
  escapedStart : ∀ slot, (g.spec slot).escapedStart = none
  escapedStop : ∀ slot, (g.spec slot).escapedStop = none
  keepDelimiters : ∀ slot, (g.spec slot).keepDelimiters = false

instance (g : Grammar C) : Decidable (SingleCharacters g) :=
  decidable_of_iff (∀ slot, (∀ d ∈ (g.spec slot).start, d.chars.length = 1) ∧
      (∀ d ∈ (g.spec slot).stop, d.chars.length = 1) ∧ (∀ r ∈ rules (g.spec slot), (literalChars r).length = 1) ∧
      (g.spec slot).escapedStart = none ∧ (g.spec slot).escapedStop = none ∧ (g.spec slot).keepDelimiters = false)
    ⟨fun h => ⟨fun k => (h k).1, fun k => (h k).2.1, fun k => (h k).2.2.1, fun k => (h k).2.2.2.1,
      fun k => (h k).2.2.2.2.1, fun k => (h k).2.2.2.2.2⟩,
    fun h k => ⟨h.start k, h.stop k, h.rules k, h.escapedStart k, h.escapedStop k, h.keepDelimiters k⟩⟩

theorem starts_nil (d : Delimiter) : d.starts [] = false := by
  obtain ⟨c, cs, h⟩ := List.exists_cons_of_ne_nil d.ne_nil
  unfold Delimiter.starts
  rw [h]
  rfl

theorem starts_cons {d : Delimiter} (h : d.chars.length = 1) (c : Char) (rest : List Char) :
    d.starts (c :: rest) = (d.chars == [c]) := by
  obtain ⟨x, hx⟩ := List.length_eq_one_iff.1 h
  unfold Delimiter.starts
  rw [hx]
  simp [List.isPrefixOf]

private theorem matchStart?_cons {r : Rule} (h : (literalChars r).length = 1) (c : Char) (rest rest' : List Char) :
    r.matchStart? (c :: rest) = r.matchStart? (c :: rest') := by
  cases r with
  | literal d =>
    have hd : d.chars.length = 1 := h
    unfold Rule.matchStart?
    dsimp only
    rw [starts_cons hd, starts_cons hd]
  | pattern p => cases h

namespace SingleCharacters

variable {g : Grammar C}

/-- Without escapes, only starts and stops may be found in a block. -/
theorem start_or_stop_of_mem (hg : SingleCharacters g) {slot : Fin g.size} {d : Delimiter}
    (hd : d ∈ delimiters g (g.spec slot)) : ∃ k, d ∈ (g.spec k).start ∨ d ∈ (g.spec k).stop := by
  unfold delimiters at hd
  rw [hg.escapedStop, List.mem_append, List.mem_append, List.mem_flatMap] at hd
  rcases hd with (hd | hd) | ⟨b, -, hd⟩
  · simp at hd
  · exact ⟨slot, Or.inr (Option.mem_toList.1 hd)⟩
  · rw [hg.escapedStart, List.mem_append] at hd
    rcases hd with hd | hd
    · simp at hd
    · exact ⟨b.2, Or.inl (Option.mem_toList.1 hd)⟩

theorem length_of_mem (hg : SingleCharacters g) {slot : Fin g.size} {d : Delimiter}
    (hd : d ∈ delimiters g (g.spec slot)) : d.chars.length = 1 := by
  obtain ⟨k, hk⟩ := hg.start_or_stop_of_mem hd
  exact hk.elim (hg.start k d) (hg.stop k d)

/-- The next character decides about the next move. -/
theorem nextMove_cons (hg : SingleCharacters g) (slot : Fin g.size) (c : Char) (rest rest' : List Char) :
    nextMove g (g.spec slot) (c :: rest) = nextMove g (g.spec slot) (c :: rest') := by
  refine nextMove_congr (fun d hd => ?_) fun r hr => matchStart?_cons (hg.rules slot r hr) c rest rest'
  rw [starts_cons (hg.length_of_mem hd), starts_cons (hg.length_of_mem hd)]

end SingleCharacters

/-! ### Situations with a longer text -/

/-- What is left of a text that goes on. -/
def Left.append (m : List Char) (t : Left) : Left := { t with rest := t.rest ++ m }

private theorem Left.skip_append {k : List Char} {t : Left} (h : k <+: t.rest) (m : List Char) :
    (t.append m).skip k = (t.skip k).append m := by
  simp only [Left.skip, Left.append, List.drop_append_of_le_length h.length_le]

/-- Lets the last text go on. -/
def appendLast (m : List Char) : List Left → List Left
  | [] => []
  | [t] => [t.append m]
  | t :: u :: ts => t :: appendLast m (u :: ts)

@[simp] theorem length_appendLast (m : List Char) (ts : List Left) : (appendLast m ts).length = ts.length := by
  fun_induction appendLast m ts with
  | case1 => rfl
  | case2 t => rfl
  | case3 t u ts ih => exact congrArg (· + 1) ih

namespace Situation

/-- The current text when the text at the bottom goes on. -/
def longer (m : List Char) (s : Situation C n) : Left := if s.suspended.isEmpty then s.text.append m else s.text

/-- The situation with the text at the bottom going on. -/
def extend (m : List Char) (s : Situation C n) : Situation C n :=
  { s with text := s.longer m, suspended := appendLast m s.suspended }

variable {m : List Char}

theorem extend_of_nil {s : Situation C n} (h : s.suspended = []) : s.extend m = { s with text := s.text.append m } := by
  unfold extend longer
  rw [h]
  rfl

/-- Behind what stands at the start of the current text, whatever happens to the blocks. -/
theorem extend_skip {k : List Char} {s : Situation C n} (h : k <+: s.text.rest) (b : OpenBlock C n)
    (around : List (OpenBlock C n)) :
    { s.extend m with text := (s.extend m).text.skip k, active := b, around } =
      { s with text := s.text.skip k, active := b, around }.extend m := by
  unfold extend longer
  cases s.suspended with
  | nil => exact congrArg (fun t => Situation.mk t _ b around _) (Left.skip_append h m)
  | cons => rfl

private theorem rest_extend {s : Situation C n} {c : Char} {rest : List Char} (h : s.text.rest = c :: rest) :
    ∃ rest', (s.extend m).text.rest = c :: rest' := by
  unfold extend longer
  cases s.suspended with
  | nil => exact ⟨rest ++ m, by simp [Left.append, h]⟩
  | cons => exact ⟨rest, h⟩

private theorem endRun_extend (k : Boundary) (s : Situation C n) : (s.extend m).endRun k = extend m <$> s.endRun k := by
  simp only [endRun, map_bind, map_pure]
  rfl

private theorem appendLast_suspend (s : Situation C n) :
    appendLast m (s.text :: s.suspended) = s.longer m :: appendLast m s.suspended := by
  unfold longer
  cases s.suspended <;> rfl

private theorem scanAgain_extend (limit : Nat) (block text : String) (atEnd : Bool) (s : Situation C n) :
    (s.extend m).scanAgain limit block text atEnd = extend m <$> s.scanAgain limit block text atEnd := by
  unfold scanAgain
  have hl : (s.extend m).suspended.length + (s.extend m).endReparses = s.suspended.length + s.endReparses := by
    rw [show (s.extend m).suspended = appendLast m s.suspended from rfl, length_appendLast]
    rfl
  rw [hl]
  by_cases h : limit ≤ s.suspended.length + s.endReparses
  · rw [if_pos h, if_pos h]
    rfl
  · rw [if_neg h, if_neg h, map_pure]
    unfold extend
    dsimp only
    rw [appendLast_suspend]
    rfl

private theorem receive_extend (p : Part) (s : Situation C n) : (s.extend m).receive p = extend m <$> s.receive p := by
  unfold receive
  rw [endRun_extend]
  simp only [map_bind, bind_map_left, map_pure]
  rfl

private theorem close_extend (limit : Nat) (stop : Option Delimiter) {s : Situation C n}
    (h : stop.elim [] Delimiter.chars <+: s.text.rest) :
    (s.extend m).close limit stop = extend m <$> s.close limit stop := by
  obtain ⟨left, suspended, active, around, e⟩ := s
  simp only [close, endRun, bind_assoc, pure_bind, map_bind]
  refine bind_congr fun b => ?_
  cases around with
  | nil => exact congrArg pure (extend_skip h b [])
  | cons outer around =>
    have hs := extend_skip (m := m) h outer around
    simp only [extend, map_bind]
    refine bind_congr fun p => ?_
    cases State.again? b p with
    | none => exact (congrArg (receive p) hs).trans (receive_extend p _)
    | some text =>
      exact (congrArg (scanAgain limit b.name text stop.isNone) hs).trans (scanAgain_extend limit _ text _ _)

private theorem enter_extend {g : Grammar C} (name : String) (slot : Fin g.size) {start : Delimiter}
    {s : Situation C g.size}
    (h : start.chars <+: s.text.rest) :
    (s.extend m).enter g name slot start = extend m <$> s.enter g name slot start := by
  have ho : (s.extend m).text.offset = s.text.offset := by
    unfold extend longer
    cases s.suspended <;> rfl
  unfold enter endRunBefore
  split
  · simp only [pure_bind, map_pure]
    rw [ho]
    exact congrArg pure (extend_skip h _ _)
  · simp only [endRun, bind_assoc, pure_bind, map_bind, map_pure]
    refine bind_congr fun b => ?_
    rw [ho]
    exact congrArg pure (extend_skip h _ _)

private theorem makeMove_extend {g : Grammar C} (limit : Nat) {s : Situation C g.size} {mv : Move g.size}
    (hne : s.text.rest ≠ []) (h : mv.recognised <+: s.text.rest) :
    (s.extend m).makeMove g limit mv = extend m <$> s.makeMove g limit mv := by
  cases mv with
  | escape escaped literal => exact congrArg pure (extend_skip h _ s.around)
  | close stop => exact close_extend limit (some stop) h
  | enter name slot start => exact enter_extend name slot h
  | split k token =>
    simp only [makeMove, endRun, bind_assoc, pure_bind, map_bind, map_pure]
    exact bind_congr fun b => congrArg pure (extend_skip h _ s.around)
  | strip k => exact congrArg pure (extend_skip h _ s.around)
  | char =>
    obtain ⟨c, rest, hr⟩ := List.exists_cons_of_ne_nil hne
    obtain ⟨rest', hr'⟩ := rest_extend (m := m) hr
    unfold makeMove
    dsimp only
    rw [hr, hr']
    exact congrArg pure (extend_skip (k := [c]) (by rw [hr]; exact ⟨rest, rfl⟩) _ s.around)

/-- As long as something is left of the texts, the next step is the same when the text at the bottom goes on. -/
theorem advance_extend {g : Grammar C} (hg : SingleCharacters g) {o : Options} {s : Situation C g.size}
    {slot : Fin g.size} (hslot : s.active.spec = g.spec slot) (h : s.text.rest ≠ [] ∨ s.suspended ≠ []) :
    (s.extend m).advance g o = Option.map (extend m) <$> s.advance g o := by
  cases hr : s.text.rest with
  | cons c rest =>
    obtain ⟨rest', hr'⟩ := rest_extend (m := m) hr
    have hm : nextMove g (s.extend m).active.spec (s.extend m).text.rest = nextMove g s.active.spec s.text.rest := by
      show nextMove g s.active.spec _ = _
      rw [hr, hr', hslot]
      exact hg.nextMove_cons slot c rest' rest
    have hne : s.text.rest ≠ [] := by simp [hr]
    rw [advance_of_ne_nil o hne, advance_of_ne_nil o (by simp [hr']), hm,
      makeMove_extend o.maxReparseDepth hne (recognised_isPrefix g _ _)]
    simp only [Functor.map_map]
    rfl
  | nil =>
    obtain ⟨t, ts, hs⟩ := List.exists_cons_of_ne_nil (h.resolve_left (by simp [hr]))
    have hr' : (s.extend m).text.rest = [] := by
      unfold extend longer
      rw [hs]
      exact hr
    have hs' : (s.extend m).suspended = _ :: appendLast m ts :=
      (congrArg (appendLast m) hs).trans (appendLast_suspend { s with text := t, suspended := ts })
    rw [advance_of_suspended o hr hs, advance_of_suspended o hr' hs']
    rfl

end Situation

/-! ### Scans of longer texts -/

namespace State

variable {g : Grammar C} {o : Options}

private theorem advance_of_suspended (o : Options) {s : State C g.size} {c : Cursor} {cs : List Cursor}
    (hr : s.input.current.rest = []) (hs : s.input.suspended = c :: cs) :
    s.advance g o = .moved (s.resume ⟨c, cs⟩) := by
  have he : s.input.current.atEnd = true := by simp [Cursor.atEnd, hr]
  have hi : s.input.resume? = some ⟨c, cs⟩ := by simp [Input.resume?, hs]
  unfold advance
  rw [if_pos he, hi]

/-- What is done with blocks that are open at the end makes no difference before the end. -/
theorem advance_congr {o' : Options} (ho : o'.maxReparseDepth = o.maxReparseDepth) {s : State C g.size}
    (h : s.input.current.rest ≠ [] ∨ s.input.suspended ≠ []) : s.advance g o' = s.advance g o := by
  by_cases hr : s.input.current.rest = []
  · obtain ⟨c, cs, hc⟩ := List.exists_cons_of_ne_nil (h.resolve_left (by simp [hr]))
    rw [advance_of_suspended o' hr hc, advance_of_suspended o hr hc]
  · have he : ¬ s.input.current.atEnd = true := by simpa [Cursor.atEnd] using hr
    unfold advance
    rw [ho, if_neg he, if_neg he]

/-- A scan that fails at blocks that are open at the end goes on only when something is left of its texts. -/
theorem left_of_moved (ho : o.unterminated = .error) {s t : State C g.size} (h : s.advance g o = .moved t) :
    s.input.current.rest ≠ [] ∨ s.input.suspended ≠ [] := by
  by_cases hr : s.input.current.rest = []
  · refine Or.inr fun hs => ?_
    have he : s.input.current.atEnd = true := by simp [Cursor.atEnd, hr]
    have hi : s.input.resume? = none := by simp [Input.resume?, hs]
    unfold advance at h
    rw [if_pos he, hi, ho] at h
    dsimp only at h
    split at h
    · cases h
    · cases h
  · exact Or.inl hr

/-- Such a scan starts no reparse at the end of the input. -/
theorem endReparses_of_moved (ho : o.unterminated = .error) {s t : State C g.size} (h : s.advance g o = .moved t) :
    t.endReparses = s.endReparses := by
  rcases startsReparse_or h with hs | ⟨-, he⟩
  · by_cases hr : s.input.current.rest = []
    · -- the step takes a suspended text up again, so it does not suspend one
      obtain ⟨c, cs, hc⟩ := List.exists_cons_of_ne_nil ((left_of_moved ho h).resolve_left (by simp [hr]))
      rw [advance_of_suspended o hr hc] at h
      have hd := hs.depth
      rw [← Progress.moved.inj h] at hd
      have hr : (s.resume ⟨c, cs⟩).input.depth = cs.length := congrArg Input.depth (Keeps.resume _ s).input
      rw [hr, Input.depth, hc, List.length_cons] at hd
      omega
    · rw [hs.endReparses, if_neg hr]
  · exact he

/-- Up to a state that a scan comes to, a scan that closes blocks at the end takes the same steps. -/
theorem outcome_of_steps (o' : Options) (ho : o.unterminated = .error) (hl : o'.maxReparseDepth = o.maxReparseDepth)
    {s u : State C g.size} {k e : Nat} (hs : Steps g o s k e u) (hd : s.input.depth ≤ o'.maxReparseDepth) :
    ∃ hu : u.input.depth ≤ o'.maxReparseDepth, s.outcome g o' hd = u.outcome g o' hu := by
  induction hs with
  | refl s => exact ⟨hd, rfl⟩
  | head h _ ih =>
    have h' := (advance_congr hl (left_of_moved ho h)).trans h
    obtain ⟨hu, he⟩ := ih (depth_advance hd h')
    exact ⟨hu, (outcome_moved hd h').trans he⟩

/-- A longer text is the text going on. -/
theorem situation_start_append (text : String) (m : List Char) (context : C) :
    (start g (text ++ String.ofList m) context).situation = (start g text context).situation.extend m := by
  have ht : (text ++ String.ofList m).toList = text.toList ++ m := by simp
  unfold situation Situation.extend Situation.longer Left.append
  simp only [State.start, Input.ofString, Cursor.ofString, Cursor.ofChars, Cursor.left, ht]
  rfl

/-- Up to a state that a scan comes to, a scan of a longer text takes the same steps. -/
theorem exists_extended (hg : SingleCharacters g) (hroot : g.root.stop = none) (ho : o.unterminated = .error)
    {m : List Char} {s u : State C g.size} {k e : Nat} (hs : Steps g o s k e u) (hsound : s.Sound g)
    {t : State C g.size} (ht : t.Sound g) (hd : t.input.depth ≤ o.maxReparseDepth) (hsit : t.situation = s.situation.extend m)
    (hc : t.context = s.context) :
    ∃ v : State C g.size, ∃ hv : v.input.depth ≤ o.maxReparseDepth, (∃ e', Steps g o t k e' v) ∧
      v.situation = u.situation.extend m ∧ v.context = u.context ∧ t.outcome g o hd = v.outcome g o hv := by
  induction hs generalizing t with
  | refl s => exact ⟨t, hd, ⟨0, .refl t⟩, hsit, hc, rfl⟩
  | @head s s₁ u _ _ h _ ih =>
    have hleft : s.situation.text.rest ≠ [] ∨ s.situation.suspended ≠ [] :=
      (left_of_moved ho h).imp_right fun hs hn => hs (List.map_eq_nil_iff.1 hn)
    obtain ⟨slot, hslot⟩ := hsound.active_spec
    -- the longer text makes the same step
    have hobs : (t.advance g o).observe = (.ok (some (s₁.situation.extend m)), s₁.context) := by
      rw [observe_advance ht hroot, hsit, hc, Situation.advance_extend hg hslot hleft, map_eq_pure_bind,
        Effect.bind_apply, ← observe_advance hsound hroot, h]
      rfl
    obtain ⟨t₁, hm, hsit₁, hc₁⟩ := Progress.of_observe_some hobs
    obtain ⟨v, hv, ⟨e', hsv⟩, hsitv, hcv, hout⟩ :=
      ih (hsound.advance h) (ht.advance hm) (depth_advance hd hm) hsit₁ hc₁
    exact ⟨v, hv, ⟨_, .head hm hsv⟩, hsitv, hcv, (outcome_moved hd hm).trans hout⟩

end State

end Delimited.Scan
