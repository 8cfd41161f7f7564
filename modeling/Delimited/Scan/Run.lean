import Delimited.Scan.Step
import Delimited.Scan.Tower

/-!
# Runs

`State.run` takes steps to the end. It ends although a step may bring in new text, because every step makes a measure
smaller that is compared in three parts: how many texts may still be suspended by blocks that close at the end of the
input; the tower of the lengths that are left of the current and the suspended texts; and the number of open blocks
(`advance_lt`). The tower has room for all texts because no more than the limit are ever suspended (`depth_advance`).

`scan` runs from the start of a text and makes the parts of the root one part.
-/

namespace Delimited.Scan

variable {C : Type} {n : Nat}

namespace State

/-! ### The measure -/

/-- The lengths that are left of all texts, the one that was suspended first at the bottom. -/
def lengths (i : Input) : List Nat := i.suspended.reverse.map (·.rest.length) ++ [i.current.rest.length]

/-- The measure that every step makes smaller. -/
def measure (limit : Nat) (s : State C n) : Nat × Tower limit × Nat :=
  (limit - s.endReparses, .ofLengths limit (lengths s.input), s.opened.length)

/-- The second state has a smaller measure than the first, and keeps both counts of reparses within the limit. -/
private structure Below (limit : Nat) (s' s : State C n) : Prop where
  depth : s'.input.depth ≤ limit
  endReparses : s'.endReparses = s.endReparses ∨ s'.endReparses ≤ limit
  lt : WellFoundedRelation.rel (measure limit s') (measure limit s)

section Below

variable {limit : Nat} {s s' : State C n}

private theorem below_of_endReparses (hd : s'.input.depth ≤ limit) (h : s.endReparses < s'.endReparses)
    (hl : s'.endReparses ≤ limit) : Below limit s' s :=
  ⟨hd, Or.inr hl, Prod.Lex.left _ _ (by show limit - s'.endReparses < limit - s.endReparses; omega)⟩

private theorem below_of_tower (hd : s'.input.depth ≤ limit) (he : s'.endReparses = s.endReparses)
    (h : (Tower.order limit).rel (.ofLengths limit (lengths s'.input)) (.ofLengths limit (lengths s.input))) :
    Below limit s' s := by
  refine ⟨hd, Or.inl he, ?_⟩
  unfold measure
  rw [he]
  exact Prod.Lex.right _ (Prod.Lex.left _ _ h)

private theorem below_of_opened (hd : s'.input.depth ≤ limit) (he : s'.endReparses = s.endReparses)
    (hi : s'.input = s.input) (h : s'.opened.length < s.opened.length) : Below limit s' s := by
  refine ⟨hd, Or.inl he, ?_⟩
  unfold measure
  rw [he, hi]
  exact Prod.Lex.right _ (Prod.Lex.right _ h)

/-- Less is left of the current text, whatever has been suspended in its favour. -/
private theorem below_of_rest {t : List Nat} (hs : s.input.depth ≤ limit) (hd : s'.input.depth ≤ limit)
    (he : s'.endReparses = s.endReparses) {k : Nat} (hk : k < s.input.current.rest.length)
    (hl : lengths s'.input = s.input.suspended.reverse.map (·.rest.length) ++ k :: t) : Below limit s' s := by
  refine below_of_tower hd he ?_
  rw [hl, lengths]
  exact Tower.ofLengths_lt_of_lt hk (by simpa [Input.depth] using hs)

private theorem below_of_passed (hs : s.input.depth ≤ limit) (he : s'.endReparses = s.endReparses)
    (hi : s'.input.suspended = s.input.suspended)
    (hk : s'.input.current.rest.length < s.input.current.rest.length) : Below limit s' s :=
  below_of_rest hs (by simpa [Input.depth, hi] using hs) he hk (by rw [lengths, hi])

end Below

/-! ### Every step makes the measure smaller -/

private theorem length_rest_skip {s : State C n} {m : List Char} (hm : m ≠ []) (h : m <+: s.input.current.rest) :
    (s.skip m).input.current.rest.length < s.input.current.rest.length := by
  obtain ⟨r, hr⟩ := h
  have := List.length_pos_iff.2 hm
  rw [rest_skip hr.symm, ← hr, List.length_append]
  omega

/-- Skipping what a move has recognised makes the measure smaller, whatever else happens to the active block. -/
private theorem below_of_skip {limit : Nat} {s s₁ s' : State C n} {m : List Char} (hd : s.input.depth ≤ limit)
    (hk : Keeps s s₁) (hm : m ≠ []) (h : m <+: s.input.current.rest) (hi : s'.input = (s₁.skip m).input)
    (he : s'.endReparses = s₁.endReparses) : Below limit s' s := by
  have := length_rest_skip (s := s₁) hm (by rw [hk.input]; exact h)
  rw [hk.input] at this
  refine below_of_passed hd (he.trans hk.endReparses) ?_ (by rw [hi]; exact this)
  rw [hi]
  show s₁.input.suspended = _
  rw [hk.input]

private theorem below_close {limit : Nat} {s s' : State C n} {stop : Option Delimiter}
    (hd : s.input.depth ≤ limit) (hs : s.close limit stop = .ok s')
    (h : ∀ d, stop = some d → d.chars <+: s.input.current.rest) (hn : stop = none → s.opened ≠ []) :
    Below limit s' s := by
  rcases close_cases hs with ⟨s₁, h₁, ho, rfl⟩ | ⟨s₁, inner, outer, p, s₂, h₁, ho, h₂, hs⟩
  · have hk := Keeps.endRun h₁
    cases stop with
    | none =>
      have := hk.length_opened
      rw [ho] at this
      exact absurd (List.length_eq_zero_iff.1 this.symm) (hn rfl)
    | some d => exact below_of_skip hd hk d.ne_nil (h d rfl) rfl rfl
  · have hk := Keeps.endRun h₁
    have hk₂ := Keeps.output h₂
    -- behind the block, as far as the input is concerned
    have hi : s₂.input = (s₁.skip (stop.elim [] Delimiter.chars)).input := hk₂.input
    have he : s₂.endReparses = s.endReparses := hk₂.endReparses.trans hk.endReparses
    have hl : s₂.opened.length < s.opened.length := by
      rw [hk₂.length_opened, ← hk.length_opened, ho]
      exact Nat.lt_succ_self _
    rcases hs with ⟨text, -, hs⟩ | ⟨-, hs⟩
    · obtain ⟨hlt, hi', -, -, -, he'⟩ := scanAgain_eq_ok hs
      have hd' : s'.input.depth ≤ limit := by
        rw [hi']; simp only [Input.suspend, Input.depth, List.length_cons] at hlt ⊢; omega
      cases stop with
      | none => exact below_of_endReparses hd' (by rw [he', he]; simp) (by rw [he']; simp; omega)
      | some d =>
        have hlen := length_rest_skip (s := s₁) d.ne_nil (by rw [hk.input]; exact h d rfl)
        rw [hk.input] at hlen
        refine below_of_rest (t := [text.toList.length]) hd hd' (by rw [he', he]; rfl) hlen ?_
        rw [hi', hi, lengths, Input.suspend]
        simp [skip, hk.input, Cursor.ofString]
    · have hk₃ := Keeps.addResult hs
      have he' := hk₃.endReparses.trans he
      cases stop with
      | none =>
        have hi' : s'.input = s.input := by
          rw [hk₃.input, hi]; simp only [Option.elim, skip_nil]; exact hk.input
        exact below_of_opened (by rw [hi']; exact hd) he' hi' (by rw [hk₃.length_opened]; exact hl)
      | some d =>
        exact below_of_skip hd hk d.ne_nil (h d rfl) (hk₃.input.trans hi) (he'.trans hk.endReparses.symm)

private theorem below_advance {g : Grammar C} {o : Options} {s s' : State C g.size}
    (hd : s.input.depth ≤ o.maxReparseDepth) (h : s.advance g o = .moved s') : Below o.maxReparseDepth s' s := by
  have hs := Passage.of_advance h
  clear h
  cases hs with
  | resume hr hc =>
    rename_i c cs
    have hk := Keeps.resume ⟨c, cs⟩ s
    rw [Input.depth, hc, List.length_cons] at hd
    refine below_of_tower (by rw [hk.input, Input.depth]; exact Nat.le_of_succ_le hd) hk.endReparses ?_
    rw [hk.input, lengths, lengths, hc, List.reverse_cons, List.map_append]
    exact Tower.ofLengths_lt_append (by simpa using hd)
  | close hp hn h => exact below_close hd h (by rintro d rfl; exact hp) fun h => (hn h).2
  | enter hp hk h =>
    rename_i start s₁
    exact below_of_skip hd hk start.ne_nil hp rfl rfl
  | pass hm hp hk =>
    rename_i m s₁
    have hr := Keeps.restartRun (s₁.skip m)
    exact below_of_skip hd hk hm hp hr.input hr.endReparses
  | char hn =>
    rename_i c current
    refine below_of_passed hd rfl rfl ?_
    show current.rest.length < _
    rw [(Cursor.next?_eq_some hn).1]
    exact Nat.lt_succ_self _

/-- The number of suspended texts stays within the limit. -/
theorem depth_advance {g : Grammar C} {o : Options} {s s' : State C g.size}
    (hd : s.input.depth ≤ o.maxReparseDepth) (hs : s.advance g o = .moved s') :
    s'.input.depth ≤ o.maxReparseDepth := (below_advance hd hs).depth

/-- The number of reparses at the end of the input stays within the limit. -/
theorem endReparses_advance_le {g : Grammar C} {o : Options} {s s' : State C g.size}
    (hd : s.input.depth ≤ o.maxReparseDepth) (he : s.endReparses ≤ o.maxReparseDepth)
    (hs : s.advance g o = .moved s') : s'.endReparses ≤ o.maxReparseDepth := by
  rcases (below_advance hd hs).endReparses with h | h
  · rw [h]; exact he
  · exact h

/-- Every step makes the measure smaller. -/
theorem advance_lt {g : Grammar C} {o : Options} {s s' : State C g.size}
    (hd : s.input.depth ≤ o.maxReparseDepth) (hs : s.advance g o = .moved s') :
    WellFoundedRelation.rel (measure o.maxReparseDepth s') (measure o.maxReparseDepth s) := (below_advance hd hs).lt

/-! ### Running -/

/-- At the start no text is suspended. -/
theorem depth_start_le (g : Grammar C) (o : Options) (text : String) (context : C) :
    (start g text context).input.depth ≤ o.maxReparseDepth := Nat.zero_le _

/-- Takes steps to the end. -/
def run (g : Grammar C) (o : Options) (s : State C g.size) (hd : s.input.depth ≤ o.maxReparseDepth) :
    Except (Failure C) (State C g.size) :=
  match hs : s.advance g o with
  | .ended s => .ok s
  | .failed f => .error f
  | .moved s' => run g o s' (depth_advance hd hs)
termination_by measure o.maxReparseDepth s
decreasing_by exact advance_lt hd hs

end State

/-- What comes out of a scan: a part or an error, the context afterwards, and the events. -/
structure Outcome (C : Type) where
  result : Except Error Part
  context : C
  events : Array Event

/-- Scans a text. -/
def scan (g : Grammar C) (o : Options) (text : String) (context : C) : Outcome C :=
  match (do (← State.run g o (.start g text context) (State.depth_start_le g o text context)).endRun .stop) with
  | .ok s => ⟨.ok s.root.result, s.context, s.events⟩
  | .error f => ⟨.error f.error, f.context, f.events⟩

end Delimited.Scan
