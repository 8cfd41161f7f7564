import Mathlib
import Delimited.Proofs.Grammar.Resolved
import Delimited.Proofs.Scan.Checked

/-!
# Scans have no faults

In every state that a scan of a resolved grammar goes through, all offsets that the next step uses are boundaries of the
texts that it uses them in (`Safe`). So the checked machine takes the step that the scan takes (`Reachable.safe`). It is
the active block alone whose run has to start in the current text: a block around it may have been opened in a text that
was longer than the current one and has been dropped since.
-/

namespace Delimited.Scan

variable {C : Type} {n : Nat} {α β : Type}

/-! ### Computations without faults -/

/-- The checked computation has no fault, and gives what the other one gives. -/
def Faultless (x : Checked C α) (y : Except (Failure C) α) : Prop := x = ExceptT.mk (some y)

namespace Faultless

private theorem pure (a : α) : Faultless (pure a : Checked C α) (.ok a) := rfl

private theorem lift (x : Except (Failure C) α) : Faultless (liftM x) x := rfl

private theorem bind {x : Checked C α} {y : Except (Failure C) α} {f : α → Checked C β} {f' : α → Except (Failure C) β}
    (h : Faultless x y) (hf : ∀ a, y = .ok a → Faultless (f a) (f' a)) : Faultless (x >>= f) (y >>= f') := by
  unfold Faultless at h
  subst h
  cases y with
  | error e => rfl
  | ok a => exact hf a rfl

/-- A slice that exists is no fault. -/
theorem slice {x : Option α} {a : α} {f : α → Checked C β} {y : Except (Failure C) β} (hx : x = some a)
    (hf : Faultless (f a) y) : Faultless (do let a ← x; f a) y := by
  subst hx
  exact hf

end Faultless

namespace State

private theorem modifyActive_congr {f f' : OpenBlock C n → OpenBlock C n} {s : State C n}
    (h : f s.active = f' s.active) :
    s.modifyActive f = s.modifyActive f' := by
  unfold modifyActive
  unfold active at h
  split
  · rename_i ho
    rw [ho] at h
    exact congrArg (fun b => { s with root := b }) h
  · rename_i inner outer ho
    rw [ho] at h
    exact congrArg (fun b => { s with opened := b :: outer }) h

private theorem collect?_eq {s : State C n} (h : s.Anchored) : s.collect? = some s.collect := by
  unfold collect?
  rw [Cursor.since?_eq h]
  exact congrArg some (modifyActive_congr rfl)

private theorem skip?_eq {s : State C n} {m : List Char} (h : m <+: s.input.current.rest) :
    s.skip? m = some (s.skip m) := by
  unfold skip?
  rw [Cursor.bump?_eq h]
  rfl

private theorem endRun?_eq {s : State C n} (h : s.Anchored) (b : Boundary) : Faultless (s.endRun? b) (s.endRun b) := by
  unfold endRun? endRun
  refine .slice (collect?_eq h) ?_
  dsimp only
  cases s.collect.active.fragment? b with
  | none => exact .pure _
  | some f => exact (Faultless.lift _).bind fun a _ => .pure _

private theorem addResult?_eq (s : State C n) (p : Part) : Faultless (s.addResult? p) (s.addResult p) := by
  unfold addResult? addResult
  exact (endRun?_eq (anchored_restartRun s) .block).bind fun t _ => (Faultless.lift _).bind fun a _ => .pure _

private theorem endRunBefore?_eq {s : State C n} (h : s.Anchored) (child : Spec C n) :
    Faultless (s.endRunBefore? child) (s.endRunBefore child) := by
  unfold endRunBefore? endRunBefore
  by_cases hc : child.reparses
  · rw [if_pos hc, if_pos hc]
    show Faultless (liftM s.collect?) _
    rw [collect?_eq h]
    exact .pure _
  · rw [if_neg hc, if_neg hc]
    exact endRun?_eq h .block

private theorem enter?_eq {g : Grammar C} {s : State C g.size} {name : String} {slot : Fin g.size} {start : Delimiter}
    (h : s.Anchored) (hp : start.chars <+: s.input.current.rest) :
    Faultless (s.enter? g name slot start) (s.enter g name slot start) := by
  unfold enter? enter
  refine Faultless.bind (endRunBefore?_eq (s := s.record _) h _) fun t ht => ?_
  have hi := ((Keeps.record _ s).trans (.endRunBefore ht)).input
  rw [← hi] at hp
  exact .slice (skip?_eq hp) (.pure _)

private theorem close?_eq {s : State C n} (stop : Option Delimiter) (h : s.Anchored)
    (hp : stop.elim [] Delimiter.chars <+: s.input.current.rest) (ho : s.opened ≠ []) (limit : Nat) :
    Faultless (s.close? limit stop) (s.close limit stop) := by
  unfold close?
  rw [close_eq]
  refine (endRun?_eq h .stop).bind fun t ht => ?_
  have hk := Keeps.endRun ht
  rw [← hk.input] at hp
  refine .slice (skip?_eq hp) ?_
  cases hc : t.opened with
  | nil => exact absurd hc (hk.opened_ne_nil ho)
  | cons inner outer =>
    refine (Faultless.lift _).bind fun a _ => ?_
    dsimp only
    cases again? inner a.1 with
    | some text => exact .lift _
    | none => exact addResult?_eq _ _

private theorem resume?_eq {s : State C n} (h : s.Anchored) (input : Input) :
    s.resume? input = some (s.resume input) := by
  unfold resume?
  rw [collect?_eq h]
  rfl

private theorem makeMove?_eq {g : Grammar C} {s : State C g.size} (h : s.Anchored) (limit : Nat)
    (hc : ∀ stop, nextMove g s.active.spec s.input.current.rest = .close stop → s.opened ≠ []) :
    Faultless (s.makeMove? g limit) (s.makeMove g limit) := by
  have hp := recognised_isPrefix g s.active.spec s.input.current.rest
  unfold makeMove? makeMove
  refine .slice (Cursor.rest?_eq _) (.slice (nextMove?_eq g _ _) ?_)
  dsimp only
  cases hm : nextMove g s.active.spec s.input.current.rest with
  | escape escaped literal =>
    rw [hm] at hp
    refine .slice (slice?_zero hp) (.slice (collect?_eq (s := s.record _) h) (.slice (skip?_eq ?_) (.pure _)))
    rw [input_modifyActive, (Keeps.collect (s.record _)).input]
    exact hp
  | close stop =>
    rw [hm] at hp
    exact close?_eq (some stop) h hp (hc stop hm) limit
  | enter name slot start =>
    rw [hm] at hp
    exact enter?_eq h hp
  | split m token =>
    rw [hm] at hp
    refine .slice (slice?_zero hp) ?_
    refine Faultless.bind (endRun?_eq (s := s.record _) h .split) fun t ht => ?_
    refine .slice (skip?_eq ?_) (.pure _)
    rw [input_modifyActive, ((Keeps.record _ s).trans (.endRun ht)).input]
    exact hp
  | strip m =>
    rw [hm] at hp
    refine .slice (slice?_zero hp) (.slice (collect?_eq (s := s.record _) h) (.slice (skip?_eq ?_) (.pure _)))
    rw [(Keeps.collect (s.record _)).input]
    exact hp
  | char =>
    cases hr : s.input.current.rest with
    | nil =>
      have hn : s.input.current.next? = none := by simp [Cursor.next?, hr]
      simp only [hn]
      exact .pure s
    | cons c r =>
      have hn : s.input.current.next? = some (c, s.input.current.advance (byteLength [c])) := Cursor.next?_eq_advance hr
      simp only [hn]
      exact .slice (skip?_eq (by rw [hr]; exact ⟨r, rfl⟩)) (.pure _)

private theorem text_le_offset_iff (c : Cursor) : byteLength c.text ≤ c.offset ↔ c.atEnd = true := by
  have hl : byteLength c.text = c.offset + byteLength c.rest := by
    rw [Cursor.text, byteLength_append, byteLength_reverse, c.offset_eq]
  rw [Cursor.atEnd, List.isEmpty_iff, ← byteLength_eq_zero]
  omega

private theorem of_faultless {x : Checked C (State C n)} {y : Except (Failure C) (State C n)} (h : Faultless x y) :
    x.run.map Progress.of = some (Progress.of y) := by
  unfold Faultless at h
  subst h
  rfl

/-- The checked machine takes the step that the scan takes. -/
theorem advance?_eq {g : Grammar C} {s : State C g.size} (hs : s.Sound g) (hg : g.root.stop = none) (o : Options) :
    s.advance? g o = some (s.advance g o) := by
  unfold advance? advance
  by_cases he : s.input.current.atEnd
  · rw [if_pos ((text_le_offset_iff _).2 he), if_pos he]
    cases s.input.resume? with
    | some input =>
      dsimp only
      rw [resume?_eq hs.anchored]
      rfl
    | none =>
      cases ho : s.opened with
      | nil => rfl
      | cons inner outer =>
        cases o.unterminated with
        | error => rfl
        | close => exact of_faultless (close?_eq none hs.anchored List.nil_prefix (by simp [ho]) _)
  · rw [if_neg fun h => he ((text_le_offset_iff _).1 h), if_neg he]
    exact of_faultless (makeMove?_eq hs.anchored _ fun _ hm => hs.opened_of_close hg hm)

/-! ### Reachable states -/

/-- All that the next step of a state uses is in range. -/
structure Safe (g : Grammar C) (o : Options) (s : State C g.size) : Prop where
  /-- The cursors are at boundaries of their texts. -/
  cursors : ∀ c ∈ s.input.current :: s.input.suspended, IsBoundary c.text c.offset
  /-- The run of the active block starts at a boundary of the current text, and not behind the cursor. -/
  runStart : IsBoundary s.input.current.text s.active.runStart ∧ s.active.runStart ≤ s.input.current.offset
  /-- What the next move recognises ends at a boundary of what is left. -/
  recognised : IsBoundary s.input.current.rest (byteLength (nextMove g s.active.spec s.input.current.rest).recognised)
  /-- Every rule that may be matched cuts out no more than what is left. -/
  rules : ∀ r ∈ s.active.spec.split.toList ++ s.active.spec.strip,
    matchStartChecked s.input.current.rest r = some (r.matchStart? s.input.current.rest)
  /-- The blocks nested in the active one are in the list of specs. -/
  blocks : ∀ b ∈ s.active.spec.blocks, b.2.val < g.specs.toArray.size
  /-- A stop is found only where a block is open. -/
  opened : ∀ stop, nextMove g s.active.spec s.input.current.rest = .close stop → s.opened ≠ []
  /-- The next step is taken without a fault. -/
  step : s.advance? g o = some (s.advance g o)
  /-- So is the end of the scan. -/
  finish : s.endRun? .stop = ExceptT.mk (some (s.endRun .stop))

end State

/-- Every state that a scan of a resolved grammar goes through is safe, whatever the text, the options, the handlers and
their context are. -/
theorem safe_of_reachable {d : Definition C} {g : Grammar C} (hg : d.resolve = .ok g) {o : Options} {text : String}
    {context : C} {s : State C g.size} (h : Reachable g o text context s) : s.Safe g o := by
  have hs := h.sound
  have hroot := (Definition.root_of_resolve hg).2
  obtain ⟨a, m, hm, ha⟩ := hs.anchored
  obtain ⟨r, hr⟩ := recognised_isPrefix g s.active.spec s.input.current.rest
  refine ⟨?_, ⟨?_, ?_⟩, ⟨_, r, hr.symm, rfl⟩, ?_, ?_, ?_, ?_, ?_⟩
  · intro c _
    exact ⟨c.passed.reverse, c.rest, rfl, by simp [c.offset_eq]⟩
  · exact ⟨a.reverse, m ++ s.input.current.rest, by rw [Cursor.text, hm]; simp, by simpa using ha⟩
  · rw [← ha, s.input.current.offset_eq, hm, byteLength_append]
    omega
  · intro r _
    exact matchStartChecked_eq _ r
  · intro b _
    simp
  · intro stop hm
    exact hs.opened_of_close hroot hm
  · exact State.advance?_eq hs hroot o
  · exact State.endRun?_eq hs.anchored .stop

/-- Where a text is taken up again that has been suspended, the run of the root is known by an offset in another text,
which lies inside a character of this one. -/
theorem safe_of_reachable_brackets :
    ∃ (g : Grammar Nat) (s : State Nat g.size), brackets.resolve = .ok g ∧ Reachable g {} "é[x(]y)" 0 s ∧
      (∃ b ∈ s.around, ¬ IsBoundary s.input.current.text b.runStart) ∧ s.Safe g {} := by
  have h : reaches brackets {} "é[x(]y)" 0 8
      (fun _ s => decide (∃ b ∈ s.around, ¬ IsBoundary s.input.current.text b.runStart)) = true := by
    cbv
  obtain ⟨g, s, hg, hs, h⟩ := exists_of_reaches h
  exact ⟨g, s, hg, hs, of_decide_eq_true h, safe_of_reachable hg hs⟩

end Delimited.Scan
