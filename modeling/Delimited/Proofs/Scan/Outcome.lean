import Delimited.Proofs.Scan.Refinement

/-!
# Outcomes

`State.outcome` is what comes out of a scan that goes on from a state; a scan of a text is one that goes on from its
start. A function of situations that agrees with every step gives the outcome (`observe_outcome`): this is how anything
that is not a sequence of steps is compared with a scan.
-/

namespace Delimited.Scan

variable {C : Type} {n : Nat}

namespace State

/-- What comes out of a scan that goes on from a state. -/
def outcome (g : Grammar C) (o : Options) (s : State C g.size) (hd : s.input.depth ≤ o.maxReparseDepth) : Outcome C :=
  match (do (← run g o s hd).endRun .stop) with
  | .ok s => ⟨.ok s.root.result, s.context, s.events⟩
  | .error f => ⟨.error f.error, f.context, f.events⟩

/-- A scan of a text goes on from its start. -/
theorem scan_eq_outcome (g : Grammar C) (o : Options) (text : String) (context : C) :
    scan g o text context = (start g text context).outcome g o (depth_start_le g o text context) := rfl

section

variable {g : Grammar C} {o : Options} {s t : State C g.size} {f : Failure C}

/-- A run goes on as its next step says. -/
private theorem run_eq (hd : s.input.depth ≤ o.maxReparseDepth) {p : Progress C g.size} (h : s.advance g o = p) :
    run g o s hd = match p, h with
      | .ended t, _ => .ok t
      | .failed f, _ => .error f
      | .moved _, h => run g o _ (depth_advance hd h) := by
  rw [run]
  split
  all_goals
    rename_i h'
    obtain rfl := h.symm.trans h'
    rfl

/-- A step makes no difference to what comes out. -/
theorem outcome_moved (hd : s.input.depth ≤ o.maxReparseDepth) (h : s.advance g o = .moved t) :
    s.outcome g o hd = t.outcome g o (depth_advance hd h) := by
  unfold outcome
  rw [run_eq hd h]

/-- Where a step fails the scan fails. -/
theorem outcome_failed (hd : s.input.depth ≤ o.maxReparseDepth) (h : s.advance g o = .failed f) :
    s.outcome g o hd = ⟨.error f.error, f.context, f.events⟩ := by
  unfold outcome
  rw [run_eq hd h]
  rfl

/-- A run goes on from every state that it comes to. -/
theorem run_of_after {k : Nat} {u : State C g.size} (hd : s.input.depth ≤ o.maxReparseDepth)
    (h : s.after g o k = some u) : ∃ hu, run g o s hd = run g o u hu := by
  induction k generalizing s with
  | zero =>
    obtain rfl := Option.some.inj h
    exact ⟨hd, rfl⟩
  | succ k ih =>
    unfold after at h
    split at h
    · rename_i t ht
      obtain ⟨hu, hrun⟩ := ih (depth_advance hd ht) h
      exact ⟨hu, (run_eq hd ht).trans hrun⟩
    · cases h

theorem run_of_ended (hd : s.input.depth ≤ o.maxReparseDepth) (h : s.advance g o = .ended t) :
    run g o s hd = .ok t := run_eq hd h

theorem run_of_failed (hd : s.input.depth ≤ o.maxReparseDepth) (h : s.advance g o = .failed f) :
    run g o s hd = .error f := run_eq hd h

/-- A scan ends only when no block is open. -/
theorem advance_eq_ended (h : s.advance g o = .ended t) : t = s ∧ s.opened = [] := by
  unfold advance at h
  split at h
  · split at h
    · simp at h
    · split at h
      · rename_i ho
        exact ⟨(Progress.ended.inj h).symm, ho⟩
      · split at h
        · exact absurd h (by simp [State.fail, Progress.of])
        · unfold Progress.of at h
          split at h <;> simp at h
  · unfold Progress.of at h
    split at h <;> simp at h

theorem outcome_of_ended (hd : s.input.depth ≤ o.maxReparseDepth) (h : s.advance g o = .ended t) :
    s.outcome g o hd = match s.endRun .stop with
      | .ok s => ⟨.ok s.root.result, s.context, s.events⟩
      | .error f => ⟨.error f.error, f.context, f.events⟩ := by
  obtain ⟨rfl, -⟩ := advance_eq_ended h
  unfold outcome
  rw [run_eq hd h]
  rfl

/-- At the end the last run of the root becomes a part. -/
theorem outcome_ended (hd : s.input.depth ≤ o.maxReparseDepth) (h : s.advance g o = .ended t) :
    ((s.outcome g o hd).result, (s.outcome g o hd).context) = s.situation.finish s.context := by
  obtain ⟨rfl, ho⟩ := advance_eq_ended h
  have hf : t.situation.finish = (do return (← t.situation.endRun .stop).active.result) := by
    simp [Situation.finish, Situation.endRun]
  have he := observe_endRun .stop t
  rw [hf, outcome_of_ended hd h, Effect.bind_apply, ← he]
  cases hx : t.endRun .stop with
  | error f => rfl
  | ok u =>
    have hu : u.opened = [] := by
      rw [← List.length_eq_zero_iff, (Keeps.endRun hx).length_opened, ho]
      rfl
    have ha : u.active = u.root := by rw [active, hu]; rfl
    show (Except.ok u.root.result, u.context) = (Except.ok (u.active.settle _).result, u.context)
    rw [ha]
    rfl

end

/-- A function of situations that agrees with every step, as long as an invariant holds, gives the outcome. -/
theorem observe_outcome {g : Grammar C} {o : Options} {P : State C g.size → Prop}
    {f : Situation C g.size → Effect C Part} (hg : g.root.stop = none)
    (hf : ∀ s, s.Sound g → P s → f s.situation = (do
      match ← s.situation.advance g o with
      | none => s.situation.finish
      | some t => f t))
    (hp : ∀ s t, s.Sound g → P s → s.advance g o = .moved t → P t) (s : State C g.size)
    (hd : s.input.depth ≤ o.maxReparseDepth) (hs : s.Sound g) (h : P s) :
    ((s.outcome g o hd).result, (s.outcome g o hd).context) = f s.situation s.context := by
  rw [hf s hs h, Effect.bind_apply, ← observe_advance hs hg]
  match hm : s.advance g o with
  | .ended t =>
    rw [outcome_ended hd hm, (advance_eq_ended hm).1]
    rfl
  | .failed e =>
    rw [outcome_failed hd hm]
    rfl
  | .moved t =>
    rw [outcome_moved hd hm]
    exact observe_outcome hg hf hp t (depth_advance hd hm) (hs.advance hm) (hp s t hs h hm)
termination_by measure o.maxReparseDepth s
decreasing_by exact advance_lt hd hm

end State

/-- A scan that has come to its end gives what becomes of the root there. -/
theorem Reachable.result_of_ended {g : Grammar C} {o : Options} {text : String} {context : C} {s t : State C g.size}
    (h : Reachable g o text context s) (he : s.advance g o = .ended t) :
    (scan g o text context).result = match s.endRun .stop with
      | .ok s => .ok s.root.result
      | .error f => .error f.error := by
  obtain ⟨k, e, hk⟩ := h
  obtain ⟨hd, hrun⟩ := State.run_of_after (State.depth_start_le g o text context) (State.after_of_steps hk)
  have hs : scan g o text context = s.outcome g o hd := by
    rw [State.scan_eq_outcome]
    unfold State.outcome
    rw [hrun]
  rw [hs, State.outcome_of_ended hd he]
  cases s.endRun .stop <;> rfl

end Delimited.Scan
