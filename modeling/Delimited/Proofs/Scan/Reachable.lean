import Delimited.Proofs.Grammar.Resolved
import Delimited.Scan.Run

/-!
# Reachable states

`State.Steps` counts the steps from one state to another, and those among them that have started a reparse at the end of
the input. The states that a scan goes through are `Reachable`. What holds at the start and is kept by every step holds
of all of them (`Reachable.invariant`); so the number of suspended texts stays within the limit.
-/

namespace Delimited.Scan

variable {C : Type} {n : Nat}

namespace State

/-- A step that starts a reparse although nothing is left of the text. -/
def ReparsesAtEnd (s t : State C n) : Prop := s.input.current.rest = [] ∧ s.input.depth < t.input.depth

instance (s t : State C n) : Decidable (s.ReparsesAtEnd t) := inferInstanceAs (Decidable (_ ∧ _))

/-- The second state scans an output from its start, which a block has given that closed in the first one. -/
structure StartsReparse (s t : State C n) : Prop where
  input : ∃ (output : String) (outer : Cursor), t.input = ⟨.ofString output, outer :: s.input.suspended⟩
  runStart : t.active.runStart = 0
  endReparses : t.endReparses = if s.input.current.rest = [] then s.endReparses + 1 else s.endReparses

theorem StartsReparse.depth {s t : State C n} (h : StartsReparse s t) : t.input.depth = s.input.depth + 1 := by
  obtain ⟨output, outer, hi⟩ := h.input
  rw [hi]
  rfl

private theorem startsReparse_or_of_close {limit : Nat} {stop : Option Delimiter} {s t : State C n}
    (h : s.close limit stop = .ok t) (hp : stop.elim [] Delimiter.chars <+: s.input.current.rest)
    (hn : stop = none → s.input.current.rest = []) :
    StartsReparse s t ∨ t.input.depth ≤ s.input.depth ∧ t.endReparses = s.endReparses := by
  rcases close_cases h with ⟨s₁, h₁, -, rfl⟩ | ⟨s₁, inner, outer, p, s₂, h₁, -, h₂, h⟩
  · have hk := Keeps.endRun h₁
    exact Or.inr ⟨Nat.le_of_eq (congrArg (·.suspended.length) hk.input), hk.endReparses⟩
  · have hk := Keeps.endRun h₁
    have hk₂ := Keeps.output h₂
    have he : s₂.endReparses = s.endReparses := hk₂.endReparses.trans hk.endReparses
    have hs : s₂.input.suspended = s.input.suspended :=
      (congrArg (·.suspended) hk₂.input).trans (congrArg (·.suspended) hk.input)
    rcases h with ⟨output, -, h⟩ | ⟨-, h⟩
    · obtain ⟨-, hi, -, ha, -, he'⟩ := scanAgain_eq_ok h
      refine Or.inl ⟨⟨output, s₂.input.current, by rw [hi, ← hs]; rfl⟩, by rw [ha]; rfl, ?_⟩
      rw [he', he]
      -- a stop has been found just when something is left of the text
      cases stop with
      | none => rw [if_pos (hn rfl)]; rfl
      | some d =>
        have hne : s.input.current.rest ≠ [] := fun hnil => d.ne_nil (List.prefix_nil.1 (hnil ▸ hp))
        rw [if_neg hne]
        rfl
    · have hk₃ := Keeps.addResult h
      have hd : s₂.input.depth = s.input.depth := congrArg List.length hs
      exact Or.inr ⟨Nat.le_of_eq ((congrArg Input.depth hk₃.input).trans hd), hk₃.endReparses.trans he⟩

/-- A step starts a reparse, or it suspends no text and leaves the count of reparses alone. -/
theorem startsReparse_or {g : Grammar C} {o : Options} {s t : State C g.size} (h : s.advance g o = .moved t) :
    StartsReparse s t ∨ t.input.depth ≤ s.input.depth ∧ t.endReparses = s.endReparses := by
  have hs := Passage.of_advance h
  clear h
  cases hs with
  | resume hr hc =>
    rename_i c cs
    have hk := Keeps.resume ⟨c, cs⟩ s
    refine Or.inr ⟨?_, hk.endReparses⟩
    rw [hk.input, Input.depth, Input.depth, hc, List.length_cons]
    exact Nat.le_succ _
  | close hp hn h => exact startsReparse_or_of_close h hp fun h => (hn h).1
  | enter hp hk h => exact Or.inr ⟨Nat.le_of_eq (congrArg (·.suspended.length) hk.input), hk.endReparses⟩
  | pass hm hp hk =>
    rename_i m s₁
    have hr := Keeps.restartRun (s₁.skip m)
    refine Or.inr ⟨Nat.le_of_eq ?_, hr.endReparses.trans hk.endReparses⟩
    exact (congrArg Input.depth hr.input).trans (congrArg (·.suspended.length) hk.input)
  | char hn => exact Or.inr ⟨Nat.le_refl _, rfl⟩

/-- As many steps lead from one state to another, and so many of them have started a reparse at the end of the input. -/
inductive Steps (g : Grammar C) (o : Options) : State C g.size → Nat → Nat → State C g.size → Prop
  | refl (s : State C g.size) : Steps g o s 0 0 s
  | head {s t u : State C g.size} {k e : Nat} (h : s.advance g o = .moved t) (hs : Steps g o t k e u) :
    Steps g o s (k + 1) (if s.ReparsesAtEnd t then e + 1 else e) u

namespace Steps

variable {g : Grammar C} {o : Options}

/-- One step more at the end. -/
theorem snoc {s t u : State C g.size} {k e : Nat} (hs : Steps g o s k e t) (h : t.advance g o = .moved u) :
    ∃ e', Steps g o s (k + 1) e' u := by
  induction hs with
  | refl s => exact ⟨_, head h (refl u)⟩
  | head h' _ ih =>
    obtain ⟨e', ih⟩ := ih h
    exact ⟨_, head h' ih⟩

/-- What every step keeps holds after any number of steps. -/
theorem invariant {P : State C g.size → Prop} (hp : ∀ s t, P s → s.advance g o = .moved t → P t) {s t : State C g.size}
    {k e : Nat} (hs : Steps g o s k e t) (h : P s) : P t := by
  induction hs with
  | refl s => exact h
  | head h' _ ih => exact ih (hp _ _ h h')

/-- No more steps can be taken than up to a state that does not go on. -/
theorem le_of_stuck {s t u : State C g.size} {k e j i : Nat} (hs : Steps g o s k e t)
    (ht : ∀ v, t.advance g o ≠ .moved v) (hs' : Steps g o s j i u) : j ≤ k := by
  induction hs generalizing j i with
  | refl s =>
    cases hs' with
    | refl => exact Nat.le_refl _
    | head h _ => exact absurd h (ht _)
  | head h _ ih =>
    cases hs' with
    | refl => exact Nat.zero_le _
    | head h' hs' =>
      -- a step has one outcome, so both runs have gone on to the same state
      rw [h] at h'
      cases h'
      exact Nat.succ_le_succ (ih ht hs')

end Steps

/-- The state after some steps, if there are so many. -/
def after (g : Grammar C) (o : Options) : Nat → State C g.size → Option (State C g.size)
  | 0, s => some s
  | k + 1, s =>
    match s.advance g o with
    | .moved t => after g o k t
    | _ => none

private theorem steps_of_after {g : Grammar C} {o : Options} {k : Nat} {s t : State C g.size}
    (h : s.after g o k = some t) :
    ∃ e, Steps g o s k e t := by
  induction k generalizing s with
  | zero =>
    cases h
    exact ⟨0, .refl _⟩
  | succ k ih =>
    unfold after at h
    split at h
    · rename_i u hu
      obtain ⟨e, he⟩ := ih h
      exact ⟨_, .head hu he⟩
    · cases h

theorem after_of_steps {g : Grammar C} {o : Options} {k e : Nat} {s t : State C g.size} (h : Steps g o s k e t) :
    s.after g o k = some t := by
  induction h with
  | refl s => rfl
  | head h _ ih =>
    unfold after
    rw [h]
    exact ih

/-- One step later is what the next step comes to. -/
theorem advance_of_after {g : Grammar C} {o : Options} {s t : State C g.size} (h : s.after g o 1 = some t) :
    s.advance g o = .moved t := by
  unfold after at h
  split at h
  · rename_i u hu
    rw [hu]
    exact congrArg Progress.moved (Option.some.inj h)
  · cases h

end State

/-- The states that a scan goes through. -/
def Reachable (g : Grammar C) (o : Options) (text : String) (context : C) (s : State C g.size) : Prop :=
  ∃ k e, State.Steps g o (.start g text context) k e s

namespace Reachable

variable {g : Grammar C} {o : Options} {text : String} {context : C} {s t : State C g.size}

theorem start : Reachable g o text context (.start g text context) := ⟨0, 0, .refl _⟩

theorem step (h : Reachable g o text context s) (hs : s.advance g o = .moved t) : Reachable g o text context t := by
  obtain ⟨k, e, h⟩ := h
  obtain ⟨e', h⟩ := h.snoc hs
  exact ⟨k + 1, e', h⟩

private theorem of_after {k : Nat} (h : (State.start g text context).after g o k = some s) :
    Reachable g o text context s := by
  obtain ⟨e, h⟩ := State.steps_of_after h
  exact ⟨k, e, h⟩

/-- What holds at the start and is kept by every step holds of all states that a scan goes through. -/
theorem invariant {P : State C g.size → Prop} (h₀ : P (.start g text context))
    (hp : ∀ s t, P s → s.advance g o = .moved t → P t) (h : Reachable g o text context s) : P s := by
  obtain ⟨k, e, h⟩ := h
  exact h.invariant hp h₀

/-- The number of suspended texts stays within the limit. -/
theorem depth_le (h : Reachable g o text context s) : s.input.depth ≤ o.maxReparseDepth :=
  h.invariant (Nat.zero_le _) fun _ _ hd hs => State.depth_advance hd hs

end Reachable

/-- Whether a definition resolves, and a scan of a text takes so many steps to a state of which this holds. -/
def reaches (d : Definition C) (o : Options) (text : String) (context : C) (k : Nat)
    (p : (g : Grammar C) → State C g.size → Bool) : Bool :=
  d.resolvesTo fun g => match (State.start g text context).after g o k with
    | some s => p g s
    | none => false

/-- A scan goes through the state that has been tested. -/
theorem exists_of_reaches {d : Definition C} {o : Options} {text : String} {context : C} {k : Nat}
    {p : (g : Grammar C) → State C g.size → Bool} (h : reaches d o text context k p = true) :
    ∃ g s, d.resolve = .ok g ∧ Reachable g o text context s ∧ p g s = true := by
  obtain ⟨g, hg, h⟩ := Definition.exists_of_resolvesTo h
  split at h
  · rename_i s hs
    exact ⟨g, s, hg, .of_after hs, h⟩
  · cases h

/-- What is in brackets is scanned again, and what is in parentheses is a list. The handler counts its calls. -/
def brackets : Definition Nat :=
  .mk {} none
    [("again", .inline (.mk
      { start := some "[", stop := some "]", handler := some fun p c => (.ok (.text p.flattenText), c + 1),
        reparse := true } none [])),
     ("list", .inline (.mk { start := some "(", stop := some ")", split := some (.literal ",") } none []))]

end Delimited.Scan
