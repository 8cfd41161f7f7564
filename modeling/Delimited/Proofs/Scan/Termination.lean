import Delimited.Proofs.Scan.Reachable

/-!
# Scans end

Every step makes a measure smaller, so a scan ends whatever its handlers do (`steps_bounded`); a handler that answers
differently each time is one that counts its calls in the context. A state counts the reparses that were started at the
end of the input exactly (`endReparses_of_steps`), and this count, too, stays within the limit.
-/

namespace Delimited.Scan

variable {C : Type} {n : Nat}

open State

/-! ### Counting the reparses at the end of the input -/

/-- A step adds to the count just when it starts a reparse at the end of the input. -/
theorem endReparses_advance {g : Grammar C} {o : Options} {s t : State C g.size} (h : s.advance g o = .moved t) :
    t.endReparses = if s.ReparsesAtEnd t then s.endReparses + 1 else s.endReparses := by
  rcases startsReparse_or h with hr | ⟨hd, he⟩
  · have hd : s.input.depth < t.input.depth := by rw [hr.depth]; exact Nat.lt_succ_self _
    rw [hr.endReparses]
    by_cases hn : s.input.current.rest = []
    · have he : s.ReparsesAtEnd t := ⟨hn, hd⟩
      rw [if_pos hn, if_pos he]
    · have he : ¬ s.ReparsesAtEnd t := fun h => hn h.1
      rw [if_neg hn, if_neg he]
  · have hn : ¬ s.ReparsesAtEnd t := fun h => Nat.not_lt.2 hd h.2
    rw [if_neg hn]
    exact he

/-- The count of reparses at the end goes up by those among the steps. -/
theorem endReparses_of_steps {g : Grammar C} {o : Options} {s t : State C g.size} {k e : Nat}
    (h : Steps g o s k e t) : t.endReparses = s.endReparses + e := by
  induction h with
  | refl s => rfl
  | head h _ ih =>
    rw [ih, endReparses_advance h]
    split <;> omega

/-! ### The end of a scan -/

/-- From every state within the limit a state is reached that does not go on. -/
theorem exists_stuck (g : Grammar C) (o : Options) (s : State C g.size) (hd : s.input.depth ≤ o.maxReparseDepth) :
    ∃ k e t, Steps g o s k e t ∧ ∀ u, t.advance g o ≠ .moved u := by
  by_cases hs : ∃ t, s.advance g o = .moved t
  · obtain ⟨t, ht⟩ := hs
    obtain ⟨k, e, u, hk, hu⟩ := exists_stuck g o t (depth_advance hd ht)
    exact ⟨k + 1, _, u, .head ht hk, hu⟩
  · exact ⟨0, 0, s, .refl s, fun u hu => hs ⟨u, hu⟩⟩
termination_by measure o.maxReparseDepth s
decreasing_by exact advance_lt hd ht

/-- A scan ends after finitely many steps, whatever the grammar, the text, the options, the handlers and their context
are. On its way no more texts are suspended at a time than the limit allows, and no more reparses are started by closing
a block at the end of the input. -/
theorem steps_bounded (g : Grammar C) (o : Options) (text : String) (context : C) :
    ∃ k e t, Steps g o (.start g text context) k e t ∧ (∀ u, t.advance g o ≠ .moved u) ∧
      ∀ j i u, Steps g o (.start g text context) j i u →
        j ≤ k ∧ u.input.depth ≤ o.maxReparseDepth ∧ i ≤ o.maxReparseDepth := by
  obtain ⟨k, e, t, hk, ht⟩ := exists_stuck g o (.start g text context) (Nat.zero_le _)
  refine ⟨k, e, t, hk, ht, ?_⟩
  intro j i u hj
  have hu : u.input.depth ≤ o.maxReparseDepth ∧ u.endReparses ≤ o.maxReparseDepth :=
    hj.invariant (P := fun s => s.input.depth ≤ o.maxReparseDepth ∧ s.endReparses ≤ o.maxReparseDepth)
      (fun s t h hs => ⟨depth_advance h.1 hs, endReparses_advance_le h.1 h.2 hs⟩) ⟨Nat.zero_le _, Nat.zero_le _⟩
  have hi := endReparses_of_steps hj
  refine ⟨hk.le_of_stuck ht hj, hu.1, ?_⟩
  have h₀ : (State.start g text context).endReparses = 0 := rfl
  omega

end Delimited.Scan
