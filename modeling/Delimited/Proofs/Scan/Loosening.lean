import Mathlib
import Delimited.Proofs.Scan.Outcome

/-!
# Looser options

Options are looser than others when they allow as many suspended texts or more, and either treat blocks that are open at
the end of the input as the others do or close them (`Options.Looser`). A step under looser options is the same step,
unless the options that are less loose make it fail (`State.advance_of_looser`). So a scan under looser options has the
same outcome, context and events included, unless it fails under the others for such a reason (`State.outcome_of_looser`,
`scan_of_looser`).

Both runs are in the same state as long as they take the same steps, so it does not matter that reparses at the end of
the input are counted only where blocks are closed there: whenever the limit is asked, both have counted the same.
-/

namespace Delimited.Scan

variable {C : Type} {n : Nat} {α β : Type}

/-! ### Options and the failures that they lift -/

/-- The first options allow whatever the second ones allow. -/
structure Options.Looser (o' o : Options) : Prop where
  limit : o.maxReparseDepth ≤ o'.maxReparseDepth
  unterminated : o'.unterminated = o.unterminated ∨ o'.unterminated = .close

/-- The error comes from a restriction of the second options that the first ones do not have. -/
inductive Options.Lifts (o' o : Options) : Error → Prop
  | limit {block : String} {limit : Nat} (h : o.maxReparseDepth < o'.maxReparseDepth) :
    Lifts o' o (.reparseLimit block limit)
  | unterminated {block : String} {offset : Nat} (h : o'.unterminated ≠ o.unterminated) :
    Lifts o' o (.unterminated block offset)

/-- Under looser options the same comes out as under others, or the others have made it fail. -/
inductive Loosened (o' o : Options) : Except (Failure C) α → Except (Failure C) α → Prop
  | same (x : Except (Failure C) α) : Loosened o' o x x
  | lifted {f : Failure C} {y : Except (Failure C) α} (h : o'.Lifts o f.error) : Loosened o' o (.error f) y

namespace Loosened

variable {o' o : Options}

private theorem bind {x y : Except (Failure C) α} {f f' : α → Except (Failure C) β} (h : Loosened o' o x y)
    (hf : ∀ a, Loosened o' o (f a) (f' a)) : Loosened o' o (x >>= f) (y >>= f') := by
  cases h with
  | lifted h => exact .lifted h
  | same x =>
    cases x with
    | error e => exact .same _
    | ok a => exact hf a

/-- What follows a computation that does not ask the options. -/
theorem bind_same (x : Except (Failure C) α) {f f' : α → Except (Failure C) β}
    (hf : ∀ a, Loosened o' o (f a) (f' a)) : Loosened o' o (x >>= f) (x >>= f') := bind (.same x) hf

end Loosened

/-! ### The same steps -/

namespace State

variable {o' o : Options}

/-- This is where the limit is asked. -/
private theorem scanAgain_of_looser (h : o'.Looser o) (block text : String) (atEnd : Bool) (s : State C n) :
    Loosened o' o (s.scanAgain o.maxReparseDepth block text atEnd)
      (s.scanAgain o'.maxReparseDepth block text atEnd) := by
  by_cases hl : o.maxReparseDepth ≤ s.input.depth + s.endReparses
  · rcases Nat.lt_or_eq_of_le h.limit with hlt | heq
    · have hfail : s.scanAgain o.maxReparseDepth block text atEnd = s.fail (.reparseLimit block o.maxReparseDepth) :=
        if_pos hl
      rw [hfail]
      exact .lifted (.limit hlt)
    · rw [heq]
      exact .same _
  · have hl' : ¬ o'.maxReparseDepth ≤ s.input.depth + s.endReparses := fun h' => hl (Nat.le_trans h.limit h')
    unfold scanAgain
    rw [if_neg hl, if_neg hl']
    exact .same _

private theorem close_of_looser (h : o'.Looser o) (stop : Option Delimiter) (s : State C n) :
    Loosened o' o (s.close o.maxReparseDepth stop) (s.close o'.maxReparseDepth stop) := by
  rw [close_eq, close_eq]
  refine .bind_same _ fun s₁ => ?_
  split
  · exact .same _
  · refine .bind_same _ fun ⟨p, s₂⟩ => ?_
    dsimp only
    split
    · exact scanAgain_of_looser h ..
    · exact .same _

private theorem makeMove_of_looser (h : o'.Looser o) (g : Grammar C) (s : State C g.size) :
    Loosened o' o (s.makeMove g o.maxReparseDepth) (s.makeMove g o'.maxReparseDepth) := by
  unfold makeMove
  -- only the move that closes a block depends on the limit
  cases nextMove g s.active.spec s.input.current.rest with
  | close stop => exact close_of_looser h (some stop) s
  | _ => exact .same _

private theorem of_loosened {x y : Except (Failure C) (State C n)} (h : Loosened o' o x y) :
    Progress.of y = Progress.of x ∨ ∃ f, Progress.of x = .failed f ∧ o'.Lifts o f.error := by
  cases h with
  | same x => exact .inl rfl
  | lifted h => exact .inr ⟨_, rfl, h⟩

/-- A step under looser options is the same step, unless the others have made it fail. -/
theorem advance_of_looser (h : o'.Looser o) (g : Grammar C) (s : State C g.size) :
    s.advance g o' = s.advance g o ∨ ∃ f, s.advance g o = .failed f ∧ o'.Lifts o f.error := by
  unfold advance
  split
  · split
    · exact .inl rfl
    · split
      · exact .inl rfl
      · rename_i inner outer _
        -- blocks are open where the whole input ends: this is where the policy is asked
        rcases h.unterminated with hu | hu
        · rw [hu]
          cases o.unterminated with
          | error => exact .inl rfl
          | close => exact of_loosened (close_of_looser h none s)
        · rw [hu]
          cases ho : o.unterminated with
          | error => exact .inr ⟨_, rfl, .unterminated (by rw [hu, ho]; simp)⟩
          | close => exact of_loosened (close_of_looser h none s)
  · exact of_loosened (makeMove_of_looser h g s)

/-- A scan that goes on under looser options comes to the same, unless the others have made it fail. -/
theorem outcome_of_looser (h : o'.Looser o) {g : Grammar C} (s : State C g.size)
    (hd : s.input.depth ≤ o.maxReparseDepth) (hd' : s.input.depth ≤ o'.maxReparseDepth) :
    s.outcome g o' hd' = s.outcome g o hd ∨ ∃ e, (s.outcome g o hd).result = .error e ∧ o'.Lifts o e := by
  rcases advance_of_looser h g s with heq | ⟨f, hf, hl⟩
  · match hm : s.advance g o with
    | .ended t => exact .inl ((outcome_of_ended hd' (heq.trans hm)).trans (outcome_of_ended hd hm).symm)
    | .failed f => exact .inl ((outcome_failed hd' (heq.trans hm)).trans (outcome_failed hd hm).symm)
    | .moved t =>
      rw [outcome_moved hd hm, outcome_moved hd' (heq.trans hm)]
      exact outcome_of_looser h t _ _
  · exact .inr ⟨f.error, by rw [outcome_failed hd hf], hl⟩
termination_by measure o.maxReparseDepth s
decreasing_by exact advance_lt hd hm

end State

/-! ### The same answers -/

/-- A scan that succeeds, or that fails because of a handler, has the same outcome under all looser options: the same
result, context and events. So has a scan that fails because too many texts are suspended, under looser options with the
same limit. -/
theorem scan_of_looser {o' o : Options} (h : o'.Looser o) (g : Grammar C) (text : String) (context : C) :
    ((∃ p, (scan g o text context).result = .ok p) ∨
        (∃ block e, (scan g o text context).result = .error (.handler block e)) →
      scan g o' text context = scan g o text context) ∧
    (o'.maxReparseDepth = o.maxReparseDepth →
      (∃ block limit, (scan g o text context).result = .error (.reparseLimit block limit)) →
      scan g o' text context = scan g o text context) := by
  have hs := State.outcome_of_looser h (.start g text context) (State.depth_start_le ..) (State.depth_start_le ..)
  rw [← State.scan_eq_outcome, ← State.scan_eq_outcome] at hs
  refine ⟨fun ha => hs.resolve_right ?_, fun hlimit ha => hs.resolve_right ?_⟩
  · rintro ⟨e, he, hl⟩
    rcases ha with ⟨p, hp⟩ | ⟨block, m, hp⟩
    · rw [hp] at he
      cases he
    · rw [hp] at he
      cases he
      cases hl
  · rintro ⟨e, he, hl⟩
    obtain ⟨block, limit, hp⟩ := ha
    rw [hp] at he
    cases he
    cases hl with
    | limit hlt => omega

/-- With one reparse allowed a text in brackets is scanned, as it is with more; with none allowed it is not, whatever is
done at the end of the input. -/
theorem scan_of_looser_brackets :
    ∃ g : Grammar Nat, brackets.resolve = .ok g ∧
      scan g ⟨64, .close⟩ "[a]" 0 = scan g ⟨1, .error⟩ "[a]" 0 ∧ (scan g ⟨1, .error⟩ "[a]" 0).result = .ok (.text "a") ∧
      scan g ⟨0, .close⟩ "[a]" 0 = scan g ⟨0, .error⟩ "[a]" 0 ∧
      (scan g ⟨0, .error⟩ "[a]" 0).result = .error (.reparseLimit "again" 0) := by
  have h : brackets.resolvesTo (fun g =>
      match (scan g ⟨1, .error⟩ "[a]" 0).result, (scan g ⟨0, .error⟩ "[a]" 0).result with
      | .ok p, .error e => decide (p = .text "a" ∧ e = .reparseLimit "again" 0)
      | _, _ => false) = true := by
    cbv
  obtain ⟨g, hg, h⟩ := Definition.exists_of_resolvesTo h
  split at h
  · rename_i p e hp he
    obtain ⟨rfl, rfl⟩ := of_decide_eq_true h
    have hmore : (⟨64, .close⟩ : Options).Looser ⟨1, .error⟩ := ⟨by decide, .inr rfl⟩
    have hclose : (⟨0, .close⟩ : Options).Looser ⟨0, .error⟩ := ⟨by decide, .inr rfl⟩
    exact ⟨g, hg, (scan_of_looser hmore g "[a]" 0).1 (.inl ⟨_, hp⟩), hp,
      (scan_of_looser hclose g "[a]" 0).2 rfl ⟨_, _, he⟩, he⟩
  · cases h

end Delimited.Scan
