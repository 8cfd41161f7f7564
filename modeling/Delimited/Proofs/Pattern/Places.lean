import Delimited.Pattern.Search

/-!
# Places of a match

A search only records places that it has reached, so every place of a match lies in the text (`le_of_search`).
-/

namespace Delimited.Pattern

/-- All recorded places are at most `k`. -/
def Places.Within (k : Nat) (places : Places) : Prop :=
  ∀ i v : Nat, places[i]? = some (some v) → v ≤ k

namespace Places.Within

variable {j k : Nat} {places : Places}

private theorem mono (h : Within j places) (hjk : j ≤ k) : Within k places := fun i v hv => Nat.le_trans (h i v hv) hjk

private theorem replicate (k m : Nat) : Within k (Array.replicate m none) := by
  intro i v h
  rw [Array.getElem?_replicate] at h
  split at h <;> simp at h

private theorem set (h : Within k places) (i : Nat) : Within k (places.setIfInBounds i (some k)) := by
  intro i' v hv
  rw [Array.getElem?_setIfInBounds] at hv
  split at hv
  · split at hv
    · simp only [Option.some.injEq] at hv
      omega
    · simp at hv
  · exact h i' v hv

end Places.Within

/-- Threads whose places are all within `k`. -/
private def ThreadsWithin (k : Nat) (todo : List (Nat × Places)) : Prop := ∀ t ∈ todo, t.2.Within k

private theorem threadsWithin_cons {k a : Nat} {places : Places} {todo : List (Nat × Places)} :
    ThreadsWithin k ((a, places) :: todo) ↔ places.Within k ∧ ThreadsWithin k todo :=
  List.forall_mem_cons

/-- Waiting threads and a find whose places are all within `k`. -/
private structure FoundWithin (k : Nat) (r : List Waiting × Option Places) : Prop where
  waiting : ∀ w ∈ r.1, w.places.Within k
  found : ∀ p ∈ r.2, Places.Within k p

private theorem foundWithin_follow (p : Program) (before after : Option Char) (place : Nat) (seen : Array Bool)
    (todo : List (Nat × Places)) (h : ThreadsWithin place todo) :
    FoundWithin place (p.follow before after place seen todo) := by
  fun_induction p.follow before after place seen todo with
  | case1 => exact ⟨by simp, by simp⟩
  | case2 seen a places todo hlt hs ih => exact ih (threadsWithin_cons.1 h).2
  | case3 _ a places todo _ _ _ seen _ ih => exact ih (threadsWithin_cons.1 h).2
  | case4 seen a places todo =>
    -- the thread accepts
    exact ⟨by simp, by simpa using (threadsWithin_cons.1 h).1⟩
  | case5 _ a places todo _ _ _ seen s next _ waiting found hf ih =>
    -- the thread waits for a character
    obtain ⟨hw, hp⟩ := hf ▸ ih (threadsWithin_cons.1 h).2
    exact ⟨List.forall_mem_cons.2 ⟨(threadsWithin_cons.1 h).1, hw⟩, hp⟩
  | case6 _ a places todo _ _ _ seen l next _ _ ih =>
    obtain ⟨hp, ht⟩ := threadsWithin_cons.1 h
    exact ih (threadsWithin_cons.2 ⟨hp, ht⟩)
  | case7 _ a places todo _ _ _ seen l next _ _ ih => exact ih (threadsWithin_cons.1 h).2
  | case8 _ a places todo _ _ _ seen slot next _ ih =>
    -- the thread records the place it is at
    obtain ⟨hp, ht⟩ := threadsWithin_cons.1 h
    exact ih (threadsWithin_cons.2 ⟨hp.set slot, ht⟩)
  | case9 _ a places todo _ _ _ seen first second _ ih =>
    obtain ⟨hp, ht⟩ := threadsWithin_cons.1 h
    exact ih (threadsWithin_cons.2 ⟨hp, threadsWithin_cons.2 ⟨hp, ht⟩⟩)
  | case10 seen a places todo _ ih => exact ih (threadsWithin_cons.1 h).2

private theorem threadsWithin_advance {k : Nat} {c : Char} {waiting : List Waiting}
    (h : ∀ w ∈ waiting, w.places.Within k) : ThreadsWithin k (advance c waiting) := by
  intro t ht
  obtain ⟨w, hw, hc⟩ := List.mem_filterMap.1 ht
  split at hc
  · simp only [Option.some.injEq] at hc
    rw [← hc]
    exact h w hw
  · simp at hc

private theorem threadsWithin_fresh (k : Nat) (p : Program) : ThreadsWithin k [p.fresh] := by
  intro t ht
  rw [List.mem_singleton.1 ht]
  exact Places.Within.replicate k p.slots

/-- A find is either new, or it is what was found before. -/
private theorem within_or {k : Nat} {found best : Option Places} (hf : ∀ p ∈ found, Places.Within k p)
    (hb : ∀ p ∈ best, Places.Within k p) : ∀ p ∈ found.or best, Places.Within k p := by
  cases found with
  | none => exact hb
  | some p => exact hf

private theorem within_searchFrom (p : Program) (text : List Char) (before : Option Char) (place : Nat)
    (todo : List (Nat × Places)) (best : Option Places) (ht : ThreadsWithin place todo)
    (hb : ∀ q ∈ best, Places.Within place q) :
    ∀ q ∈ p.searchFrom before place todo best text, Places.Within (place + text.length) q := by
  induction text generalizing before place todo best with
  | nil =>
    have hf := foundWithin_follow p before none place (Array.replicate p.code.size false) todo ht
    exact within_or hf.found hb
  | cons c rest ih =>
    let r := p.followAt before (some c) place todo
    let todo' := advance c r.1 ++ if (r.2.or best).isNone && !p.anchored then [p.fresh] else []
    have hf : FoundWithin place r := foundWithin_follow p before (some c) place _ todo ht
    have hb' := within_or hf.found hb
    have ht' : ThreadsWithin (place + 1) todo' := by
      intro t ht
      rcases List.mem_append.1 ht with ht | ht
      · exact (threadsWithin_advance hf.waiting t ht).mono (Nat.le_succ _)
      · split at ht
        · exact threadsWithin_fresh _ p t ht
        · simp at ht
    intro q hq
    have hq : q ∈ if todo'.isEmpty then r.2.or best else p.searchFrom (some c) (place + 1) todo' (r.2.or best) rest := hq
    by_cases he : todo'.isEmpty
    · rw [if_pos he] at hq
      exact (hb' q hq).mono (Nat.le_add_right _ _)
    · rw [if_neg he] at hq
      have hl : place + 1 + rest.length = place + (c :: rest).length := by
        rw [List.length_cons]; omega
      rw [← hl]
      exact ih (some c) (place + 1) todo' _ ht' (fun q hq => (hb' q hq).mono (Nat.le_succ _)) q hq

/-- Every place of a match lies in the text. -/
theorem le_of_search {p : Program} {text : List Char} {places : Places} (h : p.search text = some places) {i v : Nat}
    (hv : places[i]? = some (some v)) : v ≤ text.length := by
  have := within_searchFrom p text none 0 [p.fresh] none (threadsWithin_fresh 0 p) (by simp) places h i v hv
  omega

end Delimited.Pattern
