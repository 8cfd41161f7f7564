import Delimited.Pattern.Search

/-!
# Starts of matches

A thread begins at the instruction of a program that records the start of the match. No instruction leads back there, and
no other one records a start (`Node.begins_program`), so a thread records once where it has begun. A program that is
anchored begins a thread only at the start of the text, and so every match starts there (`start_of_search`).
-/

namespace Delimited.Pattern

/-! ### Closed code -/

namespace Inst

/-- The addresses that an instruction leads to. -/
def targets : Inst → List Nat
  | .accept => []
  | .set _ next => [next]
  | .look _ next => [next]
  | .save _ next => [next]
  | .split first second => [first, second]

/-- The slot that an instruction records a place in. -/
def slot? : Inst → Option Nat
  | .save slot _ => some slot
  | _ => none

end Inst

/-- The instructions lead to each other only, and none of them records the start of the match. -/
structure Closed (code : Code) : Prop where
  targets : ∀ i ∈ code, ∀ a ∈ i.targets, a < code.size
  slot : ∀ i ∈ code, i.slot? ≠ some 0

namespace Closed

variable {code : Code} {i : Inst}

private theorem push (h : Closed code) (ht : ∀ a ∈ i.targets, a < code.size) (hs : i.slot? ≠ some 0) :
    Closed (code.push i) := by
  refine ⟨?_, ?_⟩
  · intro j hj a ha
    rw [Array.size_push]
    rcases Array.mem_push.1 hj with hj | rfl
    · exact Nat.lt_succ_of_lt (h.targets j hj a ha)
    · exact Nat.lt_succ_of_lt (ht a ha)
  · intro j hj
    rcases Array.mem_push.1 hj with hj | rfl
    · exact h.slot j hj
    · exact hs

private theorem set (h : Closed code) (k : Nat) (ht : ∀ a ∈ i.targets, a < code.size) (hs : i.slot? ≠ some 0) :
    Closed (code.setIfInBounds k i) := by
  refine ⟨?_, ?_⟩
  · intro j hj a ha
    rw [Array.size_setIfInBounds]
    rcases Array.mem_or_eq_of_mem_setIfInBounds hj with hj | rfl
    · exact h.targets j hj a ha
    · exact ht a ha
  · intro j hj
    rcases Array.mem_or_eq_of_mem_setIfInBounds hj with hj | rfl
    · exact h.slot j hj
    · exact hs

end Closed

/-- Code that has been extended from a size, with the address where the new part begins. -/
structure Built (size : Nat) (r : Nat × Code) : Prop where
  closed : Closed r.2
  lt : r.1 < r.2.size
  le : size ≤ r.2.size

namespace Built

variable {size : Nat} {code : Code}

private theorem emit {i : Inst} (h : Closed code) (hsize : size ≤ code.size) (ht : ∀ a ∈ i.targets, a < code.size)
    (hs : i.slot? ≠ some 0) : Built size (emit code i) :=
  ⟨h.push ht hs, by simp [Pattern.emit], by simp only [Pattern.emit, Array.size_push]; omega⟩

private theorem emit_choice {body next : Nat} (h : Closed code) (hsize : size ≤ code.size) (greedy : Bool)
    (hb : body < code.size) (hn : next < code.size) : Built size (Pattern.emit code (choice greedy body next)) := by
  cases greedy <;> exact emit h hsize (by simp [choice, Inst.targets, hb, hn]) (by simp [choice, Inst.slot?])

private theorem set_choice {r : Nat × Code} {body next : Nat} (h : Built size r) (k : Nat) (greedy : Bool)
    (hb : body < r.2.size) (hn : next < r.2.size) :
    Built size (r.1, r.2.setIfInBounds k (choice greedy body next)) := by
  have hc : Closed (r.2.setIfInBounds k (choice greedy body next)) := by
    cases greedy <;> exact h.closed.set k (by simp [choice, Inst.targets, hb, hn]) (by simp [choice, Inst.slot?])
  exact ⟨hc, by simpa using h.lt, by simpa using h.le⟩

private theorem mono {k : Nat} {r : Nat × Code} (h : Built size r) (hk : k ≤ size) : Built k r :=
  ⟨h.closed, h.lt, Nat.le_trans hk h.le⟩

private theorem iterate {f : Nat × Code → Nat × Code} {r : Nat × Code} (hf : ∀ r, Built size r → Built size (f r))
    (k : Nat)
    (h : Built size r) : Built size (Nat.repeat f k r) := by
  induction k with
  | zero => exact h
  | succ k ih => exact hf _ ih

end Built

/-! ### Code of nodes -/

namespace Node

/-- All captures are numbered from 1 on. -/
def Numbered : Node → Prop
  | .capture k e => 0 < k ∧ e.Numbered
  | .repetition _ _ _ e => e.Numbered
  | .group e => e.Numbered
  | .seq a b => a.Numbered ∧ b.Numbered
  | .alt a b => a.Numbered ∧ b.Numbered
  | _ => True

/-- A node is compiled to closed code. -/
theorem built_compile {n : Node} (hn : n.Numbered) {next : Nat} {code : Code} (hc : Closed code)
    (hnext : next < code.size) : Built code.size (n.compile next code) := by
  induction n generalizing next code with
  | empty => exact ⟨hc, hnext, Nat.le_refl _⟩
  | set s => exact .emit hc (Nat.le_refl _) (List.forall_mem_singleton.2 hnext) (by simp [Inst.slot?])
  | look l => exact .emit hc (Nat.le_refl _) (List.forall_mem_singleton.2 hnext) (by simp [Inst.slot?])
  | capture k e ih =>
    obtain ⟨hk, he⟩ := hn
    have h₁ : Built code.size (emit code (.save (2 * k + 1) next)) :=
      .emit hc (Nat.le_refl _) (List.forall_mem_singleton.2 hnext) (by simp [Inst.slot?])
    have h₂ := (ih he h₁.closed h₁.lt).mono h₁.le
    exact .emit h₂.closed h₂.le (List.forall_mem_singleton.2 h₂.lt) (by simp [Inst.slot?]; omega)
  | group e ih => exact ih hn hc hnext
  | seq a b iha ihb =>
    have h₁ := ihb hn.2 hc hnext
    exact (iha hn.1 h₁.closed h₁.lt).mono h₁.le
  | alt a b iha ihb =>
    have h₁ := iha hn.1 hc hnext
    have h₂ := (ihb hn.2 h₁.closed (Nat.lt_of_lt_of_le hnext h₁.le))
    refine .emit h₂.closed (Nat.le_trans h₁.le h₂.le) ?_ (by simp [Inst.slot?])
    simpa [Inst.targets] using ⟨Nat.lt_of_lt_of_le h₁.lt h₂.le, h₂.lt⟩
  | repetition min max greedy e ih =>
    -- one more round, in front of whatever has been built
    have hround : ∀ r, Built code.size r → Built code.size (e.compile r.1 r.2) := fun r hr =>
      (ih hn hr.closed hr.lt).mono hr.le
    cases max with
    | none =>
      have h₁ : Built code.size (emit code .accept) :=
        .emit hc (Nat.le_refl _) (by simp [Inst.targets]) (by simp [Inst.slot?])
      have h₂ := hround _ h₁
      have hn₂ := Nat.lt_of_lt_of_le hnext h₂.le
      -- the loop itself has been kept free for the choice between another round and going on
      have h₃ : Built code.size ((e.compile code.size (code.push .accept)).1,
          (e.compile code.size (code.push .accept)).2.setIfInBounds code.size
            (choice greedy (e.compile code.size (code.push .accept)).1 next)) :=
        h₂.set_choice code.size greedy h₂.lt hn₂
      unfold compile
      dsimp only [emit]
      split
      · exact .emit_choice h₃.closed h₃.le greedy h₃.lt (Nat.lt_of_lt_of_le hnext h₃.le)
      · exact Built.iterate hround (min - 1) h₃
    | some max =>
      refine Built.iterate hround min (Built.iterate ?_ (max - min) ⟨hc, hnext, Nat.le_refl _⟩)
      intro r hr
      have h₁ := hround r hr
      exact .emit_choice h₁.closed h₁.le greedy h₁.lt (Nat.lt_of_lt_of_le hnext h₁.le)

end Node

/-! ### Programs that record where a match begins -/

/-- The first instruction of a program records the start of the match. It is the only one that does so, and no
instruction leads to it. -/
structure Program.Begins (p : Program) : Prop where
  first : ∃ body, p.code[p.start]? = some (.save 0 body)
  targets : ∀ (a : Nat) (i : Inst), p.code[a]? = some i → p.start ∉ i.targets
  slot : ∀ (a : Nat) (i : Inst), a ≠ p.start → p.code[a]? = some i → i.slot? ≠ some 0
  slots : 0 < p.slots

/-- Closed code behind an instruction that records the start. -/
private theorem begins_of_built {size body : Nat} {code : Code} (h : Built size (body, code)) (anchored : Bool)
    {slots : Nat} (hs : 0 < slots) : Program.Begins ⟨code.push (.save 0 body), code.size, anchored, slots⟩ := by
  have hget : ∀ (a : Nat) (i : Inst), (code.push (.save 0 body))[a]? = some i →
      a = code.size ∧ i = .save 0 body ∨ a ≠ code.size ∧ i ∈ code := by
    intro a i hi
    rw [Array.getElem?_push] at hi
    split at hi
    · exact Or.inl ⟨‹_›, (Option.some.inj hi).symm⟩
    · exact Or.inr ⟨‹_›, Array.mem_of_getElem? hi⟩
  refine ⟨⟨body, by simp⟩, ?_, ?_, hs⟩
  · intro a i hi hmem
    rcases hget a i hi with ⟨-, rfl⟩ | ⟨-, hi⟩
    · exact absurd (List.mem_singleton.1 hmem) (Nat.ne_of_gt h.lt)
    · exact absurd (h.closed.targets i hi _ hmem) (Nat.lt_irrefl _)
  · intro a i ha hi
    rcases hget a i hi with ⟨h', -⟩ | ⟨-, hi⟩
    · exact absurd h' ha
    · exact h.closed.slot i hi

/-- The program of a node records where a match begins before it reads anything. -/
theorem Node.begins_program {n : Node} (hn : n.Numbered) : n.program.Begins := by
  have h₀ : Closed #[.accept] := ⟨by simp [Inst.targets], by simp [Inst.slot?]⟩
  have h₁ : Built 1 (emit #[.accept] (.save 1 0)) :=
    .emit h₀ (Nat.le_refl _) (List.forall_mem_singleton.2 Nat.one_pos) (by simp [Inst.slot?])
  exact begins_of_built (built_compile hn h₁.closed h₁.lt) n.anchored (Nat.mul_pos Nat.two_pos (Nat.succ_pos _))

/-! ### Threads -/

/-- A thread is about to record place 0 as its start, or has done so. -/
def Program.Marked (p : Program) (place : Nat) (t : Nat × Places) : Prop :=
  (t.1 = p.start ∧ place = 0 ∧ 0 < t.2.size) ∨ (t.1 ≠ p.start ∧ t.2[0]? = some (some 0))

/-- Waiting threads and a find that have recorded place 0 as their start. -/
private structure StartedAtZero (p : Program) (r : List Waiting × Option Places) : Prop where
  waiting : ∀ w ∈ r.1, w.next ≠ p.start ∧ w.places[0]? = some (some 0)
  found : ∀ places ∈ r.2, places[0]? = some (some 0)

section

variable {p : Program} {place a : Nat} {places : Places}

namespace Program.Begins

private theorem ne_start (hp : p.Begins) {i : Inst} (hi : p.code[a]? = some i) {next : Nat} (hn : next ∈ i.targets) :
    next ≠ p.start := by
  rintro rfl
  exact hp.targets a i hi hn

/-- A thread at an instruction that records nothing has recorded its start. -/
theorem recorded (hp : p.Begins) {i : Inst} (hi : p.code[a]? = some i) (hs : i.slot? = none)
    (h : p.Marked place (a, places)) : places[0]? = some (some 0) := by
  rcases h with ⟨rfl, -, -⟩ | ⟨-, h⟩
  · obtain ⟨body, hb⟩ := hp.first
    rw [hb] at hi
    obtain rfl := Option.some.inj hi
    cases hs
  · exact h

/-- A thread that records a place has recorded its start then. -/
theorem recorded_save (hp : p.Begins) {slot next : Nat} (hi : p.code[a]? = some (.save slot next))
    (h : p.Marked place (a, places)) : (places.setIfInBounds slot (some place))[0]? = some (some 0) := by
  rcases h with ⟨rfl, rfl, hpos⟩ | ⟨hne, h⟩
  · obtain ⟨body, hb⟩ := hp.first
    rw [hb] at hi
    obtain ⟨rfl, -⟩ := Inst.save.inj (Option.some.inj hi)
    exact Array.getElem?_setIfInBounds_self_of_lt hpos
  · have hs : slot ≠ 0 := fun h₀ => hp.slot a _ hne hi (congrArg some h₀)
    rw [Array.getElem?_setIfInBounds_ne hs]
    exact h

end Program.Begins

private theorem startedAtZero_follow (hp : p.Begins) (before after : Option Char) (place : Nat) (seen : Array Bool)
    (todo : List (Nat × Places)) (h : ∀ t ∈ todo, p.Marked place t) :
    StartedAtZero p (p.follow before after place seen todo) := by
  fun_induction p.follow before after place seen todo with
  | case1 => exact ⟨by simp, by simp⟩
  | case2 seen a places todo hlt hs ih => exact ih (List.forall_mem_cons.1 h).2
  | case3 _ a places todo _ _ _ seen _ ih => exact ih (List.forall_mem_cons.1 h).2
  | case4 seen a places todo _ _ _ hi =>
    -- the thread accepts
    have hr := hp.recorded hi rfl (List.forall_mem_cons.1 h).1
    exact ⟨by simp, by simpa using hr⟩
  | case5 _ a places todo _ _ _ seen s next hi waiting found hf ih =>
    -- the thread waits for a character
    obtain ⟨hw, hp'⟩ := hf ▸ ih (List.forall_mem_cons.1 h).2
    have hr := hp.recorded hi rfl (List.forall_mem_cons.1 h).1
    exact ⟨List.forall_mem_cons.2 ⟨⟨hp.ne_start hi (by simp [Inst.targets]), hr⟩, hw⟩, hp'⟩
  | case6 _ a places todo _ _ _ seen l next hi _ ih =>
    obtain ⟨hm, ht⟩ := List.forall_mem_cons.1 h
    exact ih (List.forall_mem_cons.2 ⟨Or.inr ⟨hp.ne_start hi (by simp [Inst.targets]), hp.recorded hi rfl hm⟩, ht⟩)
  | case7 _ a places todo _ _ _ seen l next _ _ ih => exact ih (List.forall_mem_cons.1 h).2
  | case8 _ a places todo _ _ _ seen slot next hi ih =>
    obtain ⟨hm, ht⟩ := List.forall_mem_cons.1 h
    exact ih (List.forall_mem_cons.2 ⟨Or.inr ⟨hp.ne_start hi (by simp [Inst.targets]), hp.recorded_save hi hm⟩, ht⟩)
  | case9 _ a places todo _ _ _ seen first second hi ih =>
    obtain ⟨hm, ht⟩ := List.forall_mem_cons.1 h
    have hr := hp.recorded hi rfl hm
    exact ih (List.forall_mem_cons.2 ⟨Or.inr ⟨hp.ne_start hi (by simp [Inst.targets]), hr⟩,
      List.forall_mem_cons.2 ⟨Or.inr ⟨hp.ne_start hi (by simp [Inst.targets]), hr⟩, ht⟩⟩)
  | case10 seen a places todo _ ih => exact ih (List.forall_mem_cons.1 h).2

/-- In an anchored program no thread begins behind the start of the text. -/
private theorem startedAtZero_searchFrom (hp : p.Begins) (ha : p.anchored = true) (text : List Char)
    (before : Option Char) (place : Nat) (todo : List (Nat × Places)) (best : Option Places)
    (ht : ∀ t ∈ todo, p.Marked place t) (hb : ∀ q ∈ best, q[0]? = some (some 0)) :
    ∀ q ∈ p.searchFrom before place todo best text, q[0]? = some (some 0) := by
  -- a find is either new, or it is what was found before
  have hor : ∀ {found best : Option Places}, (∀ q ∈ found, q[0]? = some (some 0)) →
      (∀ q ∈ best, q[0]? = some (some 0)) → ∀ q ∈ found.or best, q[0]? = some (some 0) := by
    intro found best hf hb
    cases found with
    | none => exact hb
    | some q => exact hf
  induction text generalizing before place todo best with
  | nil => exact hor (startedAtZero_follow hp before none place _ todo ht).found hb
  | cons c rest ih =>
    obtain ⟨hw, hf⟩ := startedAtZero_follow hp before (some c) place (Array.replicate p.code.size false) todo ht
    unfold Program.searchFrom
    dsimp only
    rw [ha, Bool.not_true, Bool.and_false, if_neg Bool.false_ne_true, List.append_nil]
    split
    · exact hor hf hb
    · refine ih _ _ _ _ ?_ (hor hf hb)
      intro t ht
      obtain ⟨w, hwm, hc⟩ := List.mem_filterMap.1 ht
      split at hc
      · obtain rfl := Option.some.inj hc
        exact Or.inr (hw w hwm)
      · cases hc

/-- Every match of an anchored program starts at the start of the text. -/
theorem start_of_search (hp : p.Begins) (ha : p.anchored = true) {text : List Char} (h : p.search text = some places) :
    places[0]? = some (some 0) := by
  have hm : ∀ t ∈ [p.fresh], p.Marked 0 t := by
    intro t ht
    obtain rfl := List.mem_singleton.1 ht
    exact Or.inl ⟨rfl, rfl, by simpa [Program.fresh] using hp.slots⟩
  exact startedAtZero_searchFrom hp ha text none 0 [p.fresh] none hm (by simp) places h

end

end Delimited.Pattern
