import Delimited.Proofs.Scan.Reachable

/-!
# Sound states

The run of the active block starts at a place that the cursor has passed (`State.Anchored`). Of the blocks around it
nothing like this is known: they may remember an offset in a text that has been dropped long since, which does no harm
because the run of a block that becomes active again is started anew. A state is `Sound` when its active run is anchored
and its open blocks have specs of the grammar, the root that of the root. Every step keeps this (`Sound.advance`), so all
reachable states are sound.
-/

namespace Delimited.Scan

variable {C : Type} {n : Nat}

/-! ### Places that a cursor has passed -/

/-- The cursor has passed a place with this offset, or is at it. -/
def Cursor.Passed (c : Cursor) (start : Nat) : Prop :=
  ∃ a m : List Char, c.passed = m.reverse ++ a ∧ byteLength a = start

namespace Cursor

theorem passed_zero (c : Cursor) : c.Passed 0 := ⟨[], c.passed.reverse, by simp, rfl⟩

private theorem passed_offset (c : Cursor) : c.Passed c.offset := ⟨c.passed, [], by simp, c.offset_eq.symm⟩

/-- What a cursor has passed stays passed behind a text that stands at the cursor. -/
theorem Passed.advance {c : Cursor} {start : Nat} {m : List Char} (h : c.Passed start) (hm : m <+: c.rest) :
    (c.advance (byteLength m)).Passed start := by
  obtain ⟨a, k, hk, ha⟩ := h
  obtain ⟨r, hr⟩ := hm
  refine ⟨a, k ++ m, ?_, ha⟩
  rw [(advance_of_eq_append hr.symm).1, hk, List.reverse_append, List.append_assoc]

private theorem Passed.next {c d : Cursor} {x : Char} {start : Nat} (h : c.Passed start) (hn : c.next? = some (x, d)) :
    d.Passed start := by
  obtain ⟨a, k, hk, ha⟩ := h
  refine ⟨a, k ++ [x], ?_, ha⟩
  rw [(next?_eq_some hn).2.1, hk]
  simp

/-- The offset behind a text that stands at the cursor. -/
theorem offset_advance {c : Cursor} {m : List Char} (hm : m <+: c.rest) :
    (c.advance (byteLength m)).offset = c.offset + byteLength m := by
  obtain ⟨r, hr⟩ := hm
  rw [offset_eq, (advance_of_eq_append hr.symm).1, c.offset_eq, byteLength_append, byteLength_reverse]
  exact Nat.add_comm _ _

end Cursor

namespace State

/-! ### Anchored runs -/

/-- The run of the active block starts at a place that the cursor has passed. -/
def Anchored (s : State C n) : Prop := s.input.current.Passed s.active.runStart

private theorem anchored_of_runStart {s : State C n} (h : s.active.runStart = s.input.current.offset) : s.Anchored := by
  unfold Anchored
  rw [h]
  exact Cursor.passed_offset _

@[simp] theorem runStart_collect (s : State C n) : s.collect.active.runStart = s.input.current.offset := by
  rw [State.collect, active_modifyActive]; rfl

@[simp] theorem runStart_restartRun (s : State C n) : s.restartRun.active.runStart = s.input.current.offset := by
  rw [State.restartRun, active_modifyActive]; rfl

theorem anchored_restartRun (s : State C n) : s.restartRun.Anchored :=
  anchored_of_runStart (by rw [runStart_restartRun, (Keeps.restartRun s).input])

/-- Where a run has ended, the next one starts. -/
theorem runStart_endRun {s s' : State C n} {b : Boundary} (hs : s.endRun b = .ok s') :
    s'.active.runStart = s.input.current.offset := by
  rcases endRun_cases hs with ⟨-, rfl⟩ | ⟨p, c, rfl⟩
  · exact runStart_collect s
  · rw [active_modifyActive]
    show (s.collect.modifyActive _).active.runStart = _
    rw [active_modifyActive]
    exact runStart_collect s

private theorem anchored_endRun {s s' : State C n} {b : Boundary} (hs : s.endRun b = .ok s') : s'.Anchored :=
  anchored_of_runStart (by rw [runStart_endRun hs, (Keeps.endRun hs).input])

private theorem anchored_addResult {s s' : State C n} {p : Part} (hs : s.addResult p = .ok s') : s'.Anchored := by
  have hk := Keeps.addResult hs
  obtain ⟨t, q, c, ht, rfl⟩ := addResult_eq_ok hs
  refine anchored_of_runStart ?_
  rw [hk.input, active_modifyActive]
  show t.active.runStart = _
  rw [runStart_endRun ht, (Keeps.restartRun s).input]

private theorem anchored_close {limit : Nat} (stop : Option Delimiter) {s s' : State C n}
    (hp : stop.elim [] Delimiter.chars <+: s.input.current.rest) (h : s.close limit stop = .ok s') : s'.Anchored := by
  rcases close_cases h with ⟨s₁, h₁, -, rfl⟩ | ⟨s₁, inner, outer, p, s₂, -, -, -, h⟩
  · have ha := anchored_endRun h₁
    rw [← (Keeps.endRun h₁).input] at hp
    exact Cursor.Passed.advance ha hp
  · rcases h with ⟨text, -, h⟩ | ⟨-, h⟩
    · obtain ⟨-, -, -, ha, -⟩ := scanAgain_eq_ok h
      unfold Anchored
      rw [ha]
      exact Cursor.passed_zero _
    · exact anchored_addResult h

/-- A run that is anchored before a step is anchored behind it. -/
theorem Anchored.advance {g : Grammar C} {o : Options} {s s' : State C g.size} (ha : s.Anchored)
    (h : s.advance g o = .moved s') : s'.Anchored := by
  have hs := Passage.of_advance h
  clear h
  cases hs with
  | resume hr hc => exact anchored_restartRun _
  | close hp _ h => exact anchored_close _ hp h
  | enter hp hk h =>
    rename_i start s₁
    -- the run of the new block starts behind its start
    refine anchored_of_runStart ?_
    show s.input.current.offset + byteLength start.chars = (s₁.input.current.advance _).offset
    rw [hk.input]
    exact (Cursor.offset_advance hp).symm
  | pass hm hp hk => exact anchored_restartRun _
  | char hn => exact Cursor.Passed.next ha hn

/-! ### The specs of the open blocks -/

/-- The titles of the open blocks, innermost first, and of the root. -/
def titles (s : State C n) : List (String × Spec C n × Nat) := (s.opened ++ [s.root]).map OpenBlock.title

theorem titles_eq (s : State C n) : s.titles = s.active.title :: s.around.map OpenBlock.title := by
  rw [titles, opened_append_root, List.map_cons]

theorem Keeps.titles {s s' : State C n} (h : Keeps s s') : s'.titles = s.titles := by
  rw [titles_eq, titles_eq, h.title, h.around]

private theorem titles_close {limit : Nat} {stop : Option Delimiter} {s s' : State C n}
    (h : s.close limit stop = .ok s') : s'.titles = s.titles ∨ s'.titles = s.titles.tail ∧ s.opened ≠ [] := by
  rcases close_cases h with ⟨s₁, h₁, -, rfl⟩ | ⟨s₁, inner, outer, p, s₂, h₁, ho, h₂, h⟩
  · exact Or.inl (Keeps.endRun h₁).titles
  · have hk := Keeps.endRun h₁
    refine Or.inr ⟨?_, ?_⟩
    · have ht : s₂.titles = s.titles.tail := by
        rw [← hk.titles, (Keeps.output h₂).titles, State.titles, State.titles, ho]
        rfl
      rcases h with ⟨text, -, h⟩ | ⟨-, h⟩
      · obtain ⟨-, -, ha, hb, -⟩ := scanAgain_eq_ok h
        rw [← ht, titles_eq, titles_eq, ha, hb]
        rfl
      · rw [(Keeps.addResult h).titles, ht]
    · intro hn
      have := hk.length_opened
      rw [ho, hn] at this
      exact absurd this (by simp)

/-- A step leaves the open blocks alone, closes the innermost one, or opens one with a spec of the grammar. -/
theorem titles_advance {g : Grammar C} {o : Options} {s s' : State C g.size} (h : s.advance g o = .moved s') :
    s'.titles = s.titles ∨ (s'.titles = s.titles.tail ∧ s.opened ≠ []) ∨
      ∃ name slot offset, s'.titles = (name, g.spec slot, offset) :: s.titles := by
  have hs := Passage.of_advance h
  clear h
  cases hs with
  | resume hr hc =>
    exact Or.inl ((Keeps.resume _ s).titles)
  | close _ _ h =>
    rcases titles_close h with h | h
    · exact Or.inl h
    · exact Or.inr (Or.inl h)
  | enter hp hk h =>
    rename_i name slot _ s₁
    refine Or.inr (Or.inr ⟨name, slot, s.input.current.offset, ?_⟩)
    rw [← hk.titles]
    rfl
  | pass hm hp hk => exact Or.inl ((Keeps.restartRun _).titles.trans hk.titles)
  | char hn => exact Or.inl rfl

end State

/-! ### Sound states -/

/-- The active run is anchored, the open blocks have specs of the grammar, and the root is that of the grammar. -/
structure State.Sound (g : Grammar C) (s : State C g.size) : Prop where
  anchored : s.Anchored
  specs : ∀ t ∈ s.titles, ∃ slot, t.2.1 = g.spec slot
  root : s.root.title = (OpenBlock.rootName, g.root, 0)

namespace State

private theorem root_title (s : State C n) : s.titles.getLast? = some s.root.title := by
  simp [titles]

/-- A scan starts in a sound state. -/
theorem Sound.start (g : Grammar C) (text : String) (context : C) : Sound g (.start g text context) := by
  refine ⟨Cursor.passed_zero _, ?_, rfl⟩
  intro t ht
  have : t = (OpenBlock.rootName, g.root, 0) := by simpa [titles, State.start, OpenBlock.title, OpenBlock.root] using ht
  exact ⟨g.rootSlot, by rw [this]; rfl⟩

/-- Every step leads from a sound state to a sound one. -/
theorem Sound.advance {g : Grammar C} {o : Options} {s s' : State C g.size} (hs : Sound g s)
    (h : s.advance g o = .moved s') : Sound g s' := by
  have hl : s'.titles.getLast? = s.titles.getLast? ∧ ∀ t ∈ s'.titles, ∃ slot, t.2.1 = g.spec slot := by
    rcases titles_advance h with ht | ⟨ht, ho⟩ | ⟨name, slot, offset, ht⟩
    · rw [ht]
      exact ⟨rfl, hs.specs⟩
    · -- the block that closes is not the root, which stays the last one
      rw [ht]
      refine ⟨?_, fun t h => hs.specs t (List.mem_of_mem_tail h)⟩
      unfold titles
      cases hc : s.opened with
      | nil => exact absurd hc ho
      | cons inner outer => simp [List.getLast?_cons]
    · rw [ht]
      refine ⟨?_, ?_⟩
      · rw [titles_eq s, List.getLast?_cons_cons]
      · intro t h
        rcases List.mem_cons.1 h with rfl | h
        · exact ⟨slot, rfl⟩
        · exact hs.specs t h
  refine ⟨hs.anchored.advance h, hl.2, ?_⟩
  have := hl.1
  rw [root_title, root_title, hs.root] at this
  exact Option.some.inj this

theorem Sound.active_spec {g : Grammar C} {s : State C g.size} (hs : Sound g s) :
    ∃ slot, s.active.spec = g.spec slot :=
  hs.specs s.active.title (by rw [titles_eq]; exact List.mem_cons_self)

/-- Without an open block it is the root whose rules apply. -/
theorem Sound.spec_of_atRoot {g : Grammar C} {s : State C g.size} (hs : Sound g s) (h : s.opened = []) :
    s.active.spec = g.root := by
  have : s.active = s.root := by rw [active, h]; rfl
  rw [this]
  exact congrArg (·.2.1) hs.root

/-- The root has no stop, so a stop is found only where a block is open. -/
theorem Sound.opened_of_close {g : Grammar C} {s : State C g.size} (hs : Sound g s) (hg : g.root.stop = none)
    {stop : Delimiter} (hm : nextMove g s.active.spec s.input.current.rest = .close stop) : s.opened ≠ [] := by
  intro ho
  have hstop := stop_of_nextMove hm
  rw [hs.spec_of_atRoot ho, hg] at hstop
  exact absurd hstop (by simp)

end State

/-- All states that a scan goes through are sound. -/
theorem Reachable.sound {g : Grammar C} {o : Options} {text : String} {context : C} {s : State C g.size}
    (h : Reachable g o text context s) : s.Sound g :=
  h.invariant (.start g text context) fun _ _ hs hm => hs.advance hm

end Delimited.Scan
