import Delimited.Proofs.Scan.Outcome

/-!
# Runs that ask no handler

A block without a handler ends its runs and closes whatever the context is (`OpenBlock.endRun`, `OpenBlock.result`).
Where the scan meets only such blocks it goes from situation to situation and leaves the context alone:
`Situation.Reaches` says that it comes from one to another. What comes out of a scan is then what is in the last
situation (`scan_of_reaches`), so it can be found by following the text, without states.
-/

namespace Delimited.Scan

variable {C : Type} {n : Nat}

namespace OpenBlock

/-- The block with its run ended, when there is no handler that has a say. -/
def endRun (k : Boundary) (b : OpenBlock C n) : OpenBlock C n :=
  match b.fragment? k with
  | none => b
  | some (text, b) => b.addValue (.text text)

/-- The run becomes a part, or it is empty. -/
theorem endRun_cases (k : Boundary) (b : OpenBlock C n) :
    b.endRun k = ({ b with run := "" } : OpenBlock C n).addValue (.text b.run) ∨ b.endRun k = b ∧ b.run = "" := by
  unfold endRun
  cases hf : b.fragment? k with
  | some f =>
    obtain ⟨text, b'⟩ := f
    obtain ⟨rfl, rfl⟩ := eq_of_fragment hf
    exact Or.inl rfl
  | none =>
    refine Or.inr ⟨rfl, ?_⟩
    unfold fragment? at hf
    split at hf
    · cases hf
    · rename_i hc
      simp only [Bool.or_eq_true, Bool.not_eq_true', not_or, Bool.not_eq_false] at hc
      exact String.isEmpty_iff.1 hc.1

@[simp] theorem title_endRun (k : Boundary) (b : OpenBlock C n) : (b.endRun k).title = b.title := by
  rcases endRun_cases k b with h | ⟨h, -⟩
  · rw [h]
    rfl
  · rw [h]

@[simp] theorem spec_endRun (k : Boundary) (b : OpenBlock C n) : (b.endRun k).spec = b.spec :=
  spec_of_title (title_endRun k b)

@[simp] theorem run_endRun (k : Boundary) (b : OpenBlock C n) : (b.endRun k).run = "" := by
  rcases endRun_cases k b with h | ⟨h, hr⟩
  · rw [h]
    rfl
  · rw [h, hr]

section

variable {b : OpenBlock C n} (h : b.spec.handler = none)
include h

private theorem flush_of_handler (isRoot : Bool) (k : Boundary) : b.flush isRoot k = pure (b.endRun k) := by
  unfold flush endRun
  cases hf : b.fragment? k with
  | none => rfl
  | some r =>
    obtain ⟨text, b'⟩ := r
    obtain ⟨-, rfl⟩ := eq_of_fragment hf
    simp only [offer, h, pure_bind]

private theorem receive_of_handler (isRoot : Bool) (p : Part) : b.receive isRoot p = pure (b.addValue p) := by
  simp only [receive, offer, h, ite_self, pure_bind]

private theorem value_of_handler : b.value = pure b.result := by
  simp only [value, h]

private theorem reparses_of_handler : b.spec.reparses = false := by
  simp [Spec.reparses, h]

end

/-- A run that is not empty becomes a part. -/
theorem endRun_of_run {b : OpenBlock C n} (h : b.run ≠ "") (k : Boundary) :
    b.endRun k = { b with run := "", parts := b.parts.push (.text b.run), hasValue := true } := by
  have hf : b.fragment? k = some (b.run, { b with run := "" }) := by simp [fragment?, h]
  rw [endRun, hf]
  rfl

end OpenBlock

namespace Left

theorem skip_of_append {offset : Nat} (m r : List Char) :
    (⟨offset, m ++ r⟩ : Left).skip m = ⟨offset + byteLength m, r⟩ := by
  simp [skip]

private theorem skip_skip (m m' : List Char) (t : Left) : (t.skip m).skip m' = t.skip (m ++ m') := by
  simp [skip, Nat.add_assoc]

end Left

namespace Situation

/-! ### Moves without handlers -/

section

variable {s : Situation C n}

/-- The run of the active block becomes a part. -/
theorem endRun_eq (h : s.active.spec.handler = none) (k : Boundary) :
    s.endRun k = pure { s with active := s.active.endRun k } := by
  unfold Situation.endRun
  rw [OpenBlock.flush_of_handler h, pure_bind]

/-- The result of a closed block is added to the one around it, and nothing is scanned again. -/
theorem close_eq {outer : OpenBlock C n} {around : List (OpenBlock C n)} (ha : s.around = outer :: around)
    (h : s.active.spec.handler = none) (ho : outer.spec.handler = none) (limit : Nat) (stop : Option Delimiter) :
    s.close limit stop = pure { s with
      text := s.text.skip (stop.elim [] Delimiter.chars)
      active := (outer.endRun .block).addValue ((s.active.endRun .stop).addStop stop).result
      around } := by
  have hstop : ((s.active.endRun .stop).addStop stop).spec.handler = none := by
    rw [OpenBlock.spec_of_title (OpenBlock.title_addStop stop _), OpenBlock.spec_endRun, h]
  have hagain : ∀ p, State.again? (s.active.endRun .stop) p = none :=
    State.again?_eq_none (OpenBlock.reparses_of_handler (by rw [OpenBlock.spec_endRun, h]))
  have ho' : (outer.endRun .block).spec.handler = none := by rw [OpenBlock.spec_endRun, ho]
  unfold Situation.close
  rw [endRun_eq h, pure_bind]
  dsimp only
  rw [ha]
  dsimp only
  rw [OpenBlock.value_of_handler hstop, pure_bind, hagain]
  unfold receive
  rw [endRun_eq ho, pure_bind]
  dsimp only
  rw [OpenBlock.receive_of_handler ho', pure_bind]

/-- A nested block is opened behind the run of the block around it, which becomes a part. -/
theorem enter_eq {g : Grammar C} {s : Situation C g.size} {slot : Fin g.size} (h : s.active.spec.handler = none)
    (hslot : (g.spec slot).handler = none) (name : String) (start : Delimiter) :
    s.enter g name slot start = pure { s with
      text := s.text.skip start.chars
      active := (OpenBlock.enter name (g.spec slot) s.text.offset start).goOnAt 0
      around := s.active.endRun .block :: s.around } := by
  have hr : (g.spec slot).reparses = false := by simp [Spec.reparses, hslot]
  simp only [enter, endRunBefore, hr, Bool.false_eq_true, if_false, endRun_eq h, pure_bind]

/-- At the end the result is that of the root. -/
theorem finish_eq (h : s.active.spec.handler = none) : s.finish = pure (s.active.endRun .stop).result := by
  unfold Situation.finish
  rw [OpenBlock.flush_of_handler h, pure_bind]

end

section

variable {g : Grammar C} {limit : Nat} {s : Situation C g.size}

theorem makeMove_enter (h : s.active.spec.handler = none) {slot : Fin g.size} (hslot : (g.spec slot).handler = none)
    (name : String) (start : Delimiter) :
    s.makeMove g limit (.enter name slot start) = pure { s with
      text := s.text.skip start.chars
      active := (OpenBlock.enter name (g.spec slot) s.text.offset start).goOnAt 0
      around := s.active.endRun .block :: s.around } :=
  enter_eq h hslot name start

theorem makeMove_split (h : s.active.spec.handler = none) (m : RuleMatch) (token : Option String) :
    s.makeMove g limit (.split m token) = pure { s with
      text := s.text.skip m.whole, active := ((s.active.endRun .split).addKept token).endSegment } := by
  simp only [makeMove, endRun_eq h, pure_bind]

/-- Without handlers a block that closes gives its result to the block around it. -/
theorem makeMove_close {text : Left} {suspended : List Left} {b outer : OpenBlock C g.size}
    {around : List (OpenBlock C g.size)} {e : Nat} (h : b.spec.handler = none) (ho : outer.spec.handler = none)
    (stop : Delimiter) :
    makeMove g limit ⟨text, suspended, b, outer :: around, e⟩ (.close stop) =
      pure ⟨text.skip stop.chars, suspended,
        (outer.endRun .block).addValue ((b.endRun .stop).addStop (some stop)).result, around, e⟩ :=
  close_eq rfl h ho limit (some stop)

end

/-! ### Runs -/

/-- The situation before the first step. -/
def start (g : Grammar C) (text : String) : Situation C g.size := ⟨.ofString text, [], .root g.root, [], 0⟩

/-- The scan goes on from the one situation to the other, and leaves the context alone on the way. -/
inductive Reaches (g : Grammar C) (o : Options) : Situation C g.size → Situation C g.size → Prop
  | refl (s : Situation C g.size) : Reaches g o s s
  | head {s t u : Situation C g.size} (h : s.advance g o = pure (some t)) (ht : Reaches g o t u) : Reaches g o s u

namespace Reaches

variable {g : Grammar C} {o : Options} {s t u : Situation C g.size}

theorem trans (h : Reaches g o s t) (ht : Reaches g o t u) : Reaches g o s u := by
  induction h with
  | refl s => exact ht
  | head h _ ih => exact head h (ih ht)

/-- The next move leads on. -/
theorem move (hne : s.text.rest ≠ []) {m : Move g.size} (hm : nextMove g s.active.spec s.text.rest = m)
    (h : s.makeMove g o.maxReparseDepth m = pure t) : Reaches g o s t := by
  refine head ?_ (refl t)
  rw [advance_of_ne_nil o hne, hm, h]
  rfl

/-- An escape is read as what it stands for. -/
theorem escape {m x : Delimiter} {r : List Char} (hs : s.text.rest = m.chars ++ r)
    (hm : nextMove g s.active.spec s.text.rest = .escape m x) :
    Reaches g o s { s with text := s.text.skip m.chars, active := s.active.addText x.text } :=
  move (by simp [hs, m.ne_nil]) hm rfl

/-- A character in front of which nothing is recognised is read as it is. -/
theorem char {c : Char} {r : List Char} (hs : s.text.rest = c :: r)
    (hm : nextMove g s.active.spec s.text.rest = .char) :
    Reaches g o s { s with text := s.text.skip [c], active := s.active.addText (String.ofList [c]) } :=
  move (by simp [hs]) hm (by simp only [makeMove, hs])

/-- Texts are read one after the other. -/
theorem read_append {m m' x x' : List Char}
    (h : Reaches g o s { s with text := s.text.skip m, active := s.active.addText (String.ofList x) })
    (h' : Reaches g o { s with text := s.text.skip m, active := s.active.addText (String.ofList x) }
      { s with
        text := (s.text.skip m).skip m', active := (s.active.addText (String.ofList x)).addText (String.ofList x') }) :
    Reaches g o s
      { s with text := s.text.skip (m ++ m'), active := s.active.addText (String.ofList (x ++ x')) } := by
  have ht := h.trans h'
  rwa [Left.skip_skip, OpenBlock.addText_addText, ← String.ofList_append] at ht

theorem read_nil : Reaches g o s { s with text := s.text.skip [], active := s.active.addText (String.ofList []) } := by
  have hb : s.active.addText (String.ofList []) = s.active := by simp [OpenBlock.addText]
  rw [hb]
  exact refl s

/-- A text in which nothing is recognised is read as it is. -/
theorem read {m r : List Char} (hs : s.text.rest = m ++ r)
    (h : ∀ m', m' ≠ [] → m' <:+ m → nextMove g s.active.spec (m' ++ r) = .char) :
    Reaches g o s { s with text := s.text.skip m, active := s.active.addText (String.ofList m) } := by
  induction m generalizing s with
  | nil => exact read_nil
  | cons c m ih =>
    have hc : nextMove g s.active.spec s.text.rest = .char := by
      rw [hs]
      exact h (c :: m) (by simp) List.suffix_rfl
    have hr : (s.text.skip [c]).rest = m ++ r := by simp [Left.skip, hs]
    exact read_append (m := [c]) (x := [c]) (char hs hc)
      (ih hr fun m' hne hm' => h m' hne (hm'.trans (List.suffix_cons c m)))

end Reaches

end Situation

namespace State

variable {g : Grammar C} {o : Options} {s : State C g.size}

/-- Where a run of situations ends, so does the scan. -/
theorem outcome_of_reaches (hg : g.root.stop = none) (hd : s.input.depth ≤ o.maxReparseDepth) (hs : s.Sound g)
    {t u : Situation C g.size} (ht : s.situation = t) (h : t.Reaches g o u) (hend : u.advance g o = pure none) :
    ((s.outcome g o hd).result, (s.outcome g o hd).context) = u.finish s.context := by
  induction h generalizing s with
  | refl t =>
    have hstep := observe_advance (o := o) hs hg
    rw [ht, hend] at hstep
    obtain ⟨s', hs', -⟩ := Progress.of_observe_none hstep
    rw [outcome_ended hd hs', ht]
  | head h _ ih =>
    have hstep := observe_advance (o := o) hs hg
    rw [ht, h] at hstep
    obtain ⟨s', hs', ht', hc⟩ := Progress.of_observe_some hstep
    rw [outcome_moved hd hs', ih (depth_advance hd hs') (hs.advance hs') ht' hend, hc]

end State

/-- A scan gives what is in the situation that its run ends with. -/
theorem scan_of_reaches {g : Grammar C} (hg : g.root.stop = none) {o : Options} {text : String}
    {t : Situation C g.size} (h : (Situation.start g text).Reaches g o t) (hr : t.text.rest = [])
    (hs : t.suspended = []) (ha : t.around = []) (ht : t.active.spec.handler = none) (context : C) :
    (scan g o text context).result = .ok (t.active.endRun .stop).result ∧
      (scan g o text context).context = context := by
  have hend := Situation.advance_of_nil o hr hs ha
  have hout := State.outcome_of_reaches hg (Nat.zero_le _) (.start g text context) rfl h hend
  rw [Situation.finish_eq ht, ← State.scan_eq_outcome] at hout
  exact ⟨congrArg Prod.fst hout, congrArg Prod.snd hout⟩

end Delimited.Scan
