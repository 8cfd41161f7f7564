import Mathlib
import Delimited.Proofs.Scan.Agree
import Delimited.Proofs.Scan.Outcome

/-!
# Reparses as substitutions

A block whose output is scanned again stands for this output: it makes no difference whether the output is scanned in
place of what is left of a text, which is taken up again afterwards, or both are scanned as one text
(`outcome_reparse`). This holds as long as no rule finds something else where the two meet (`Seamless`).

The two scans are followed side by side. What is left of their texts is the same but for one seam (`Seam`), and it stays
so while other texts are scanned above the seam, until the first text behind it has been used up. In between the scans
are in situations that are `Joined`: their open blocks differ at most in the offsets where they were opened. They take
the same steps, except that one of them has to take up the suspended text where the other one just goes on
(`Situation.Joined.advance`).
-/

namespace Delimited.Scan

variable {C : Type} {n : Nat}

/-! ### Moves -/

/-- A move without the captures of its match, of which a scan keeps no more than the kept part. -/
def Move.bare : Move n → Move n
  | .split m token => .split ⟨m.whole, [], m.ne_nil⟩ token
  | .strip m => .strip ⟨m.whole, [], m.ne_nil⟩
  | m => m

/-- Whatever is left of a text, the next move stays the same when another text follows. -/
def Seamless (g : Grammar C) (text next : List Char) : Prop :=
  ∀ slot u, u ≠ [] → u <:+ text → (nextMove g (g.spec slot) u).bare = (nextMove g (g.spec slot) (u ++ next)).bare

instance (g : Grammar C) (text next : List Char) : Decidable (Seamless g text next) :=
  decidable_of_iff (∀ slot, ∀ u ∈ text.tails, u ≠ [] →
      (nextMove g (g.spec slot) u).bare = (nextMove g (g.spec slot) (u ++ next)).bare) <| by
    simp only [List.mem_tails]
    exact forall_congr' fun slot => forall_congr' fun u => ⟨fun h hu hs => h hs hu, fun h hs hu => h hu hs⟩

/-! ### Texts and their seam -/

/-- What is left of the texts of two scans, one of which has taken the end of a text and the text below it together. -/
inductive Seam (text next : List Char) : List (List Char) → List (List Char) → Prop
  /-- The end of the text is scanned, or suspended in favour of the texts above it. -/
  | here {u : List Char} {below : List (List Char)} (hu : u <:+ text) :
    Seam text next (u :: next :: below) ((u ++ next) :: below)
  /-- Another text is scanned in favour of those below it. -/
  | above {t : List Char} {xs ys : List (List Char)} (h : Seam text next xs ys) : Seam text next (t :: xs) (t :: ys)
  /-- The end of the text has been scanned. -/
  | gone (xs : List (List Char)) : Seam text next xs xs

namespace Seam

variable {text next x y : List Char} {xs ys : List (List Char)}

private theorem length_le (h : Seam text next xs ys) : ys.length ≤ xs.length := by
  induction h with
  | here _ => simp
  | above _ ih => simpa using ih
  | gone _ => exact Nat.le_refl _

private theorem eq_nil_iff (h : Seam text next xs ys) : xs = [] ↔ ys = [] := by
  cases h with
  | here _ => simp
  | above _ => simp
  | gone _ => rfl

/-- Either the end of the text is used up; or it is about to be scanned; or both scan the same text. -/
theorem cases_cons (h : Seam text next (x :: xs) (y :: ys)) :
    (x = [] ∧ xs = y :: ys) ∨ (x ≠ [] ∧ x <:+ text ∧ y = x ++ next ∧ xs = next :: ys) ∨ (y = x ∧ Seam text next xs ys) := by
  cases h with
  | here hu =>
    by_cases hx : x = []
    · subst hx
      exact Or.inl ⟨rfl, rfl⟩
    · exact Or.inr (Or.inl ⟨hx, hu, rfl, rfl⟩)
  | above h => exact Or.inr (Or.inr ⟨rfl, h⟩)
  | gone => exact Or.inr (Or.inr ⟨rfl, .gone _⟩)

end Seam

/-! ### Situations with a seam -/

namespace Situation

/-- What is left of the texts, the current one first. -/
def texts (s : Situation C n) : List (List Char) := s.text.rest :: s.suspended.map (·.rest)

/-- The same behind a text that stands at the start of the current one. -/
def textsBehind (m : List Char) (s : Situation C n) : List (List Char) :=
  (s.text.skip m).rest :: s.suspended.map (·.rest)

/-- The second situation is the first one with the texts taken together at the seam. -/
structure Joined (text next : List Char) (a b : Situation C n) : Prop where
  texts : Seam text next a.texts b.texts
  active : a.active.Alike b.active
  around : List.Forall₂ OpenBlock.Alike a.around b.around
  endReparses : b.endReparses = a.endReparses

private theorem makeMove_bare (g : Grammar C) (limit : Nat) (s : Situation C g.size) (m : Move g.size) :
    s.makeMove g limit m.bare = s.makeMove g limit m := by
  cases m <;> rfl

namespace Joined

variable {g : Grammar C} {text next : List Char} {a b : Situation C n}

private theorem atRoot (h : Joined text next a b) : b.atRoot = a.atRoot := by
  have hl := h.around
  unfold Situation.atRoot
  generalize a.around = l at hl ⊢
  generalize b.around = l' at hl ⊢
  cases hl <;> rfl

/-- The situations have as many texts as before, and the same ones. -/
structure Same (text next : List Char) (a b a' b' : Situation C n) : Prop where
  joined : Joined text next a' b'
  left : a'.text = a.text ∧ a'.suspended = a.suspended
  right : b'.text = b.text ∧ b'.suspended = b.suspended

private theorem Same.seam {a' b' : Situation C n} {m : List Char} (h : Same text next a b a' b')
    (ht : Seam text next (a.textsBehind m) (b.textsBehind m)) :
    Seam text next (a'.textsBehind m) (b'.textsBehind m) := by
  obtain ⟨-, ⟨h₁, h₂⟩, ⟨h₃, h₄⟩⟩ := h
  unfold textsBehind
  rw [h₁, h₂, h₃, h₄]
  exact ht

private theorem endRun (h : Joined text next a b) (k : Boundary) :
    Effect.Agree (Same text next a b) (a.endRun k) (b.endRun k) := by
  unfold Situation.endRun
  rw [h.atRoot]
  exact (h.active.flush a.atRoot k).bind fun b₁ b₂ hb =>
    .pure ⟨⟨h.texts, hb, h.around, h.endReparses⟩, ⟨rfl, rfl⟩, ⟨rfl, rfl⟩⟩

private theorem endRunBefore (h : Joined text next a b) (child : Spec C n) :
    Effect.Agree (Same text next a b) (a.endRunBefore child) (b.endRunBefore child) := by
  unfold Situation.endRunBefore
  by_cases hc : child.reparses
  · rw [if_pos hc, if_pos hc]
    exact .pure ⟨h, ⟨rfl, rfl⟩, ⟨rfl, rfl⟩⟩
  · rw [if_neg hc, if_neg hc]
    exact h.endRun .block

private theorem receive (h : Joined text next a b) (p : Part) :
    Effect.Agree (Joined text next) (a.receive p) (b.receive p) := by
  unfold Situation.receive
  refine (h.endRun .block).bind fun a' b' hs => ?_
  have hj := hs.joined
  rw [hj.atRoot]
  exact (hj.active.receive a'.atRoot p).bind fun b₁ b₂ hb => .pure ⟨hj.texts, hb, hj.around, hj.endReparses⟩

/-- Where more texts are suspended, the limit is met first. -/
theorem scanAgain (h : Joined text next a b) (limit : Nat) (block s : String) (atEnd : Bool) :
    Effect.Agree (Joined text next) (a.scanAgain limit block s atEnd) (b.scanAgain limit block s atEnd) := by
  have hl : b.suspended.length ≤ a.suspended.length := by
    have := h.texts.length_le
    simpa [Situation.texts] using this
  unfold Situation.scanAgain
  by_cases ha : limit ≤ a.suspended.length + a.endReparses
  · rw [if_pos ha]
    exact .limit block limit _
  · have hb : ¬ limit ≤ b.suspended.length + b.endReparses := by
      rw [h.endReparses]; omega
    rw [if_neg ha, if_neg hb, h.endReparses]
    exact .pure ⟨.above h.texts, h.active, h.around, rfl⟩

/-- Closing the same block at the same stop. -/
theorem close (h : Joined text next a b) (limit : Nat) (stop : Option Delimiter)
    (ht : Seam text next (a.textsBehind (stop.elim [] Delimiter.chars)) (b.textsBehind (stop.elim [] Delimiter.chars))) :
    Effect.Agree (Joined text next) (a.close limit stop) (b.close limit stop) := by
  unfold Situation.close
  refine (h.endRun .stop).bind ?_
  rintro ⟨x, xs, inner, as, e⟩ ⟨y, ys, inner', bs, e'⟩ hs
  have ht := hs.seam ht
  obtain ⟨-, hi, hr, he⟩ := hs.joined
  dsimp only at hi hr he ⊢
  -- both blocks are the root, or both are nested
  cases hr with
  | nil => exact .pure ⟨ht, hi, .nil, he⟩
  | @cons outer outer' as bs ho hr =>
    have hv : (inner'.addStop stop).value = (inner.addStop stop).value := (hi.addStop stop).value
    have hg : State.again? inner' = State.again? inner := State.again?_congr (by rw [hi.spec])
    have hj : Joined text next ⟨x.skip (stop.elim [] Delimiter.chars), xs, outer, as, e⟩
        ⟨y.skip (stop.elim [] Delimiter.chars), ys, outer', bs, e'⟩ := ⟨ht, ho, hr, he⟩
    dsimp only
    rw [hv]
    refine (Effect.Agree.refl _).bind ?_
    rintro p _ rfl
    rw [hg, hi.name]
    cases State.again? inner p with
    | some s => exact hj.scanAgain _ _ _ _
    | none => exact hj.receive p

/-- Making the same move in front of what is left of the first text. -/
theorem makeMove {a b : Situation C g.size} (h : Joined text next a b) (limit : Nat) {m : Move g.size} {rest : List Char}
    (hne : a.text.rest ≠ []) (hb : b.text.rest = a.text.rest ++ rest) (hp : m.recognised <+: a.text.rest)
    (hs : ∀ k, k <+: a.text.rest → Seam text next (a.textsBehind k) (b.textsBehind k)) :
    Effect.Agree (Joined text next) (a.makeMove g limit m) (b.makeMove g limit m) := by
  cases m with
  | escape escaped literal => exact .pure ⟨hs _ hp, h.active.addText _, h.around, h.endReparses⟩
  | close stop => exact h.close limit (some stop) (hs _ hp)
  | enter name slot start =>
    refine (h.endRunBefore (g.spec slot)).bind fun a' b' hk => ?_
    have hj := hk.joined
    exact .pure ⟨hk.seam (hs _ hp), ⟨b'.text.offset, rfl⟩, .cons hj.active hj.around, hj.endReparses⟩
  | split m token =>
    refine (h.endRun .split).bind fun a' b' hk => ?_
    have hj := hk.joined
    exact .pure ⟨hk.seam (hs _ hp), hj.active.split token, hj.around, hj.endReparses⟩
  | strip m => exact .pure ⟨hs _ hp, h.active, h.around, h.endReparses⟩
  | char =>
    obtain ⟨c, r, hc⟩ := List.exists_cons_of_ne_nil hne
    have hc' : b.text.rest = c :: (r ++ rest) := by rw [hb, hc]; rfl
    unfold Situation.makeMove
    dsimp only
    rw [hc, hc']
    exact .pure ⟨hs [c] (by rw [hc]; exact ⟨r, rfl⟩), h.active.addText _, h.around, h.endReparses⟩

/-- Where nothing is left of either text, the same text is taken up again, or the same block is closed. -/
theorem advance_of_nil {a b : Situation C g.size} (h : Joined text next a b) (ha : a.text.rest = [])
    (hb : b.text.rest = []) (hs : Seam text next (a.suspended.map (·.rest)) (b.suspended.map (·.rest))) (o : Options) :
    Effect.Agree (Option.Rel (Joined text next)) (a.advance g o) (b.advance g o) := by
  cases hsa : a.suspended with
  | cons t ts =>
    cases hsb : b.suspended with
    | nil =>
      rw [hsa, hsb] at hs
      exact absurd (hs.eq_nil_iff.2 rfl) (by simp)
    | cons t' ts' =>
      rw [hsa, hsb] at hs
      rw [advance_of_suspended o ha hsa, advance_of_suspended o hb hsb]
      exact .pure (.some ⟨hs, h.active, h.around, h.endReparses⟩)
  | nil =>
    have hsb : b.suspended = [] := by
      rw [hsa] at hs
      exact List.map_eq_nil_iff.1 (hs.eq_nil_iff.1 rfl)
    have hr := h.around
    unfold Situation.advance
    rw [ha, hb, hsa, hsb]
    cases hra : a.around with
    | nil =>
      cases hrb : b.around with
      | nil => exact .pure .none
      | cons outer around => rw [hra, hrb] at hr; cases hr
    | cons outer around =>
      cases hrb : b.around with
      | nil => rw [hra, hrb] at hr; cases hr
      | cons outer' around' =>
        cases o.unterminated with
        | error => exact .throw (by rw [h.active.name]; rfl)
        | close => exact (h.close o.maxReparseDepth none h.texts).map fun _ _ hj => .some hj

/-- Either the first situation leaves the end of the text behind, or both situations take the same step. -/
theorem advance {a b : Situation C g.size} (h : Joined text next a b) (hn : Seamless g text next)
    (ha : ∃ slot, a.active.spec = g.spec slot) (o : Options) :
    (∃ a', a.advance g o = Pure.pure (some a') ∧ Joined text next a' b) ∨
      Effect.Agree (Option.Rel (Joined text next)) (a.advance g o) (b.advance g o) := by
  rcases h.texts.cases_cons with ⟨hx, hxs⟩ | ⟨hx, hu, hy, hxs⟩ | ⟨hy, hxs⟩
  · -- the end of the text is used up
    obtain ⟨t, ts, hs, ht, hts⟩ := List.map_eq_cons_iff.1 hxs
    refine Or.inl ⟨{ a with text := t, suspended := ts }, advance_of_suspended o hx hs, ?_⟩
    refine ⟨?_, h.active, h.around, h.endReparses⟩
    show Seam text next (t.rest :: ts.map (·.rest)) (b.text.rest :: b.suspended.map (·.rest))
    rw [ht, hts]
    exact .gone _
  · -- no move reaches over the seam
    refine Or.inr ?_
    obtain ⟨slot, hslot⟩ := ha
    have hb : b.text.rest ≠ [] := by rw [hy]; simp [hx]
    rw [advance_of_ne_nil o hx, advance_of_ne_nil o hb, h.active.spec, hslot, hy, ← makeMove_bare g _ b,
      ← hn slot _ hx hu, makeMove_bare]
    refine (h.makeMove o.maxReparseDepth hx hy (recognised_isPrefix g _ _) fun k hk => ?_).map fun _ _ hj => .some hj
    have hk := hk.length_le
    unfold textsBehind
    rw [hxs]
    show Seam text next (a.text.rest.drop k.length :: _) (b.text.rest.drop k.length :: _)
    rw [hy, List.drop_append_of_le_length hk]
    exact .here ((List.drop_suffix _ _).trans hu)
  · refine Or.inr ?_
    by_cases hx : a.text.rest = []
    · exact h.advance_of_nil hx (hy.trans hx) hxs o
    · -- the same move in the same text
      have hb : b.text.rest ≠ [] := by rw [hy]; exact hx
      rw [advance_of_ne_nil o hx, advance_of_ne_nil o hb, h.active.spec, hy]
      refine (h.makeMove o.maxReparseDepth hx (by rw [hy, List.append_nil]) (recognised_isPrefix g _ _) fun k hk =>
        ?_).map fun _ _ hj => .some hj
      show Seam text next (a.text.rest.drop k.length :: _) (b.text.rest.drop k.length :: _)
      rw [hy]
      exact .above hxs

private theorem finish {a b : Situation C n} (h : Joined text next a b) : Effect.Agree Eq a.finish b.finish := by
  unfold Situation.finish
  rw [h.atRoot]
  exact (h.active.flush a.atRoot .stop).bind fun b₁ b₂ hb => .pure hb.result.symm

end Joined

end Situation

/-! ### Outcomes -/

/-- What comes out of scans that go on from joined situations agrees. -/
theorem agrees_outcome {g : Grammar C} {o : Options} {text next : List Char} (hg : g.root.stop = none)
    (hn : Seamless g text next) (a b : State C g.size) (hda : a.input.depth ≤ o.maxReparseDepth)
    (hdb : b.input.depth ≤ o.maxReparseDepth) (ha : a.Sound g) (hb : b.Sound g)
    (hj : a.situation.Joined text next b.situation) (hc : b.context = a.context) :
    Agrees Eq ((a.outcome g o hda).result, (a.outcome g o hda).context)
      ((b.outcome g o hdb).result, (b.outcome g o hdb).context) := by
  have hoa := State.observe_advance (o := o) ha hg
  have hob := State.observe_advance (o := o) hb hg
  rcases hj.advance hn ha.active_spec o with ⟨a', hs, hj'⟩ | hs
  · -- the first scan takes up the text below, and the second one waits for it
    rw [hs] at hoa
    obtain ⟨t, hma, rfl, htc⟩ := Progress.of_observe_some hoa
    rw [State.outcome_moved hda hma]
    exact agrees_outcome hg hn t b _ hdb (ha.advance hma) hb hj' (by rw [hc, htc])
  · have hs := hs a.context
    rw [← hoa, ← hc, ← hob] at hs
    match hma : a.advance g o with
    | .failed f =>
      rw [hma] at hs
      rw [State.outcome_failed hda hma]
      -- only the limit may be met by the first scan alone
      by_cases hl : ∃ block limit, f.error = .reparseLimit block limit
      · obtain ⟨block, limit, hl⟩ := hl
        rw [hl]
        exact .limit
      · obtain ⟨e', hb', he⟩ := hs.of_error fun block limit h => hl ⟨block, limit, h⟩
        obtain ⟨f', hmb, rfl, hfc⟩ := Progress.of_observe_error hb'
        rw [State.outcome_failed hdb hmb]
        show Agrees Eq (.error f.error, f.context) (.error f'.error, f'.context)
        rw [hfc]
        exact .error he
    | .ended t =>
      rw [hma] at hs
      obtain ⟨b', hb', hr⟩ := hs.of_ok
      cases hr
      obtain ⟨u, hmb, -⟩ := Progress.of_observe_none hb'
      rw [State.outcome_ended hda hma, State.outcome_ended hdb hmb, hc]
      exact hj.finish a.context
    | .moved t =>
      rw [hma] at hs
      obtain ⟨b', hb', hr⟩ := hs.of_ok
      cases hr with
      | some hj' =>
        obtain ⟨u, hmb, rfl, huc⟩ := Progress.of_observe_some hb'
        rw [State.outcome_moved hda hma, State.outcome_moved hdb hmb]
        exact agrees_outcome hg hn t u _ _ (ha.advance hma) (hb.advance hmb) hj' huc
termination_by State.measure o.maxReparseDepth a
decreasing_by
  · exact State.advance_lt hda hma
  · exact State.advance_lt hda hma

/-! ### Reparses -/

/-- A state that scans the start of a text, and the one where this text and the one below it are one. -/
private theorem joined_of_input {t : State C n} {output : String} {outer : Cursor} {below : List Cursor}
    (hi : t.input = ⟨.ofString output, outer :: below⟩) (ha : t.active.runStart = 0) :
    t.situation.Joined output.toList outer.rest
      ({ t with input := ⟨.ofChars (output.toList ++ outer.rest), below⟩ } : State C n).situation := by
  refine ⟨?_, ?_, ?_, rfl⟩
  · show Seam _ _ (t.input.current.rest :: (t.input.suspended.map Cursor.left).map (·.rest))
      ((output.toList ++ outer.rest) :: (below.map Cursor.left).map (·.rest))
    rw [hi]
    exact .here List.suffix_rfl
  · -- neither run has read anything of its text
    show (t.active.settle t.input.current).Alike (t.active.settle (.ofChars _))
    rw [OpenBlock.settle_of_runStart (by rw [ha, hi]; rfl), OpenBlock.settle_of_runStart (by rw [ha]; rfl)]
    exact .refl _
  · show List.Forall₂ _ (t.around.map _) (t.around.map _)
    exact List.forall₂_same.2 fun b _ => .refl b

/-- Scanning the output of a block in place of what is left of a text, which is taken up again afterwards, comes to the
same as scanning the output and what is left of the text as one text: if no rule finds something else where the two
meet, and if the number of suspended texts stays within the limit. -/
theorem outcome_reparse {d : Definition C} {g : Grammar C} (hg : d.resolve = .ok g) {o : Options} {text : String}
    {context : C} {s t : State C g.size} (hs : Reachable g o text context s) (ht : s.advance g o = .moved t)
    (hd : s.input.depth < t.input.depth) :
    ∃ (output : String) (outer : Cursor) (below : List Cursor) (h₁ : t.input.depth ≤ o.maxReparseDepth)
      (h₂ : below.length ≤ o.maxReparseDepth),
      t.input = ⟨.ofString output, outer :: below⟩ ∧ t.active.runStart = 0 ∧
        (Seamless g output.toList outer.rest →
          (∀ block limit, (t.outcome g o h₁).result ≠ .error (.reparseLimit block limit)) →
          let u : State C g.size := { t with input := ⟨.ofChars (output.toList ++ outer.rest), below⟩ }
          (∀ p, (t.outcome g o h₁).result = .ok p ↔ (u.outcome g o h₂).result = .ok p) ∧
            (t.outcome g o h₁).context = (u.outcome g o h₂).context) := by
  have hr : State.StartsReparse s t := by
    rcases State.startsReparse_or ht with hr | ⟨hle, -⟩
    · exact hr
    · exact absurd hd (Nat.not_lt.2 hle)
  obtain ⟨output, outer, hi⟩ := hr.input
  have hroot := (Definition.root_of_resolve hg).2
  have hsound := (hs.step ht).sound
  have h₁ : t.input.depth ≤ o.maxReparseDepth := (hs.step ht).depth_le
  refine ⟨output, outer, s.input.suspended, h₁, hs.depth_le, hi, hr.runStart, fun hn hl => ?_⟩
  let u : State C g.size := { t with input := ⟨.ofChars (output.toList ++ outer.rest), s.input.suspended⟩ }
  have hu : u.Sound g := by
    refine ⟨?_, hsound.specs, hsound.root⟩
    show Cursor.Passed _ t.active.runStart
    rw [hr.runStart]
    exact Cursor.passed_zero _
  have hagree := agrees_outcome hroot hn t u h₁ hs.depth_le hsound hu (joined_of_input hi hr.runStart) rfl
  exact hagree.ok_iff hl

/-- A list is opened by what is scanned again, and closed behind it. -/
theorem outcome_reparse_brackets :
    ∃ (g : Grammar Nat) (s t : State Nat g.size) (output : String) (outer : Cursor) (below : List Cursor)
      (h₁ : t.input.depth ≤ 64) (h₂ : below.length ≤ 64),
      brackets.resolve = .ok g ∧ Reachable g {} "é[x(]y)" 0 s ∧ s.advance g {} = .moved t ∧
        s.input.depth < t.input.depth ∧ t.input = ⟨.ofString output, outer :: below⟩ ∧
        Seamless g output.toList outer.rest ∧ (t.outcome g {} h₁).result = .ok (.group [.text "éx", .text "y"]) ∧
        (State.outcome g {} { t with input := ⟨.ofChars (output.toList ++ outer.rest), below⟩ } h₂).result =
          .ok (.group [.text "éx", .text "y"]) := by
  have h : reaches brackets {} "é[x(]y)" 0 4 (fun g s =>
      (s.after g {} 1).any fun t =>
        decide (s.input.depth < t.input.depth) &&
          decide (Seamless g t.input.current.rest ((t.input.suspended.map (·.rest)).headD [])) &&
          if h : t.input.depth ≤ 64 then
            decide ((t.outcome g {} h).result = (.ok (.group [.text "éx", .text "y"]) : Except Error Part))
          else false) = true := by
    cbv
  obtain ⟨g, s, hg, hs, h⟩ := exists_of_reaches h
  simp only [Option.any_eq_true, Bool.and_eq_true, decide_eq_true_eq] at h
  obtain ⟨t, ht, ⟨hd, hn⟩, hr⟩ := h
  have ht := State.advance_of_after ht
  obtain ⟨output, outer, below, h₁, h₂, hi, -, hout⟩ := outcome_reparse hg hs ht hd
  rw [dif_pos h₁] at hr
  have hr := of_decide_eq_true hr
  have hn : Seamless g output.toList outer.rest := by
    rw [hi] at hn
    exact hn
  obtain ⟨hp, -⟩ := hout hn (by rw [hr]; simp)
  exact ⟨g, s, t, output, outer, below, h₁, h₂, hg, hs, ht, hd, hi, hn, hr, (hp _).1 hr⟩

end Delimited.Scan
