import Mathlib
import Delimited.Proofs.Scan.Extension

/-!
# Blocks that are open at the end

A scan that closes what is open at the end of its text closes the same blocks as a scan that finds the stops of these
blocks behind the text. The two are followed side by side (`Situation.Closing`). What a block gives that is scanned again
has no marks: no delimiter and no rule is found in it, so all that scanning it does is to read it. The two scans take the
same steps, except that the first one counts all reparses that it starts at the end, and may not start one that the
second one starts (`Situation.Closing.advance`).

So the two scans give the same, unless the second one starts more reparses behind the text than texts may be suspended.
Then the first one fails in place of the first reparse that is one too many (`scan_close_eq_or`).
-/

namespace Delimited.Scan

variable {C : Type} {n : Nat} {α β : Type}

/-! ### Texts without marks -/

/-- A character of a delimiter or of a literal rule. -/
def IsMark (g : Grammar C) (c : Char) : Prop :=
  ∃ slot, (∃ d ∈ (g.spec slot).start, c ∈ d.chars) ∨ (∃ d ∈ (g.spec slot).stop, c ∈ d.chars) ∨
    ∃ r ∈ rules (g.spec slot), c ∈ literalChars r

instance (g : Grammar C) (c : Char) : Decidable (IsMark g c) := inferInstanceAs (Decidable (∃ _, _))

/-- The blocks that are scanned again give no text with marks. -/
def Unmarked (g : Grammar C) : Prop :=
  ∀ slot, (g.spec slot).reparses = true → ∀ h ∈ (g.spec slot).handler, ∀ p c text c',
    h p c = (.ok (.text text), c') → ∀ x ∈ text.toList, ¬ IsMark g x

/-- A character that is no mark is text. -/
theorem SingleCharacters.nextMove_of_not_isMark {g : Grammar C} (hg : SingleCharacters g) (slot : Fin g.size) {c : Char}
    (hc : ¬ IsMark g c) (rest : List Char) : nextMove g (g.spec slot) (c :: rest) = .char := by
  -- nothing is found, as at the end of a text
  rw [← nextMove_nil g (g.spec slot)]
  have hne : ∀ d : Delimiter, c ∉ d.chars → (d.chars == [c]) = false := by
    intro d hd
    rw [beq_eq_false_iff_ne]
    intro h
    exact hd (by rw [h]; exact List.mem_singleton_self c)
  refine nextMove_congr (fun d hd => ?_) fun r hr => ?_
  · obtain ⟨k, hk⟩ := hg.start_or_stop_of_mem hd
    have hcd : c ∉ d.chars := fun h => hc ⟨k, hk.imp (fun hk => ⟨d, hk, h⟩) fun hk => Or.inl ⟨d, hk, h⟩⟩
    rw [starts_cons (hg.length_of_mem hd), hne d hcd, starts_nil]
  · cases r with
    | literal d =>
      have hcd : c ∉ d.chars := fun h => hc ⟨slot, Or.inr (Or.inr ⟨_, hr, h⟩)⟩
      have hd : d.chars.length = 1 := hg.rules slot _ hr
      unfold Rule.matchStart?
      dsimp only
      rw [starts_cons hd, hne d hcd, starts_nil]
    | pattern p => exact absurd (hg.rules slot _ hr) (by simp [literalChars])

/-! ### Effects of handlers -/

/-- When the effect fails, it is not because too many texts are suspended. -/
def Effect.Unlimited (x : Effect C α) : Prop := ∀ c block limit, (x c).1 ≠ .error (.reparseLimit block limit)

namespace Effect.Unlimited

theorem pure (a : α) : Unlimited (pure a : Effect C α) := by
  intro c block limit h
  cases h

theorem bind {x : Effect C α} {f : α → Effect C β} (hx : x.Unlimited) (hf : ∀ a, (f a).Unlimited) :
    (x >>= f).Unlimited := by
  intro c block limit h
  rw [bind_apply] at h
  split at h
  · exact hf _ _ _ _ h
  · rename_i e c₁ he
    cases h
    exact hx c block limit (congrArg Prod.fst he)

theorem handle (h : Handler C) (block : String) (p : Part) : (handle h block p).Unlimited := by
  intro c block' limit he
  unfold Scan.handle at he
  split at he
  · cases he
  · cases he

end Effect.Unlimited

namespace OpenBlock

private theorem unlimited_offer (isRoot : Bool) (h : Option (Handler C)) (p : Part) (b : OpenBlock C n) :
    (b.offer isRoot h p).Unlimited := by
  unfold offer
  cases h with
  | none => exact .pure p
  | some h =>
    dsimp only
    split
    · exact .handle h b.name p
    · exact .pure p

private theorem unlimited_flush (isRoot : Bool) (k : Boundary) (b : OpenBlock C n) : (b.flush isRoot k).Unlimited := by
  unfold flush
  cases b.fragment? k with
  | none => exact .pure b
  | some r => exact (unlimited_offer _ _ _ _).bind fun _ => .pure _

private theorem unlimited_receive (isRoot : Bool) (p : Part) (b : OpenBlock C n) : (b.receive isRoot p).Unlimited :=
  (unlimited_offer _ _ _ _).bind fun _ => .pure _

private theorem unlimited_value (b : OpenBlock C n) : b.value.Unlimited := by
  unfold value
  cases b.spec.handler with
  | none => exact .pure _
  | some h => exact .handle h _ _

end OpenBlock

/-! ### Blocks and their stops -/

/-- The specs of the open blocks but for the root, innermost first. -/
def nested (b : OpenBlock C n) : List (OpenBlock C n) → List (Spec C n)
  | [] => []
  | outer :: around => b.spec :: nested outer around

/-- The root is the last of the open blocks. -/
theorem nested_eq (b : OpenBlock C n) (around : List (OpenBlock C n)) :
    nested b around = ((b :: around).map (·.spec)).dropLast := by
  induction around generalizing b with
  | nil => rfl
  | cons outer around ih =>
    rw [nested, ih]
    rfl

private theorem nested_congr {b b' : OpenBlock C n} (h : b'.spec = b.spec) (around : List (OpenBlock C n)) :
    nested b' around = nested b around := by
  cases around with
  | nil => rfl
  | cons outer around => exact congrArg (· :: _) h

/-- The stops of blocks, in order. -/
def stops (specs : List (Spec C n)) : List Char := specs.flatMap fun s => s.stop.elim [] Delimiter.chars

/-- What is left of the texts of two scans that close the same blocks: nothing of the text of the first one, and of the
second one what it awaits. In place of this both may be scanning an output without marks. -/
inductive Remaining (g : Grammar C) (awaited : List Char) : Left → List Left → Left → List Left → Prop
  | bottom {x y : Left} (hx : x.rest = []) (hy : y.rest = awaited) : Remaining g awaited x [] y []
  | output {x y t : Left} (hx : x.rest = []) (hy : y.rest = awaited) (ht : ∀ c ∈ t.rest, ¬ IsMark g c) :
    Remaining g awaited t [x] t [y]

namespace Situation

/-- The same blocks are being closed, in the first situation at the end of its text, and in the second one at their
stops. -/
structure Closing (g : Grammar C) (a b : Situation C g.size) : Prop where
  active : b.active = a.active
  around : b.around = a.around
  specs : ∀ x ∈ a.active :: a.around, ∃ slot, x.spec = g.spec slot
  closable : ∀ spec ∈ nested a.active a.around, spec.stop ≠ none
  texts : Remaining g (stops (nested a.active a.around)) a.text a.suspended b.text b.suspended
  endReparses : b.endReparses = 0

/-- What two effects have come to that take the next step of two situations in which the same blocks are being closed. -/
inductive Together (g : Grammar C) (limit : Nat) (a b : Situation C g.size) :
    Except Error (Situation C g.size) × C → Except Error (Situation C g.size) × C → Prop
  /-- A handler fails. -/
  | failed {e : Error} {c : C} (he : ∀ block limit, e ≠ .reparseLimit block limit) :
    Together g limit a b (.error e, c) (.error e, c)
  /-- Both go on. If a reparse has been started, the first one counts it, and was allowed to start it. -/
  | moved {a' b' : Situation C g.size} {c : C} (h : Closing g a' b')
      (hl : b.suspended.length < b'.suspended.length → a.endReparses < limit)
      (he : a'.endReparses = if b.suspended.length < b'.suspended.length then a.endReparses + 1 else a.endReparses) :
    Together g limit a b (.ok a', c) (.ok b', c)
  /-- Only the second one is allowed to start a reparse. -/
  | refused {a' b' : Situation C g.size} {c : C} (h : Closing g a' b') (hl : limit ≤ a.endReparses)
      (hd : b.suspended.length < b'.suspended.length) :
    Together g limit a b (.error (.reparseLimit b.active.name limit), c) (.ok b', c)

/-- Both do the same at first, which the limit does not stop. -/
theorem Together.bind {g : Grammar C} {limit : Nat} {a b : Situation C g.size} {x : Effect C α}
    {f f' : α → Effect C (Situation C g.size)} {p : α → Prop} (hx : x.Unlimited) (hp : x.Ensures p)
    (hf : ∀ v, p v → ∀ c, Together g limit a b (f v c) (f' v c)) (c : C) :
    Together g limit a b ((x >>= f) c) ((x >>= f') c) := by
  have hne := hx c
  rw [Effect.bind_apply, Effect.bind_apply]
  rcases hxc : x c with ⟨e | v, c₁⟩
  · refine .failed fun block limit he => hne block limit ?_
    rw [hxc, he]
  · exact hf v (hp _ _ _ hxc) c₁

/-- Closing a block that does not keep its delimiters, while no text is suspended. -/
private theorem close_of_not_keepDelimiters {left : Left} {b outer : OpenBlock C n} {around : List (OpenBlock C n)}
    {e : Nat} (hk : b.spec.keepDelimiters = false) (limit : Nat) (stop : Option Delimiter) :
    Situation.close limit stop ⟨left, [], b, outer :: around, e⟩ = (do
      let b ← b.flush false .stop
      let p ← b.value
      let left := left.skip (stop.elim [] Delimiter.chars)
      match State.again? b p with
      | some text =>
        if limit ≤ e then throw (.reparseLimit b.name limit)
        else return ⟨.ofString text, [left], outer, around, if stop.isNone then e + 1 else e⟩
      | none => do
        let outer ← outer.flush around.isEmpty .block
        return ⟨left, [], ← outer.receive around.isEmpty p, around, e⟩) := by
  simp only [close, endRun, bind_assoc, pure_bind]
  refine OpenBlock.bind_flush_congr fun b' hb => ?_
  have hs : b'.addStop stop = b' := by
    rw [← OpenBlock.spec_of_title hb] at hk
    cases stop <;> simp [OpenBlock.addStop, hk]
  rw [hs]
  refine bind_congr fun p => ?_
  cases State.again? b' p with
  | none => simp only [receive, endRun, bind_assoc, pure_bind]; rfl
  | some text =>
    simp only [scanAgain, List.length_nil, Nat.zero_add]

/-- The output of a block that is scanned again has no marks. -/
theorem ensures_value {g : Grammar C} (hq : Unmarked g) {b : OpenBlock C g.size} {slot : Fin g.size}
    (hslot : b.spec = g.spec slot) :
    b.value.Ensures fun p => ∀ text ∈ State.again? b p, ∀ c ∈ text.toList, ¬ IsMark g c := by
  intro c p c' hp text ht
  obtain ⟨hr, rfl⟩ := State.again?_eq_some ht
  obtain ⟨h, hh⟩ := Option.isSome_iff_exists.1 (Bool.and_eq_true_iff.1 hr).2
  unfold OpenBlock.value at hp
  rw [hh] at hp
  have hout : h (.group b.parts.toList) c = (.ok (.text text), c') := by
    unfold handle at hp
    dsimp only at hp
    split at hp
    · rename_i q c₁ hq
      cases hp
      exact hq
    · cases hp
  rw [hslot] at hr hh
  exact hq slot hr h hh _ _ _ _ hout

namespace Closing

variable {g : Grammar C} {limit : Nat} {a b : Situation C g.size}

theorem finish_eq (h : Closing g a b) : b.finish = a.finish := by
  unfold finish atRoot
  rw [h.active, h.around]

theorem congr {x : OpenBlock C g.size} (h : Closing g a b) (hx : x.spec = a.active.spec) :
    Closing g { a with active := x } { b with active := x } := by
  refine ⟨rfl, h.around, ?_, ?_, ?_, h.endReparses⟩
  · intro y hy
    rcases List.mem_cons.1 hy with rfl | hy
    · rw [hx]
      exact h.specs _ List.mem_cons_self
    · exact h.specs y (List.mem_cons_of_mem _ hy)
  · exact nested_congr hx a.around ▸ h.closable
  · exact nested_congr hx a.around ▸ h.texts

/-- The innermost block is closed at the end, and at its stop. -/
private theorem close (hg : SingleCharacters g) (hq : Unmarked g) (hl : 1 ≤ limit) {x y : Left}
    {inner outer : OpenBlock C g.size} {around : List (OpenBlock C g.size)} {e : Nat} {stop : Delimiter}
    (h : Closing g ⟨x, [], inner, outer :: around, e⟩ ⟨y, [], inner, outer :: around, 0⟩) (hx : x.rest = [])
    (hy : y.rest = stop.chars ++ stops (nested outer around)) (c : C) :
    Together g limit ⟨x, [], inner, outer :: around, e⟩ ⟨y, [], inner, outer :: around, 0⟩
      (Situation.close limit none ⟨x, [], inner, outer :: around, e⟩ c)
      (Situation.close limit (some stop) ⟨y, [], inner, outer :: around, 0⟩ c) := by
  obtain ⟨slot, hslot⟩ := h.specs inner List.mem_cons_self
  have hk : inner.spec.keepDelimiters = false := by rw [hslot]; exact hg.keepDelimiters slot
  have hspecs : ∀ z ∈ outer :: around, ∃ slot, z.spec = g.spec slot := fun z hz =>
    h.specs z (List.mem_cons_of_mem _ hz)
  have hstops : ∀ spec ∈ nested outer around, spec.stop ≠ none := fun spec hspec =>
    h.closable spec (List.mem_cons_of_mem _ hspec)
  have hx' : (x.skip []).rest = [] := hx
  have hy' : (y.skip stop.chars).rest = stops (nested outer around) := by simp [Left.skip, hy]
  rw [close_of_not_keepDelimiters hk, close_of_not_keepDelimiters hk]
  refine Together.bind (OpenBlock.unlimited_flush _ _ _) (OpenBlock.ensures_flush _ _ _) (fun z hz => ?_) c
  refine Together.bind (OpenBlock.unlimited_value z)
    (ensures_value hq ((OpenBlock.spec_of_title hz).trans hslot)) fun p hp => ?_
  cases ht : State.again? z p with
  | some text =>
    intro c
    have hagain : Closing g ⟨.ofString text, [x.skip []], outer, around, e + 1⟩
        ⟨.ofString text, [y.skip stop.chars], outer, around, 0⟩ :=
      ⟨rfl, rfl, hspecs, hstops, .output hx' hy' (hp text ht), rfl⟩
    have h₀ : ¬ limit ≤ 0 := by omega
    dsimp only
    rw [if_neg h₀]
    by_cases he : limit ≤ e
    · rw [if_pos he, show z.name = inner.name from congrArg Prod.fst hz]
      exact .refused hagain he (Nat.lt_succ_self 0)
    · rw [if_neg he]
      exact .moved hagain (fun _ => Nat.lt_of_not_le he) rfl
  | none =>
    refine Together.bind (OpenBlock.unlimited_flush _ _ _) (OpenBlock.ensures_flush _ _ _) fun o ho => ?_
    refine Together.bind (OpenBlock.unlimited_receive _ _ _) (OpenBlock.ensures_receive _ _ _) fun o' ho' c => ?_
    have hspec : o'.spec = outer.spec := OpenBlock.spec_of_title (ho'.trans ho)
    have hout : Closing g ⟨x.skip [], [], outer, around, e⟩ ⟨y.skip stop.chars, [], outer, around, 0⟩ :=
      ⟨rfl, rfl, hspecs, hstops, .bottom hx' hy', rfl⟩
    exact .moved (hout.congr hspec) (fun hd => absurd hd (Nat.lt_irrefl _)) rfl

/-- In front of its stop the innermost block is closed. -/
private theorem advance_of_stop (hg : SingleCharacters g) (o : Options) {s : Situation C g.size} {slot : Fin g.size}
    {stop : Delimiter} {rest : List Char} (hslot : s.active.spec = g.spec slot) (hstop : s.active.spec.stop = some stop)
    (hr : s.text.rest = stop.chars ++ rest) : s.advance g o = some <$> s.close o.maxReparseDepth (some stop) := by
  have hm : nextMove g s.active.spec s.text.rest = .close stop := by
    refine nextMove_eq_close (by rw [hslot, hg.escapedStop slot]; simp) hstop ?_
    rw [hr]
    exact List.isPrefixOf_iff_prefix.2 (List.prefix_append _ _)
  rw [advance_of_ne_nil o (by simp [hr, stop.ne_nil]), hm]
  rfl

/-- A character of an output joins the run. -/
private theorem advance_of_not_isMark (hg : SingleCharacters g) (o : Options) {s : Situation C g.size}
    {slot : Fin g.size} {c : Char} {rest : List Char} (hslot : s.active.spec = g.spec slot)
    (hr : s.text.rest = c :: rest) (hc : ¬ IsMark g c) :
    s.advance g o =
      pure (some { s with text := s.text.skip [c], active := s.active.addText (String.ofList [c]) }) := by
  have hm : nextMove g s.active.spec s.text.rest = .char := by
    rw [hslot, hr]
    exact hg.nextMove_of_not_isMark slot hc rest
  rw [advance_of_ne_nil o (by simp [hr]), hm]
  unfold makeMove
  dsimp only
  rw [hr]
  rfl

/-- Both situations are at their end, or they take the next step together. -/
theorem advance (hg : SingleCharacters g) (hq : Unmarked g) (hl : 1 ≤ limit) (h : Closing g a b) :
    (a.advance g ⟨limit, .close⟩ = pure none ∧ b.advance g ⟨limit, .error⟩ = pure none) ∨
      ∃ x y : Effect C (Situation C g.size), a.advance g ⟨limit, .close⟩ = some <$> x ∧
        b.advance g ⟨limit, .error⟩ = some <$> y ∧ ∀ c, Together g limit a b (x c) (y c) := by
  obtain ⟨x, xs, inner, around, e⟩ := a
  obtain ⟨y, ys, inner', around', e'⟩ := b
  obtain rfl : inner = inner' := h.active.symm
  obtain rfl : around = around' := h.around.symm
  obtain rfl : e' = 0 := h.endReparses
  obtain ⟨-, -, hspecs, hstops, htexts, -⟩ := id h
  obtain ⟨slot, hslot⟩ := hspecs inner List.mem_cons_self
  dsimp only at hspecs hstops htexts hslot
  cases htexts with
  | bottom hx hy =>
    cases around with
    | nil => exact Or.inl ⟨advance_of_nil _ hx rfl rfl, advance_of_nil _ hy rfl rfl⟩
    | cons outer around =>
      obtain ⟨stop, hstop⟩ := Option.ne_none_iff_exists'.1 (hstops inner.spec List.mem_cons_self)
      have hy : y.rest = stop.chars ++ stops (nested outer around) := by
        rw [hy]
        simp [nested, stops, hstop]
      exact Or.inr ⟨_, _, advance_of_close rfl hx rfl (List.cons_ne_nil _ _), advance_of_stop hg _ hslot hstop hy,
        h.close hg hq hl hx hy⟩
  | @output x' y' _ hx hy ht =>
    -- what is scanned is read to its end, and then what is left below it is taken up again
    refine Or.inr ?_
    cases hr : x.rest with
    | nil =>
      refine ⟨pure _, pure _, advance_of_suspended _ hr rfl, advance_of_suspended _ hr rfl, fun c => ?_⟩
      exact .moved ⟨rfl, rfl, hspecs, hstops, .bottom hx hy, rfl⟩ (fun hd => absurd hd (by simp)) (by simp)
    | cons c rest =>
      rw [hr] at ht
      obtain ⟨hc, hrest⟩ := List.forall_mem_cons.1 ht
      have hskip : ∀ c' ∈ (x.skip [c]).rest, ¬ IsMark g c' := by simpa [Left.skip, hr] using hrest
      refine ⟨pure _, pure _, advance_of_not_isMark hg _ hslot hr hc, advance_of_not_isMark hg _ hslot hr hc,
        fun c' => ?_⟩
      have hread : Closing g ⟨x.skip [c], [x'], inner, around, e⟩ ⟨x.skip [c], [y'], inner, around, 0⟩ :=
        ⟨rfl, rfl, hspecs, hstops, .output hx hy hskip, rfl⟩
      exact .moved (hread.congr rfl) (fun hd => absurd hd (Nat.lt_irrefl _)) rfl

end Closing

private theorem unlimited_finish (s : Situation C n) : s.finish.Unlimited :=
  (OpenBlock.unlimited_flush _ _ _).bind fun _ => .pure _

end Situation

/-! ### Closing at the end and closing at stops -/

namespace State

/-- Steps lead from one state to another, and so many reparses are started on the way. -/
inductive Restarts (g : Grammar C) (o : Options) : State C g.size → Nat → State C g.size → Prop
  | refl (s : State C g.size) : Restarts g o s 0 s
  | head {s t u : State C g.size} {i : Nat} (h : s.advance g o = .moved t) (hs : Restarts g o t i u) :
    Restarts g o s (if s.input.depth < t.input.depth then i + 1 else i) u

variable {g : Grammar C} {o : Options} {limit : Nat} {s : State C g.size}

/-- No reparse is started from a state that does not go on. -/
theorem Restarts.eq_zero_of_stuck {t : State C g.size} {i : Nat} (h : Restarts g o s i t)
    (hs : ∀ u, s.advance g o ≠ .moved u) : i = 0 := by
  cases h with
  | refl => rfl
  | head h _ => exact absurd h (hs _)

/-- What a scan that closes blocks at the end gives (`x`), when it has started `e` reparses there, and a scan that goes on
from a state finds the stops of these blocks and gives `y`. -/
inductive ClosedAtEnd (g : Grammar C) (limit e : Nat) (s : State C g.size) (x y : Outcome C) : Prop
  /-- No more reparses are started than may be. -/
  | within (hs : ∀ i t, Restarts g ⟨limit, .error⟩ s i t → e + i ≤ limit)
    (h : (x.result, x.context) = (y.result, y.context))
  /-- One more reparse is started than may be. -/
  | beyond {i : Nat} {t u : State C g.size} (hs : Restarts g ⟨limit, .error⟩ s i t) (hi : e + i = limit)
    (ht : t.advance g ⟨limit, .error⟩ = .moved u) (hd : t.input.depth < u.input.depth)
    (h : (x.result, x.context) = (.error (.reparseLimit t.active.name limit), u.context))

private theorem ClosedAtEnd.of_stuck {e : Nat} {x y : Outcome C} (he : e ≤ limit)
    (hs : ∀ u, s.advance g ⟨limit, .error⟩ ≠ .moved u) (h : (x.result, x.context) = (y.result, y.context)) :
    ClosedAtEnd g limit e s x y :=
  .within (fun i t ht => by rw [ht.eq_zero_of_stuck hs]; exact he) h

private theorem count_add (p : Prop) [Decidable p] (e i : Nat) :
    (if p then e + 1 else e) + i = e + if p then i + 1 else i := by
  split
  · omega
  · rfl

/-- One step earlier, when the reparse that it starts has been counted. -/
theorem ClosedAtEnd.head {e : Nat} {t : State C g.size} {x y : Outcome C} (he : e ≤ limit)
    (ht : s.advance g ⟨limit, .error⟩ = .moved t)
    (h : ClosedAtEnd g limit (if s.input.depth < t.input.depth then e + 1 else e) t x y) :
    ClosedAtEnd g limit e s x y := by
  cases h with
  | within hs h =>
    refine .within (fun i u hu => ?_) h
    cases hu with
    | refl => exact he
    | head h' hu =>
      obtain rfl := Progress.moved.inj (ht.symm.trans h')
      rw [← count_add]
      exact hs _ _ hu
  | beyond hs hi hu hd h =>
    rw [count_add] at hi
    exact .beyond (.head ht hs) hi hu hd h

private theorem length_suspended (s : State C n) : s.situation.suspended.length = s.input.depth := List.length_map _

/-- Closing blocks at their stops never fails because too many texts are suspended. -/
theorem result_of_closing (hg : SingleCharacters g) (hq : Unmarked g) (hroot : g.root.stop = none) (hl : 1 ≤ limit)
    (b : State C g.size) (hd : b.input.depth ≤ limit) (hb : b.Sound g) {a : Situation C g.size}
    (h : a.Closing g b.situation) (block : String) (k : Nat) :
    (b.outcome g ⟨limit, .error⟩ hd).result ≠ .error (.reparseLimit block k) := by
  have hob := observe_advance (o := ⟨limit, .error⟩) hb hroot
  rcases h.advance hg hq hl with ⟨-, hn⟩ | ⟨x, y, -, hy, ht⟩
  · rw [hn] at hob
    obtain ⟨t, hm, -⟩ := Progress.of_observe_none hob
    have hf := outcome_ended hd hm
    exact fun hr => Situation.unlimited_finish _ _ block k ((congrArg Prod.fst hf).symm.trans hr)
  · rw [hy, map_eq_pure_bind, Effect.bind_apply] at hob
    have ht := ht b.context
    generalize x b.context = p at ht
    generalize y b.context = q at hob ht
    cases ht with
    | failed he =>
      obtain ⟨f, hm, hf, -⟩ := Progress.of_observe_error hob
      rw [outcome_failed hd hm, hf]
      exact fun hn => he block k (Except.error.inj hn)
    | moved h' _ _ =>
      obtain ⟨t, hm, rfl, -⟩ := Progress.of_observe_some hob
      rw [outcome_moved hd hm]
      exact result_of_closing hg hq hroot hl t _ (hb.advance hm) h' block k
    | refused h' _ _ =>
      obtain ⟨t, hm, rfl, -⟩ := Progress.of_observe_some hob
      rw [outcome_moved hd hm]
      exact result_of_closing hg hq hroot hl t _ (hb.advance hm) h' block k
termination_by measure limit b
decreasing_by
  · exact advance_lt hd hm
  · exact advance_lt hd hm

/-- What comes out of closing blocks at the end, and of closing them at their stops. -/
theorem closedAtEnd_of_closing (hg : SingleCharacters g) (hq : Unmarked g) (hroot : g.root.stop = none) (hl : 1 ≤ limit)
    (a b : State C g.size) (hda : a.input.depth ≤ limit) (hdb : b.input.depth ≤ limit) (ha : a.Sound g) (hb : b.Sound g)
    (h : a.situation.Closing g b.situation) (hc : b.context = a.context) (he : a.endReparses ≤ limit) :
    ClosedAtEnd g limit a.endReparses b (a.outcome g ⟨limit, .close⟩ hda) (b.outcome g ⟨limit, .error⟩ hdb) := by
  have hoa := observe_advance (o := ⟨limit, .close⟩) ha hroot
  have hob := observe_advance (o := ⟨limit, .error⟩) hb hroot
  rw [hc] at hob
  rcases h.advance hg hq hl with ⟨hna, hnb⟩ | ⟨x, y, hx, hy, ht⟩
  · rw [hna] at hoa
    rw [hnb] at hob
    obtain ⟨t, hma, -⟩ := Progress.of_observe_none hoa
    obtain ⟨u, hmb, -⟩ := Progress.of_observe_none hob
    refine .of_stuck he (by rw [hmb]; simp) ?_
    rw [outcome_ended hda hma, outcome_ended hdb hmb, h.finish_eq, hc]
  · rw [hx, map_eq_pure_bind, Effect.bind_apply] at hoa
    rw [hy, map_eq_pure_bind, Effect.bind_apply] at hob
    have ht := ht a.context
    generalize x a.context = p at hoa ht
    generalize y a.context = q at hob ht
    cases ht with
    | failed _ =>
      obtain ⟨f, hma, rfl, hca⟩ := Progress.of_observe_error hoa
      obtain ⟨f', hmb, hf, hcb⟩ := Progress.of_observe_error hob
      refine .of_stuck he (by rw [hmb]; simp) ?_
      rw [outcome_failed hda hma, outcome_failed hdb hmb, hf, hca, hcb]
    | moved h' hlt heq =>
      obtain ⟨t, hma, rfl, hca⟩ := Progress.of_observe_some hoa
      obtain ⟨u, hmb, rfl, hcb⟩ := Progress.of_observe_some hob
      rw [length_suspended, length_suspended] at hlt heq
      have heq : t.endReparses = if b.input.depth < u.input.depth then a.endReparses + 1 else a.endReparses := heq
      have hle : t.endReparses ≤ limit := by
        by_cases hd : b.input.depth < u.input.depth
        · rw [heq, if_pos hd]
          exact hlt hd
        · rw [heq, if_neg hd]
          exact he
      have hout := closedAtEnd_of_closing hg hq hroot hl t u (depth_advance hda hma) (depth_advance hdb hmb)
        (ha.advance hma) (hb.advance hmb) h' (hcb.trans hca.symm) hle
      rw [outcome_moved hda hma, outcome_moved hdb hmb]
      exact .head he hmb (heq ▸ hout)
    | refused _ hle hd =>
      obtain ⟨f, hma, hf, hca⟩ := Progress.of_observe_error hoa
      obtain ⟨u, hmb, rfl, hcb⟩ := Progress.of_observe_some hob
      rw [length_suspended, length_suspended] at hd
      refine .beyond (.refl b) (Nat.le_antisymm he hle) hmb hd ?_
      rw [outcome_failed hda hma, hf, hca, hcb]
      rfl
termination_by measure limit a
decreasing_by exact advance_lt hda hma

/-- The blocks of a situation have the specs of those of the state. -/
theorem specs_situation (s : State C n) :
    (s.situation.active :: s.situation.around).map (·.spec) = (s.opened ++ [s.root]).map (·.spec) := by
  rw [opened_append_root, List.map_cons, List.map_cons]
  show _ :: (s.around.map (·.goOnAt 0)).map (·.spec) = _
  rw [List.map_map]
  rfl

private theorem nested_situation (s : State C n) :
    nested s.situation.active s.situation.around = s.opened.map (·.spec) := by
  rw [nested_eq, specs_situation, List.map_append, List.map_singleton, List.dropLast_concat]

private theorem Sound.specs_situation (hs : s.Sound g) :
    ∀ b ∈ s.situation.active :: s.situation.around, ∃ slot, b.spec = g.spec slot := by
  intro b hb
  have hb := List.mem_map_of_mem (f := (·.spec)) hb
  rw [State.specs_situation] at hb
  obtain ⟨b', hb', he⟩ := List.mem_map.1 hb
  obtain ⟨slot, hslot⟩ := hs.specs b'.title (List.mem_map_of_mem hb')
  exact ⟨slot, he.symm.trans hslot⟩

/-- At the end of a text, and in front of the stops of the open blocks behind it, the same blocks are closed. -/
theorem closing_extend (hs : s.Sound g) (he : s.endReparses = 0) (hstop : ∀ b ∈ s.opened, b.spec.stop ≠ none)
    (hsus : s.input.suspended = []) (hrest : s.input.current.rest = []) :
    s.situation.Closing g (s.situation.extend (stops (s.opened.map (·.spec)))) := by
  have hs' : s.situation.suspended = [] := List.map_eq_nil_iff.2 hsus
  rw [Situation.extend_of_nil hs']
  refine ⟨rfl, rfl, hs.specs_situation, ?_, ?_, he⟩
  · rw [nested_situation]
    intro spec hspec
    obtain ⟨b, hb, rfl⟩ := List.mem_map.1 hspec
    exact hstop b hb
  · have hrest' : s.situation.text.rest = [] := hrest
    rw [nested_situation, hs']
    exact .bottom hrest' (by rw [Left.append, hrest', List.nil_append])

end State

open State in
/-- Closing the blocks that are open at the end, compared with finding their stops behind the text. The scan that finds
the stops comes to a state `v` that differs only by the stops that are left. From there it never fails because too many
texts are suspended. If it starts no more reparses than texts may be suspended, then closing at the end gives the same,
and leaves the same context. Otherwise closing at the end fails in place of the first reparse that is one too many, for
the block that has given what is to be scanned again, and leaves the context that this block has left. -/
theorem scan_close_eq_or {d : Definition C} {g : Grammar C} (hg : d.resolve = .ok g) (hs : SingleCharacters g)
    (hq : Unmarked g) {limit : Nat} (hl : 1 ≤ limit) {text : String} {context : C} {s : State C g.size}
    (hr : Reachable g ⟨limit, .error⟩ text context s) (hrest : s.input.current.rest = [])
    (hsus : s.input.suspended = []) (hstop : ∀ b ∈ s.opened, b.spec.stop ≠ none) :
    let awaited := stops (s.opened.map (·.spec))
    let atEnd := scan g ⟨limit, .close⟩ text context
    let atStops := scan g ⟨limit, .error⟩ (text ++ String.ofList awaited) context
    ∃ v, Reachable g ⟨limit, .error⟩ (text ++ String.ofList awaited) context v ∧
      v.situation = s.situation.extend awaited ∧ v.context = s.context ∧
      (∀ block k, atStops.result ≠ .error (.reparseLimit block k)) ∧
      ((∀ i w, Restarts g ⟨limit, .error⟩ v i w → i ≤ limit) ∧
          (atEnd.result, atEnd.context) = (atStops.result, atStops.context) ∨
        ∃ w w', Restarts g ⟨limit, .error⟩ v limit w ∧ w.advance g ⟨limit, .error⟩ = .moved w' ∧
          w.input.depth < w'.input.depth ∧
          (atEnd.result, atEnd.context) = (.error (.reparseLimit w.active.name limit), w'.context)) := by
  have hroot := (Definition.root_of_resolve hg).2
  have hsound := hr.sound
  obtain ⟨k, e, hsteps⟩ := hr
  have he : s.endReparses = 0 :=
    hsteps.invariant (P := fun t => t.endReparses = 0) (fun _ _ h hm => (endReparses_of_moved rfl hm).trans h) rfl
  -- both scans come to where the blocks are closed
  have hd₀ : ∀ text, (start g text context).input.depth ≤ limit := fun _ => Nat.zero_le _
  obtain ⟨hu, ha⟩ := outcome_of_steps (o := ⟨limit, .error⟩) ⟨limit, .close⟩ rfl rfl hsteps (hd₀ text)
  obtain ⟨v, hv, ⟨e', hsteps'⟩, hsit, hc, hb⟩ := exists_extended hs hroot rfl hsteps (.start g text context)
    (.start g _ context) (hd₀ _) (situation_start_append text (stops (s.opened.map (·.spec))) context) rfl
  have hr' : Reachable g ⟨limit, .error⟩ _ context v := ⟨k, e', hsteps'⟩
  have hclosing := hsit ▸ closing_extend hsound he hstop hsus hrest
  intro awaited atEnd atStops
  have hatEnd : atEnd = s.outcome g ⟨limit, .close⟩ hu := ha
  have hatStops : atStops = v.outcome g ⟨limit, .error⟩ hv := hb
  have hclosed := closedAtEnd_of_closing hs hq hroot hl s v hu hv hsound hr'.sound hclosing hc (by omega)
  rw [hatEnd, hatStops]
  refine ⟨v, hr', hsit, hc, result_of_closing hs hq hroot hl v hv hr'.sound hclosing, ?_⟩
  cases hclosed with
  | within hw h => exact Or.inl ⟨fun i w hi => by have := hw i w hi; omega, h⟩
  | @beyond i w w' hw hi hm hd h =>
    obtain rfl : i = limit := by omega
    exact Or.inr ⟨w, w', hw, hm, hd, h⟩

/-- What is in brackets is crossed out, and the cross is scanned again. -/
def crossed : Definition Unit :=
  .mk {} none
    [("a", .inline (.mk
      { start := some "[", stop := some "]", handler := some fun _ c => (.ok (.text "x"), c), reparse := true } none
      [("a", .ref "/blocks/a")]))]

private theorem unmarked_crossed {g : Grammar Unit} (hg : crossed.resolve = .ok g) (hx : ¬ IsMark g 'x') :
    Unmarked g := by
  intro slot _ h hh p c text c' ht x hmem
  have handlers : ∀ k : Fin crossed.size, ∀ h ∈ (crossed.index.flat k).attributes.handler,
      (h p c).1 = .ok (.text "x")
    | ⟨0, _⟩, _, hn => by cases hn
    | ⟨1, _⟩, _, hs => by
      cases hs
      rfl
  obtain ⟨k, hk⟩ := Definition.handler_of_resolve hg slot
  rw [hk] at hh
  have he := handlers k h hh
  rw [ht] at he
  cases he
  rw [List.mem_singleton.1 hmem]
  exact hx

/-- Two blocks that are open at the end are closed within the limit. -/
theorem scan_close_eq_or_crossed :
    ∃ (g : Grammar Unit) (s : State Unit g.size), crossed.resolve = .ok g ∧ SingleCharacters g ∧ Unmarked g ∧
      Reachable g ⟨2, .error⟩ "[[y" () s ∧ s.input.current.rest = [] ∧ s.input.suspended = [] ∧
      (∀ b ∈ s.opened, b.spec.stop ≠ none) ∧ stops (s.opened.map (·.spec)) = [']', ']'] ∧
      (scan g ⟨2, .close⟩ "[[y" ()).result = .ok (.text "x") ∧
      (scan g ⟨2, .error⟩ "[[y]]" ()).result = .ok (.text "x") := by
  have h : reaches crossed ⟨2, .error⟩ "[[y" () 3 (fun g s => decide (SingleCharacters g ∧ ¬ IsMark g 'x' ∧
      s.input.current.rest = [] ∧ s.input.suspended.isEmpty ∧ (∀ b ∈ s.opened, b.spec.stop ≠ none) ∧
      stops (s.opened.map (·.spec)) = [']', ']']) &&
        match (scan g ⟨2, .close⟩ "[[y" ()).result with
        | .ok p => decide (p = .text "x")
        | _ => false) = true := by
    cbv
  obtain ⟨g, s, hg, hr, h⟩ := exists_of_reaches h
  obtain ⟨h, hout⟩ := Bool.and_eq_true_iff.1 h
  obtain ⟨hs, hx, hrest, hsus, hstop, hstops⟩ := of_decide_eq_true h
  have hsus := List.isEmpty_iff.1 hsus
  have hq := unmarked_crossed hg hx
  split at hout
  · rename_i p hp
    obtain rfl := of_decide_eq_true hout
    obtain ⟨v, -, -, -, -, ⟨-, heq⟩ | ⟨w, w', -, -, -, hn⟩⟩ := scan_close_eq_or hg hs hq (by decide) hr hrest hsus hstop
    · rw [hstops] at heq
      exact ⟨g, s, hg, hs, hq, hr, hrest, hsus, hstop, hstops, hp, (congrArg Prod.fst heq).symm.trans hp⟩
    · cases hp.symm.trans (congrArg Prod.fst hn)
  · cases hout

/-- With a limit of one, two such blocks cannot be closed at the end, although each of them can be closed at its stop. -/
theorem scan_close_ne :
    ∃ (g : Grammar Unit) (s : State Unit g.size), crossed.resolve = .ok g ∧ SingleCharacters g ∧ Unmarked g ∧
      Reachable g ⟨1, .error⟩ "[[y" () s ∧ s.input.current.rest = [] ∧ s.input.suspended = [] ∧
      (∀ b ∈ s.opened, b.spec.stop ≠ none) ∧ stops (s.opened.map (·.spec)) = [']', ']'] ∧
      (scan g ⟨1, .close⟩ "[[y" ()).result = .error (.reparseLimit "a" 1) ∧
      (scan g ⟨1, .error⟩ "[[y]]" ()).result = .ok (.text "x") := by
  have h : reaches crossed ⟨1, .error⟩ "[[y" () 3 (fun g s => decide (SingleCharacters g ∧ ¬ IsMark g 'x' ∧
      s.input.current.rest = [] ∧ s.input.suspended.isEmpty ∧ (∀ b ∈ s.opened, b.spec.stop ≠ none) ∧
      stops (s.opened.map (·.spec)) = [']', ']']) &&
        match (scan g ⟨1, .close⟩ "[[y" ()).result, (scan g ⟨1, .error⟩ "[[y]]" ()).result with
        | .error e, .ok p => decide (e = .reparseLimit "a" 1 ∧ p = .text "x")
        | _, _ => false) = true := by
    cbv
  obtain ⟨g, s, hg, hr, h⟩ := exists_of_reaches h
  obtain ⟨h, hout⟩ := Bool.and_eq_true_iff.1 h
  obtain ⟨hs, hx, hrest, hsus, hstop, hstops⟩ := of_decide_eq_true h
  refine ⟨g, s, hg, hs, unmarked_crossed hg hx, hr, hrest, List.isEmpty_iff.1 hsus, hstop, hstops, ?_⟩
  split at hout
  · rename_i e p he hp
    obtain ⟨rfl, rfl⟩ := of_decide_eq_true hout
    exact ⟨he, hp⟩
  · cases hout

end Delimited.Scan
