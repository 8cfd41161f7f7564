import Delimited.Proofs.Scan.Effect
import Delimited.Proofs.Scan.Rerooted

/-!
# Effects that are tracked

One effect tracks another when both give related values or both fail, in whatever contexts they are carried out. The
second one may also fail alone; then something is known of the value of the first one (`Effect.Tracks`). This goes
through binds when the second effect asks the handlers no less than the first one.

When their handlers answer the same in all contexts, blocks that differ at most in whether their text is scanned again
have effects that are tracked (`OpenBlock.Eased`).
-/

namespace Delimited

variable {C : Type} {n : Nat}

/-- The handler of the spec answers the same in all contexts. -/
def Spec.Steady (s : Spec C n) : Prop := ∀ h, s.handler = some h → h.Steady

namespace Scan

variable {α β α' β' : Type}

/-! ### Effects of which the second may fail first -/

namespace Effect

/-- What the effect gives does not depend on the context. -/
def Steady (x : Effect C α) : Prop := ∀ c c', (x c).1 = (x c').1

namespace Steady

theorem pure (a : α) : Steady (pure a : Effect C α) := fun _ _ => rfl

theorem bind {x : Effect C α} {f : α → Effect C β} (h : x.Steady) (hf : ∀ a, (f a).Steady) : (x >>= f).Steady := by
  intro c c'
  rw [bind_apply, bind_apply]
  have hc := h c c'
  generalize x c = p at hc
  generalize x c' = q at hc
  obtain ⟨r, d⟩ := p
  obtain ⟨r', d'⟩ := q
  obtain rfl : r = r' := hc
  cases r with
  | error e => rfl
  | ok a => exact hf a d d'

end Steady

end Effect

/-- Both have gone through with related values, or both have failed; or only the second one has failed, and then
something is known of the value of the first one. -/
inductive Tracked (R : α → β → Prop) (D : α → Prop) : Except Error α → Except Error β → Prop
  | ok {a : α} {b : β} (h : R a b) : Tracked R D (.ok a) (.ok b)
  | error (e e' : Error) : Tracked R D (.error e) (.error e')
  | early {a : α} (e : Error) (h : D a) : Tracked R D (.ok a) (.error e)

namespace Effect

/-- What the effects give is tracked, whatever the contexts are. -/
def Tracks (R : α → β → Prop) (D : α → Prop) (x : Effect C α) (y : Effect C β) : Prop :=
  ∀ c c', Tracked R D (x c).1 (y c').1

namespace Tracks

variable {R : α → β → Prop} {D : α → Prop} {S : α' → β' → Prop} {E : α' → Prop} {x : Effect C α} {y : Effect C β}

theorem pure {a : α} {b : β} (h : R a b) : Tracks R D (pure a : Effect C α) (pure b) := fun _ _ => .ok h

theorem throw (e e' : Error) : Tracks R D (throw e : Effect C α) (throw e') := fun _ _ => .error e e'

theorem bind {f : α → Effect C α'} {f' : β → Effect C β'} (h : Tracks R D x y)
    (hf : ∀ a b, R a b → Tracks S E (f a) (f' b)) (hd : ∀ a, D a → (f a).Ensures E) :
    Tracks S E (x >>= f) (y >>= f') := by
  intro c c'
  rw [bind_apply, bind_apply]
  have hc := h c c'
  generalize x c = p at hc
  generalize y c' = q at hc
  obtain ⟨r, d⟩ := p
  obtain ⟨r', d'⟩ := q
  cases hc with
  | ok h => exact hf _ _ h d d'
  | error => exact .error _ _
  | @early a e h =>
    have ha := hd a h d
    show Tracked S E (f a d).1 (.error e)
    generalize f a d = p at ha
    obtain ⟨r, d⟩ := p
    cases r with
    | ok a => exact .early _ (ha a d rfl)
    | error => exact .error _ _

theorem mono {S : α → β → Prop} {E : α → Prop} (h : Tracks R D x y) (hr : ∀ a b, R a b → S a b)
    (hd : ∀ a, D a → E a) : Tracks S E x y := by
  intro c c'
  have hc := h c c'
  generalize (x c).1 = p at hc
  generalize (y c').1 = q at hc
  cases hc with
  | ok h => exact .ok (hr _ _ h)
  | error => exact .error _ _
  | early _ h => exact .early _ (hd _ h)

/-- Where the second effect does not fail first, anything would be known. -/
theorem weaken (h : Tracks R (fun _ => False) x y) : Tracks R D x y := h.mono (fun _ _ h => h) fun _ h => h.elim

/-- What is known of the first effect. -/
theorem and_left {p : α → Prop} (h : Tracks R (fun _ => False) x y) (hp : x.Ensures p) :
    Tracks (fun a b => R a b ∧ p a) (fun _ => False) x y := by
  intro c c'
  have hc := h c c'
  have ha := hp c
  generalize x c = q at hc ha
  generalize (y c').1 = q' at hc
  obtain ⟨r, d⟩ := q
  cases hc with
  | ok h => exact .ok ⟨h, ha _ d rfl⟩
  | error => exact .error _ _
  | early _ h => exact h.elim

/-- As long as the second effect does not fail first. -/
theorem seq {f : α → Effect C α'} {f' : β → Effect C β'} (h : Tracks R (fun _ => False) x y)
    (hf : ∀ a b, R a b → Tracks S E (f a) (f' b)) : Tracks S E (x >>= f) (y >>= f') := h.bind hf fun _ h => h.elim

theorem map {f : α → α'} {f' : β → β'} (h : Tracks R D x y) (hf : ∀ a b, R a b → S (f a) (f' b))
    (hd : ∀ a, D a → E (f a)) : Tracks S E (f <$> x) (f' <$> y) := by
  rw [map_eq_pure_bind, map_eq_pure_bind]
  exact h.bind (fun a b hr => pure (hf a b hr)) fun a ha => .pure (hd a ha)

/-- A steady effect tracks itself. -/
theorem of_steady {p : α → Prop} (h : x.Steady) (hp : x.Ensures p) : Tracks (fun a b => b = a ∧ p a) D x x := by
  intro c c'
  have hc := h c c'
  have ha := hp c
  generalize x c = q at hc ha
  generalize x c' = q' at hc
  obtain ⟨r, d⟩ := q
  obtain ⟨r', d'⟩ := q'
  obtain rfl : r = r' := hc
  cases r with
  | error e => exact .error e e
  | ok a => exact .ok ⟨rfl, ha a d rfl⟩

/-- The first scan waits with an effect that the second one has. -/
theorem of_waiting {a' : α'} {f' : β → Effect C β'} (h : Tracks R (fun _ => False) x y) (hx : x.Steady)
    (hok : ∀ a b, R a b → (∀ c, (x c).1 = .ok a) → Tracks S E (Pure.pure a') (f' b))
    (herror : C → (∀ c a, (x c).1 ≠ .ok a) → E a') : Tracks S E (Pure.pure a') (y >>= f') := by
  intro c c'
  rw [bind_apply]
  have hc := h c c'
  have hall := hx c
  generalize x c = p at hc hall
  generalize y c' = q at hc
  obtain ⟨r, d⟩ := p
  obtain ⟨r', d'⟩ := q
  cases hc with
  | ok h => exact hok _ _ h (fun c => (hall c).symm) c d'
  | error =>
    refine .early _ (herror c fun c a ha => ?_)
    cases (hall c).trans ha
  | early e h => exact h.elim

end Tracks

end Effect

/-! ### Blocks with and without `reparse` -/

/-- A handler that is steady has a steady effect. -/
theorem steady_handle {h : Handler C} (hs : h.Steady) (block : String) (p : Part) : (handle h block p).Steady := by
  intro c c'
  have hc := hs p c c'
  unfold handle
  generalize h p c = x at hc
  generalize h p c' = y at hc
  obtain ⟨r, d⟩ := x
  obtain ⟨r', d'⟩ := y
  obtain rfl : r = r' := hc
  cases r <;> rfl

namespace OpenBlock

/-- The block with another answer to whether its text is scanned again. -/
def withReparse (r : Bool) (b : OpenBlock C n) : OpenBlock C n := { b with spec := { b.spec with reparse := r } }

variable {b b' : OpenBlock C n}

private theorem steady_offer {f : Option (Handler C)} (hf : ∀ h, f = some h → h.Steady) (isRoot : Bool) (p : Part) :
    (b.offer isRoot f p).Steady := by
  cases f with
  | none => exact .pure p
  | some h =>
    cases isRoot with
    | true => exact steady_handle (hf h rfl) b.name p
    | false => exact .pure p

theorem steady_flush (hs : b.spec.Steady) (isRoot : Bool) (k : Boundary) : (b.flush isRoot k).Steady := by
  unfold flush
  cases hf : b.fragment? k with
  | none => exact .pure b
  | some r =>
    obtain ⟨text, b'⟩ := r
    obtain ⟨-, rfl⟩ := eq_of_fragment hf
    exact .bind (steady_offer hs isRoot _) fun p => .pure _

private theorem steady_receive (hs : b.spec.Steady) (isRoot : Bool) (p : Part) : (b.receive isRoot p).Steady := by
  refine .bind (steady_offer (fun h hh => ?_) isRoot p) fun q => .pure _
  split at hh
  · exact hs h hh
  · cases hh

private theorem steady_value (hs : b.spec.Steady) : b.value.Steady := by
  unfold value
  split
  · exact steady_handle (hs _ ‹_›) _ _
  · exact .pure _

private theorem flush_withReparse (r isRoot : Bool) (k : Boundary) (b : OpenBlock C n) :
    (b.withReparse r).flush isRoot k = withReparse r <$> b.flush isRoot k :=
  flush_map (fragment?_map rfl rfl rfl rfl rfl k) (fun _ _ => rfl) fun _ _ => rfl

private theorem receive_withReparse (r isRoot : Bool) (p : Part) (b : OpenBlock C n) :
    (b.withReparse r).receive isRoot p = withReparse r <$> b.receive isRoot p := by
  unfold receive
  simp only [map_bind, map_pure]
  rfl

private theorem addStop_withReparse (r : Bool) (stop : Option Delimiter) (b : OpenBlock C n) :
    (b.withReparse r).addStop stop = (b.addStop stop).withReparse r := by
  cases stop with
  | none => rfl
  | some d => by_cases hk : b.spec.keepDelimiters <;> simp [addStop, withReparse, addToken, hk]

/-- The blocks differ at most in whether their text is scanned again, and have a steady handler. -/
structure Eased (b b' : OpenBlock C n) : Prop where
  eq : b' = b.withReparse b'.spec.reparse
  steady : b.spec.Steady

/-- Blocks that differ as they did, and have still the specs that they had. -/
structure Still (b b' x x' : OpenBlock C n) : Prop where
  eased : x.Eased x'
  left : x.spec = b.spec
  right : x'.spec = b'.spec

namespace Eased

/-- A change that leaves the spec alone, and is the same whether the text is scanned again or not. -/
theorem change (h : b.Eased b') {f : OpenBlock C n → OpenBlock C n} (hs : ∀ b, (f b).spec = b.spec)
    (hf : ∀ r b, f (b.withReparse r) = (f b).withReparse r) : Still b b' (f b) (f b') := by
  obtain ⟨he, hsteady⟩ := h
  refine ⟨⟨?_, by rw [hs]; exact hsteady⟩, hs b, hs b'⟩
  rw [hs]
  exact (congrArg f he).trans (hf _ b)

private theorem of_map (h : b.Eased b') {x : Effect C (OpenBlock C n)} (hx : x.Steady)
    (ht : x.Ensures fun y => y.title = b.title) :
    Effect.Tracks (Still b b') (fun _ => False) x (withReparse b'.spec.reparse <$> x) := by
  have hspec : b'.spec = { b.spec with reparse := b'.spec.reparse } := congrArg OpenBlock.spec h.eq
  have hmap : Effect.Tracks (Still b b') (fun _ => False) (id <$> x) (withReparse b'.spec.reparse <$> x) := by
    refine (Effect.Tracks.of_steady hx ht).map (fun y y' h' => ?_) fun _ h => h
    obtain ⟨rfl, hy⟩ := h'
    have hy := spec_of_title hy
    refine ⟨⟨rfl, by rw [id_eq, hy]; exact h.steady⟩, hy, ?_⟩
    show { y'.spec with reparse := b'.spec.reparse } = b'.spec
    rw [hy]
    exact hspec.symm
  rwa [id_map] at hmap

theorem flush (h : b.Eased b') (isRoot : Bool) (k : Boundary) :
    Effect.Tracks (Still b b') (fun _ => False) (b.flush isRoot k) (b'.flush isRoot k) := by
  have heq : b'.flush isRoot k = withReparse b'.spec.reparse <$> b.flush isRoot k := by
    rw [← flush_withReparse, ← h.eq]
  rw [heq]
  exact h.of_map (steady_flush h.steady isRoot k) (ensures_flush isRoot k b)

theorem receive (h : b.Eased b') (isRoot : Bool) (p : Part) :
    Effect.Tracks (Still b b') (fun _ => False) (b.receive isRoot p) (b'.receive isRoot p) := by
  have heq : b'.receive isRoot p = withReparse b'.spec.reparse <$> b.receive isRoot p := by
    rw [← receive_withReparse, ← h.eq]
  rw [heq]
  exact h.of_map (steady_receive h.steady isRoot p) (ensures_receive isRoot p b)

/-- Both blocks become the same part. -/
theorem value (h : b.Eased b') (stop : Option Delimiter) {q : Part → Prop} (hq : (b.addStop stop).value.Ensures q) :
    Effect.Tracks (fun p p' => p' = p ∧ q p) (fun _ => False) (b.addStop stop).value (b'.addStop stop).value := by
  have heq : (b'.addStop stop).value = (b.addStop stop).value := by
    rw [h.eq, addStop_withReparse]
    rfl
  have hspec : (b.addStop stop).spec = b.spec := spec_of_title (title_addStop stop b)
  rw [heq]
  exact .of_steady (steady_value (by rw [hspec]; exact h.steady)) hq

end Eased

end OpenBlock

end Scan

end Delimited
