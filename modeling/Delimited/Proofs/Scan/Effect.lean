import Delimited.Scan.Step

/-!
# Effects

An `Effect` may fail and works on the context of the handlers; what it has done to the context stays when it fails, as
with a handler. The effects that a block can have are those of its handler: on a fragment of the root, on the parts of a
block that closes, and on a result that comes back to the root. Here they are functions of one block alone, without the
texts and the blocks around it.
-/

namespace Delimited.Scan

variable {C : Type} {n : Nat} {α β : Type}

/-- A computation on a context that may fail. -/
abbrev Effect (C : Type) : Type → Type := ExceptT Error (StateM C)

theorem Effect.bind_apply (x : Effect C α) (f : α → Effect C β) (c : C) :
    (x >>= f) c = match x c with
      | (.ok a, c) => f a c
      | (.error e, c) => (.error e, c) := by
  show (match x c with | (a, c) => ExceptT.bindCont f a c) = _
  rcases x c with ⟨a | a, c⟩ <;> rfl

/-- Whatever value the effect gives has the property. -/
def Effect.Ensures (x : Effect C α) (p : α → Prop) : Prop := ∀ c a c', x c = (.ok a, c') → p a

namespace Effect.Ensures

variable {p : α → Prop} {q : β → Prop}

theorem pure {a : α} (h : p a) : Ensures (pure a : Effect C α) p := by
  intro c b c' hb
  cases hb
  exact h

theorem throw (e : Error) (p : α → Prop) : Ensures (throw e : Effect C α) p := by
  intro c b c' hb
  cases hb

theorem any (x : Effect C α) : x.Ensures fun _ => True := fun _ _ _ _ => trivial

theorem bind {x : Effect C α} {f : α → Effect C β} (h : x.Ensures p) (hf : ∀ a, p a → (f a).Ensures q) :
    (x >>= f).Ensures q := by
  intro c b c' hb
  rw [bind_apply] at hb
  split at hb
  · rename_i a c₁ hx
    exact hf a (h _ _ _ hx) _ _ _ hb
  · cases hb

/-- What follows an effect matters only for the values that it may give. -/
theorem bind_congr {x : Effect C α} {f f' : α → Effect C β} (h : x.Ensures p) (hf : ∀ a, p a → f a = f' a) :
    x >>= f = x >>= f' := by
  funext c
  rw [bind_apply, bind_apply]
  split
  · rename_i a c₁ hx
    rw [hf a (h _ _ _ hx)]
  · rfl

end Effect.Ensures

/-- The answer of a handler to a part, for a block. -/
def handle (h : Handler C) (block : String) (p : Part) : Effect C Part := fun c =>
  match h p c with
  | (.ok q, c) => (.ok q, c)
  | (.error e, c) => (.error (.handler block e), c)

namespace OpenBlock

/-- Gives a part to a handler of the root, if the block is the root and the handler is there. -/
def offer (isRoot : Bool) (h : Option (Handler C)) (p : Part) (b : OpenBlock C n) : Effect C Part :=
  match h with
  | some h => if isRoot then handle h b.name p else pure p
  | none => pure p

/-- Ends the run, and adds it as a part. -/
def flush (isRoot : Bool) (k : Boundary) (b : OpenBlock C n) : Effect C (OpenBlock C n) :=
  match b.fragment? k with
  | none => pure b
  | some (text, b) => do return b.addValue (← b.offer isRoot b.spec.handler (.text text))

/-- What becomes of the block when it closes. -/
def value (b : OpenBlock C n) : Effect C Part :=
  match b.spec.handler with
  | some h => handle h b.name (.group b.parts.toList)
  | none => pure b.result

/-- Adds the value of a nested block. -/
def receive (isRoot : Bool) (p : Part) (b : OpenBlock C n) : Effect C (OpenBlock C n) := do
  return b.addValue (← b.offer isRoot (if b.spec.handleAll then b.spec.handler else none) p)

/-- Adds the kept part of a split, if there is one. -/
def addKept (token : Option String) (b : OpenBlock C n) : OpenBlock C n := token.elim b fun t => b.addToken (.text t)

/-- Adding texts to a run one after the other. -/
theorem addText_addText (s t : String) (b : OpenBlock C n) : (b.addText s).addText t = b.addText (s ++ t) := by
  simp [addText, String.append_assoc]

theorem ensures_flush (isRoot : Bool) (k : Boundary) (b : OpenBlock C n) :
    (b.flush isRoot k).Ensures fun b' => b'.title = b.title := by
  unfold flush
  cases hf : b.fragment? k with
  | none => exact .pure rfl
  | some r =>
    obtain ⟨text, b'⟩ := r
    obtain ⟨-, rfl⟩ := eq_of_fragment hf
    exact Effect.Ensures.bind (.any _) fun p _ => .pure rfl

theorem ensures_receive (isRoot : Bool) (p : Part) (b : OpenBlock C n) :
    (b.receive isRoot p).Ensures fun b' => b'.title = b.title :=
  Effect.Ensures.bind (.any _) fun _ _ => .pure rfl

/-- Behind the end of a run the block is still the same one. -/
theorem bind_flush_congr {isRoot : Bool} {k : Boundary} {b : OpenBlock C n} {f f' : OpenBlock C n → Effect C β}
    (h : ∀ b', b'.title = b.title → f b' = f' b') : b.flush isRoot k >>= f = b.flush isRoot k >>= f' :=
  (ensures_flush isRoot k b).bind_congr h

/-- The block with other offsets. -/
def place (opened start : Nat → Nat) (b : OpenBlock C n) : OpenBlock C n :=
  { b with openedAt := opened b.openedAt, runStart := start b.runStart }

/-- A change that leaves alone what the end of a run depends on, and what is offered to the handler, comes to the same
before it and behind it. -/
theorem flush_map {f : OpenBlock C n → OpenBlock C n} {b : OpenBlock C n} {isRoot : Bool} {k : Boundary}
    (hf : (f b).fragment? k = (b.fragment? k).map fun r => (r.1, f r.2))
    (ho : ∀ b p, (f b).offer isRoot (f b).spec.handler p = b.offer isRoot b.spec.handler p)
    (ha : ∀ b p, (f b).addValue p = f (b.addValue p)) : (f b).flush isRoot k = f <$> b.flush isRoot k := by
  unfold flush
  rw [hf]
  cases b.fragment? k with
  | none => simp
  | some r => simp only [Option.map_some, map_bind, map_pure, ho, ha]

/-- Where a block was opened, and where its run goes on, makes no difference to how the run ends. -/
theorem flush_place (isRoot : Bool) (k : Boundary) (opened start : Nat → Nat) (b : OpenBlock C n) :
    (b.place opened start).flush isRoot k = (·.place opened start) <$> b.flush isRoot k :=
  flush_map (f := (·.place opened start)) (fragment?_map rfl rfl rfl rfl rfl k) (fun _ _ => rfl) fun _ _ => rfl

/-- An empty run that ends at a nested block leaves no trace. -/
theorem flush_block_of_empty {isRoot : Bool} {b : OpenBlock C n} (h : b.run = "") : b.flush isRoot .block = pure b := by
  have hf : b.fragment? .block = none := by simp [fragment?, endsEmptySegment, h]
  rw [flush, hf]

end OpenBlock

end Delimited.Scan
