import Delimited.Proofs.Scan.Effect

/-!
# Effects that agree

Two effects agree when they do the same to the context, and give values that are related or errors that differ at most in
an offset. When the first one fails because too many texts are suspended, nothing is asked of the second one: this is
the one error that depends on how a text came to be scanned. Blocks that differ at most in the offset where they were
opened have effects that agree.
-/

namespace Delimited.Scan

variable {C : Type} {n : Nat} {α β α' β' : Type}

/-- The error without its offset. -/
def Error.unplaced : Error → Error
  | .unterminated block _ => .unterminated block 0
  | e => e

/-- What two effects have come to when they agree. -/
inductive Agrees (R : α → β → Prop) : Except Error α × C → Except Error β × C → Prop
  | ok {a : α} {b : β} {c : C} (h : R a b) : Agrees R (.ok a, c) (.ok b, c)
  | error {e e' : Error} {c : C} (h : e.unplaced = e'.unplaced) : Agrees R (.error e, c) (.error e', c)
  | limit {block : String} {limit : Nat} {c : C} {y : Except Error β × C} :
    Agrees R (.error (.reparseLimit block limit), c) y

namespace Agrees

variable {R : α → β → Prop}

theorem of_ok {a : α} {c : C} {y : Except Error β × C} (h : Agrees R (.ok a, c) y) : ∃ b, y = (.ok b, c) ∧ R a b := by
  cases h with
  | ok hr => exact ⟨_, rfl, hr⟩

/-- A failure for another reason than the number of suspended texts is a failure of both. -/
theorem of_error {e : Error} {c : C} {y : Except Error β × C} (h : Agrees R (.error e, c) y)
    (he : ∀ block limit, e ≠ .reparseLimit block limit) : ∃ e', y = (.error e', c) ∧ e.unplaced = e'.unplaced := by
  cases h with
  | error h => exact ⟨_, rfl, h⟩
  | limit => exact absurd rfl (he _ _)

/-- Unless the limit is met, results that agree are the same values. -/
theorem ok_iff {x y : Except Error α} {c c' : C} (h : Agrees Eq (x, c) (y, c'))
    (hx : ∀ block limit, x ≠ .error (.reparseLimit block limit)) : (∀ a, x = .ok a ↔ y = .ok a) ∧ c = c' := by
  cases h with
  | ok h => exact ⟨fun a => by rw [h], rfl⟩
  | error h => exact ⟨fun a => by simp, rfl⟩
  | limit => exact absurd rfl (hx _ _)

end Agrees

namespace Effect

/-- The effects agree in every context. -/
def Agree (R : α → β → Prop) (x : Effect C α) (y : Effect C β) : Prop := ∀ c, Agrees R (x c) (y c)

namespace Agree

variable {R : α → β → Prop} {S : α' → β' → Prop}

theorem pure {a : α} {b : β} (h : R a b) : Agree R (pure a : Effect C α) (pure b) := fun _ => .ok h

theorem throw {e e' : Error} (h : e.unplaced = e'.unplaced) : Agree R (throw e : Effect C α) (throw e') := fun _ => .error h

theorem limit (block : String) (limit : Nat) (y : Effect C β) :
    Agree R (MonadExcept.throw (.reparseLimit block limit) : Effect C α) y := fun _ => .limit

/-- Effects that agree, followed by effects that agree. -/
theorem bind {x : Effect C α} {y : Effect C β} {f : α → Effect C α'} {f' : β → Effect C β'} (h : Agree R x y)
    (hf : ∀ a b, R a b → Agree S (f a) (f' b)) : Agree S (x >>= f) (y >>= f') := by
  intro c
  rw [bind_apply, bind_apply]
  have hc := h c
  generalize x c = p at hc
  generalize y c = q at hc
  cases hc with
  | ok hr => exact hf _ _ hr _
  | error he => exact .error he
  | limit => exact .limit

theorem map {x : Effect C α} {y : Effect C β} {f : α → α'} {f' : β → β'} (h : Agree R x y)
    (hf : ∀ a b, R a b → S (f a) (f' b)) : Agree S (f <$> x) (f' <$> y) := by
  rw [map_eq_pure_bind, map_eq_pure_bind]
  exact h.bind fun a b hr => pure (hf a b hr)

/-- An effect agrees with itself. -/
theorem refl (x : Effect C α) : Agree Eq x x := by
  intro c
  rcases hx : x c with ⟨a | a, c'⟩
  · exact .error rfl
  · exact .ok rfl

end Agree

end Effect

/-! ### Blocks that were opened elsewhere -/

namespace OpenBlock

/-- The blocks differ at most in the offset where they were opened. -/
def Alike (b b' : OpenBlock C n) : Prop := ∃ i, b' = { b with openedAt := i }

namespace Alike

variable {b b' : OpenBlock C n}

theorem refl (b : OpenBlock C n) : Alike b b := ⟨b.openedAt, rfl⟩

theorem spec (h : Alike b b') : b'.spec = b.spec := by
  obtain ⟨i, rfl⟩ := h; rfl

theorem name (h : Alike b b') : b'.name = b.name := by
  obtain ⟨i, rfl⟩ := h; rfl

theorem result (h : Alike b b') : b'.result = b.result := by
  obtain ⟨i, rfl⟩ := h; rfl

theorem value (h : Alike b b') : b'.value = b.value := by
  obtain ⟨i, rfl⟩ := h; rfl

theorem addText (h : Alike b b') (s : String) : Alike (b.addText s) (b'.addText s) := by
  obtain ⟨i, rfl⟩ := h; exact ⟨i, rfl⟩

theorem addStop (h : Alike b b') (stop : Option Delimiter) : Alike (b.addStop stop) (b'.addStop stop) := by
  obtain ⟨i, rfl⟩ := h
  refine ⟨i, ?_⟩
  cases stop with
  | none => rfl
  | some d => by_cases hk : b.spec.keepDelimiters <;> simp [OpenBlock.addStop, addToken, hk]

theorem split (h : Alike b b') (token : Option String) :
    Alike (b.addKept token).endSegment (b'.addKept token).endSegment := by
  obtain ⟨i, rfl⟩ := h
  exact ⟨i, by cases token <;> rfl⟩

private theorem offer (h : Alike b b') (isRoot : Bool) (f : Option (Handler C)) (p : Part) :
    b'.offer isRoot f p = b.offer isRoot f p := by
  obtain ⟨i, rfl⟩ := h; rfl

theorem flush (h : Alike b b') (isRoot : Bool) (k : Boundary) :
    Effect.Agree Alike (b.flush isRoot k) (b'.flush isRoot k) := by
  obtain ⟨i, rfl⟩ := h
  have hf : flush isRoot k { b with openedAt := i } = (·.place (fun _ => i) id) <$> b.flush isRoot k :=
    flush_place isRoot k (fun _ => i) id b
  have ha : Effect.Agree Alike (id <$> b.flush isRoot k) ((·.place (fun _ => i) id) <$> b.flush isRoot k) := by
    refine (Effect.Agree.refl _).map ?_
    rintro c _ rfl
    exact ⟨i, rfl⟩
  rw [id_map] at ha
  rw [hf]
  exact ha

theorem receive (h : Alike b b') (isRoot : Bool) (p : Part) :
    Effect.Agree Alike (b.receive isRoot p) (b'.receive isRoot p) := by
  unfold OpenBlock.receive
  rw [h.spec, h.offer]
  obtain ⟨i, rfl⟩ := h
  refine (Effect.Agree.refl _).bind ?_
  rintro q _ rfl
  exact .pure ⟨i, rfl⟩

end Alike

end OpenBlock

end Delimited.Scan
