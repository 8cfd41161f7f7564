/-!
# Computations that may fail

A computation in steps goes through just when every step does. `bind_eq_ok` takes the first step off; the statements on
`mapM` do the same for one step for each item. One that fails gives the error of the first step that does.
-/

namespace Delimited

variable {ε α β : Type}

/-- A computation that goes through has gone through its first step. -/
theorem bind_eq_ok {x : Except ε α} {f : α → Except ε β} {b : β} (h : x >>= f = .ok b) :
    ∃ a, x = .ok a ∧ f a = .ok b := by
  cases x with
  | error e => exact absurd h (by simp [bind, Except.bind])
  | ok a => exact ⟨a, rfl, h⟩

/-- A computation that fails has failed in its first step or behind it. -/
theorem bind_eq_error_iff {x : Except ε α} {f : α → Except ε β} {e : ε} :
    x >>= f = .error e ↔ x = .error e ∨ ∃ a, x = .ok a ∧ f a = .error e := by
  cases x <;> simp [bind, Except.bind]

/-- Behind an error nothing is done. -/
theorem throw_bind {e : ε} {f : α → Except ε β} : (throw e : Except ε α) >>= f = .error e := rfl

/-- What does not fail goes through. -/
theorem exists_eq_ok {x : Except ε α} (h : ∀ e, x ≠ .error e) : ∃ a, x = .ok a := by
  cases x with
  | error e => exact absurd rfl (h e)
  | ok a => exact ⟨a, rfl⟩

theorem list_mapM_eq_ok {f : α → Except ε β} {l : List α} {l' : List β} (h : l.mapM f = .ok l') :
    l'.length = l.length ∧ ∀ (i : Nat) (hi : i < l.length) (hi' : i < l'.length), f l[i] = .ok l'[i] := by
  induction l generalizing l' with
  | nil =>
    simp only [List.mapM_nil, pure, Except.pure, Except.ok.injEq] at h
    subst h
    exact ⟨rfl, fun i hi => absurd hi (Nat.not_lt_zero i)⟩
  | cons a l ih =>
    rw [List.mapM_cons] at h
    obtain ⟨b, hb, h⟩ := bind_eq_ok h
    obtain ⟨bs, hbs, h⟩ := bind_eq_ok h
    simp only [pure, Except.pure, Except.ok.injEq] at h
    subst h
    obtain ⟨hl, hget⟩ := ih hbs
    refine ⟨by simp [hl], ?_⟩
    intro i hi hi'
    cases i with
    | zero => exact hb
    | succ i => exact hget i (by simpa using hi) (by simpa using hi')

/-- A list made item by item fails with the error of the first item that cannot be made. -/
theorem list_mapM_eq_error_iff {f : α → Except ε β} {l : List α} {e : ε} :
    l.mapM f = .error e ↔
      ∃ before a after, l = before ++ a :: after ∧ (∀ x ∈ before, ∃ b, f x = .ok b) ∧ f a = .error e := by
  induction l with
  | nil => simp [pure, Except.pure]
  | cons a l ih =>
    rw [List.mapM_cons, bind_eq_error_iff]
    constructor
    · rintro (h | ⟨b, hb, h⟩)
      · exact ⟨[], a, l, rfl, by simp, h⟩
      · rcases bind_eq_error_iff.1 h with h | ⟨bs, -, h⟩
        · obtain ⟨before, a', after, rfl, hok, he⟩ := ih.1 h
          refine ⟨a :: before, a', after, rfl, ?_, he⟩
          simpa using ⟨⟨b, hb⟩, hok⟩
        · cases h
    · rintro ⟨before, a', after, hl, hok, he⟩
      cases before with
      | nil =>
        obtain ⟨rfl, rfl⟩ := List.cons.inj hl
        exact Or.inl he
      | cons x before =>
        obtain ⟨rfl, rfl⟩ := List.cons.inj hl
        obtain ⟨b, hb⟩ := hok a (by simp)
        have h := ih.2 ⟨before, a', after, rfl, fun x hx => hok x (by simp [hx]), he⟩
        exact Or.inr ⟨b, hb, bind_eq_error_iff.2 (Or.inl h)⟩

/-- A vector made item by item is made of what comes of each item. -/
theorem vector_mapM_eq_ok {n : Nat} {f : α → Except ε β} {v : Vector α n} {w : Vector β n} (h : v.mapM f = .ok w)
    (i : Nat) (hi : i < n) : f v[i] = .ok w[i] := by
  have hw : v.toArray.toList.mapM f = .ok w.toArray.toList := by
    rw [← Array.toList_mapM, ← Vector.toArray_mapM, h]
    rfl
  have := (list_mapM_eq_ok hw).2 i (by simpa using hi) (by simpa using hi)
  simpa using this

/-- A vector made item by item fails with the error of the first item that cannot be made. -/
theorem vector_mapM_eq_error_iff {n : Nat} {f : α → Except ε β} {v : Vector α n} {e : ε} :
    v.mapM f = .error e ↔
      ∃ (i : Nat) (hi : i < n), f v[i] = .error e ∧ ∀ (j : Nat) (hj : j < i), ∃ b, f v[j] = .ok b := by
  have hv : v.mapM f = .error e ↔ v.toList.mapM f = .error e := by
    have h : (fun w : Vector β n => w.toArray.toList) <$> v.mapM f = v.toList.mapM f := by
      rw [← Functor.map_map, Vector.toArray_mapM, Array.toList_mapM]
      rfl
    rw [← h]
    cases v.mapM f <;> simp [Functor.map, Except.map]
  rw [hv, list_mapM_eq_error_iff]
  constructor
  · rintro ⟨before, a, after, hl, hok, he⟩
    have hn : n = before.length + (after.length + 1) := by
      have := congrArg List.length hl
      simpa using this
    have hget : ∀ (i : Nat) (hi : i < n), (before ++ a :: after)[i]? = some v[i] := by
      intro i hi
      rw [← hl, List.getElem?_eq_getElem (by simpa using hi), Vector.getElem_toList]
    refine ⟨before.length, by omega, ?_, fun j hj => ?_⟩
    · have ha := hget before.length (by omega)
      rw [List.getElem?_append_right (Nat.le_refl _), Nat.sub_self, List.getElem?_cons_zero] at ha
      rw [← Option.some.inj ha]
      exact he
    · have hb := hget j (by omega)
      rw [List.getElem?_append_left hj] at hb
      exact hok _ (List.mem_of_getElem? hb)
  · rintro ⟨i, hi, he, hok⟩
    have hi' : i < v.toList.length := by simpa using hi
    refine ⟨v.toList.take i, v[i], v.toList.drop (i + 1), ?_, ?_, he⟩
    · rw [← Vector.getElem_toList (h := hi'), ← List.drop_eq_getElem_cons, List.take_append_drop]
    · intro x hx
      obtain ⟨j, hj, rfl⟩ := List.mem_iff_getElem.1 hx
      rw [List.length_take] at hj
      rw [List.getElem_take, Vector.getElem_toList]
      exact hok j (by omega)

/-- A vector can be made item by item when each item can. -/
theorem exists_vector_mapM_eq_ok {n : Nat} {f : α → Except ε β} {v : Vector α n}
    (h : ∀ (i : Nat) (hi : i < n), ∃ b, f v[i] = .ok b) : ∃ w, v.mapM f = .ok w := by
  refine exists_eq_ok fun e he => ?_
  obtain ⟨i, hi, he, -⟩ := vector_mapM_eq_error_iff.1 he
  obtain ⟨b, hb⟩ := h i hi
  rw [hb] at he
  cases he

/-- What comes of each item is what a vector made item by item is made of. -/
theorem vector_mapM_of_eq_ok {n : Nat} {f : α → Except ε β} {v : Vector α n} {w : Vector β n}
    (h : ∀ (i : Nat) (hi : i < n), f v[i] = .ok w[i]) : v.mapM f = .ok w := by
  obtain ⟨w', hw⟩ := exists_vector_mapM_eq_ok fun i hi => ⟨w[i], h i hi⟩
  have he : w' = w := by
    ext i hi
    exact Except.ok.inj ((vector_mapM_eq_ok hw i hi).symm.trans (h i hi))
  rw [hw, he]

end Delimited
