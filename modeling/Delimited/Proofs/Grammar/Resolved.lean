import Delimited.Except
import Delimited.Grammar.Resolve

/-!
# Resolved grammars

A grammar has one spec for each definition of the tree that it was resolved from, made from this definition and its
nested blocks (`Definition.resolve_eq_ok`). The spec of the root has neither a start nor a stop (`root_of_resolve`), so
the root cannot be nested in another block, and no stop closes it. Its handlers are those of the definitions
(`handler_of_resolve`).
-/

namespace Delimited

variable {C : Type} {n : Nat}

/-! ### Specs -/

/-- A spec has a start, or a stop, only if its definition has one, and it has the handler of its definition. -/
theorem Flat.of_spec {f : Flat C n} {blocks : List (String × Fin n)} {s : Spec C n} (h : f.spec blocks = .ok s) :
    (f.attributes.start = none → s.start = none) ∧ (f.attributes.stop = none → s.stop = none) ∧
      s.handler = f.attributes.handler := by
  unfold Flat.spec at h
  dsimp only at h
  obtain ⟨start, h₁, h⟩ := bind_eq_ok h
  obtain ⟨stop, h₂, h⟩ := bind_eq_ok h
  obtain ⟨_, -, h⟩ := bind_eq_ok h
  obtain ⟨_, -, h⟩ := bind_eq_ok h
  have hs : s.start = start ∧ s.stop = stop ∧ s.handler = f.attributes.handler := by
    split at h
    · rw [throw_bind] at h
      cases h
    · obtain ⟨_, -, h⟩ := bind_eq_ok h
      obtain ⟨_, -, h⟩ := bind_eq_ok h
      simp only [pure, Except.pure, Except.ok.injEq] at h
      rw [← h]
      exact ⟨rfl, rfl, rfl⟩
  rw [hs.1, hs.2.1]
  refine ⟨fun hn => ?_, fun hn => ?_, hs.2.2⟩
  · rw [hn] at h₁
    exact (Except.ok.inj h₁).symm
  · rw [hn] at h₂
    exact (Except.ok.inj h₂).symm

/-! ### Grammars of indices -/

namespace Index

variable {t : Index C n} {hn : 0 < n} {blocks : Vector (List (String × Fin n)) n}

/-- The grammar with the definitions of an index. -/
def grammar (t : Index C n) (hn : 0 < n) : Except GrammarError (Grammar C) := do
  let blocks ← (Vector.finRange n).mapM (t.nestedBlocks (List.finRange n))
  let specs ← (Vector.finRange n).mapM fun k => (t.flat k).spec (blocks.get k)
  return ⟨n, hn, specs⟩

/-- Where the nested blocks are found, the specs are made of them. -/
private theorem grammar_of_nestedBlocks
    (hb : (Vector.finRange n).mapM (t.nestedBlocks (List.finRange n)) = .ok blocks) :
    t.grammar hn = do
      let specs ← (Vector.finRange n).mapM fun k => (t.flat k).spec (blocks.get k)
      return ⟨n, hn, specs⟩ := by
  unfold grammar
  rw [hb]
  rfl

/-- The grammar has the specs that are made of the nested blocks. -/
theorem grammar_of_specs {specs : Vector (Spec C n) n}
    (hb : (Vector.finRange n).mapM (t.nestedBlocks (List.finRange n)) = .ok blocks)
    (hs : ∀ (k : Nat) (hk : k < n), (t.flat ⟨k, hk⟩).spec blocks[k] = .ok specs[k]) :
    t.grammar hn = .ok ⟨n, hn, specs⟩ := by
  have hspecs : (Vector.finRange n).mapM (fun k => (t.flat k).spec (blocks.get k)) = .ok specs := by
    refine vector_mapM_of_eq_ok fun k hk => ?_
    rw [Vector.getElem_finRange]
    exact hs k hk
  rw [grammar_of_nestedBlocks hb, hspecs]
  rfl

/-- There is no grammar when a spec cannot be made, and the first one counts. -/
theorem grammar_of_fault {fault : GrammarError} {k : Nat} (hk : k < n)
    (hb : (Vector.finRange n).mapM (t.nestedBlocks (List.finRange n)) = .ok blocks)
    (hf : (t.flat ⟨k, hk⟩).spec blocks[k] = .error fault)
    (hs : ∀ (j : Nat) (hj : j < n), j < k → ∃ s, (t.flat ⟨j, hj⟩).spec blocks[j] = .ok s) :
    t.grammar hn = .error fault := by
  have hspecs : (Vector.finRange n).mapM (fun k => (t.flat k).spec (blocks.get k)) = .error fault := by
    refine vector_mapM_eq_error_iff.2 ⟨k, hk, ?_, fun j hj => ?_⟩
    · rw [Vector.getElem_finRange]
      exact hf
    · rw [Vector.getElem_finRange]
      exact hs j (Nat.lt_trans hj hk) hj
  rw [grammar_of_nestedBlocks hb, hspecs]
  rfl

end Index

namespace Definition

/-- The index of a definition of a known size. -/
def indexOf (d : Definition C) (h : d.size = n) : Index C n :=
  ⟨⟨(d.flatten n 0 rootPath (by omega)).toArray, by simp [length_flatten, h]⟩, d.references rootPath⟩

/-- Behind the checks of its root, a definition resolves to the grammar of its index. -/
theorem resolve_eq_grammar {d : Definition C} (h : d.size = n) : d.resolve = (do
    if d.attributes.start.isSome then throw (.rootDelimiter "start")
    if d.attributes.stop.isSome then throw (.rootDelimiter "stop")
    (d.indexOf h).grammar (h ▸ d.size_pos)) := by
  subst h
  rfl

/-- The root comes first. -/
theorem attributes_flat_zero (d : Definition C) : (d.index.flat ⟨0, d.size_pos⟩).attributes = d.attributes := by
  cases d
  rfl

/-- What a definition that resolves is resolved to. -/
theorem resolve_eq_ok {d : Definition C} {g : Grammar C} (h : d.resolve = .ok g) :
    d.attributes.start = none ∧ d.attributes.stop = none ∧
      ∃ blocks specs, d.nestedBlocks = .ok blocks ∧
        (∀ (k : Nat) (hk : k < d.size), (d.index.flat ⟨k, hk⟩).spec blocks[k] = .ok specs[k]) ∧
          g = ⟨d.size, d.size_pos, specs⟩ := by
  unfold resolve at h
  dsimp only at h
  by_cases hstart : d.attributes.start.isSome
  · rw [if_pos hstart, throw_bind] at h
    cases h
  rw [if_neg hstart] at h
  by_cases hstop : d.attributes.stop.isSome
  · rw [if_pos hstop, throw_bind] at h
    cases h
  rw [if_neg hstop] at h
  obtain ⟨blocks, hb, h⟩ := bind_eq_ok h
  obtain ⟨specs, hs, h⟩ := bind_eq_ok h
  simp only [pure, Except.pure, Except.ok.injEq] at h
  refine ⟨by simpa using hstart, by simpa using hstop, blocks, specs, hb, ?_, h.symm⟩
  intro k hk
  simpa using vector_mapM_eq_ok hs k hk

/-- A definition whose root is not delimited resolves to the specs that are made of its nested blocks. -/
theorem resolve_of_specs {d : Definition C} {blocks : Vector (List (String × Fin d.size)) d.size}
    {specs : Vector (Spec C d.size) d.size} (hstart : d.attributes.start = none) (hstop : d.attributes.stop = none)
    (hb : d.nestedBlocks = .ok blocks)
    (hs : ∀ (k : Nat) (hk : k < d.size), (d.index.flat ⟨k, hk⟩).spec blocks[k] = .ok specs[k]) :
    d.resolve = .ok ⟨d.size, d.size_pos, specs⟩ := by
  rw [resolve_eq_grammar rfl]
  simp only [hstart, hstop, Option.isSome_none, Bool.false_eq_true, if_false]
  exact Index.grammar_of_specs hb hs

/-- A definition resolves when its root is not delimited, all nested blocks are found, and all specs can be made. -/
theorem exists_resolve {d : Definition C} {blocks : Vector (List (String × Fin d.size)) d.size}
    (hstart : d.attributes.start = none) (hstop : d.attributes.stop = none) (hb : d.nestedBlocks = .ok blocks)
    (hs : ∀ (k : Nat) (hk : k < d.size), ∃ s, (d.index.flat ⟨k, hk⟩).spec blocks[k] = .ok s) : ∃ g, d.resolve = .ok g := by
  obtain ⟨specs, hspecs⟩ := exists_vector_mapM_eq_ok (v := Vector.finRange d.size)
    (f := fun k : Fin d.size => (d.index.flat k).spec blocks[k]) fun i hi => by simpa using hs i hi
  exact ⟨_, resolve_of_specs hstart hstop hb fun k hk => by simpa using vector_mapM_eq_ok hspecs k hk⟩

/-- The root of a resolved grammar has neither a start nor a stop. -/
theorem root_of_resolve {d : Definition C} {g : Grammar C} (h : d.resolve = .ok g) :
    g.root.start = none ∧ g.root.stop = none := by
  obtain ⟨hstart, hstop, blocks, specs, -, hs, rfl⟩ := resolve_eq_ok h
  have hd := Flat.of_spec (hs 0 d.size_pos)
  have ha := attributes_flat_zero d
  exact ⟨hd.1 (ha ▸ hstart), hd.2.1 (ha ▸ hstop)⟩

/-- The handlers of a resolved grammar are those of its definitions. -/
theorem handler_of_resolve {d : Definition C} {g : Grammar C} (h : d.resolve = .ok g) (slot : Fin g.size) :
    ∃ k : Fin d.size, (g.spec slot).handler = (d.index.flat k).attributes.handler := by
  obtain ⟨-, -, blocks, specs, -, hs, rfl⟩ := resolve_eq_ok h
  exact ⟨slot, (Flat.of_spec (hs slot.1 slot.2)).2.2⟩

/-- Whether a definition resolves to a grammar of which this holds. -/
def resolvesTo (p : Grammar C → Bool) (d : Definition C) : Bool :=
  match d.resolve with
  | .ok g => p g
  | .error _ => false

/-- A definition resolves when its grammar has been tested. -/
theorem exists_of_resolvesTo {p : Grammar C → Bool} {d : Definition C} (h : d.resolvesTo p = true) :
    ∃ g, d.resolve = .ok g ∧ p g = true := by
  unfold resolvesTo at h
  split at h
  · rename_i g hg
    exact ⟨g, hg, h⟩
  · cases h

end Definition

end Delimited
