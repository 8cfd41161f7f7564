import Delimited.Proofs.Grammar.Tree

/-!
# The index of a tree

What resolution looks up is what the tree says: the definition in each slot (`Definition.flat_at`), the slot of a path
(`slot?_eq_some_iff`), and the references (`mem_references`). What a path leads to depends on nothing but the references
and the paths of the definitions (`Index.lookup_congr`).
-/

namespace Delimited

variable {C : Type}

/-! ### What a lookup depends on -/

namespace Index

variable {n : Nat} {t t' : Index C n}

section

variable (hr : t'.references = t.references) (hp : ∀ k, (t'.flat k).path = (t.flat k).path)

include hr hp

private theorem follow_congr (error : GrammarError) (path : String) (unused : List (String × String))
    (current : String) : t'.follow error path unused current = t.follow error path unused current := by
  have hslot : ∀ path, t'.slot? path = t.slot? path := by
    intro path
    simp only [slot?, hp]
  fun_induction follow t error path unused current with
  | case1 unused current k hk => rw [follow, hslot, hk]
  | case2 unused current hk next hn _ ih =>
    rw [follow, hslot, hk]
    dsimp only
    split
    · rename_i next' hn'
      obtain rfl := Option.some.inj (hn.symm.trans hn')
      exact ih
    · rename_i hn'
      cases hn.symm.trans hn'
  | case3 unused current hk hn hc =>
    rw [follow, hslot, hk]
    dsimp only
    split
    · rename_i next' hn'
      cases hn.symm.trans hn'
    · rw [hr, if_pos hc]
  | case4 unused current hk hn hc =>
    rw [follow, hslot, hk]
    dsimp only
    split
    · rename_i next' hn'
      cases hn.symm.trans hn'
    · rw [hr, if_neg hc]

/-- A path leads to the same where the references and the paths of the definitions are the same. -/
theorem lookup_congr (path source : String) : t'.lookup path source = t.lookup path source := by
  unfold lookup
  rw [hr, follow_congr hr hp]

end

/-- The same entries are added where every path leads to the same. -/
theorem addTargets_congr (hl : ∀ path source, t'.lookup path source = t.lookup path source) (source : String)
    (blocks : List (String × Fin n)) (targets : List (String × Target n)) :
    t'.addTargets source blocks targets = t.addTargets source blocks targets := by
  induction targets generalizing blocks with
  | nil => rfl
  | cons a targets ih =>
    obtain ⟨name, k | path⟩ := a
    · exact ih _
    · simp only [addTargets, hl, ih]

end Index

/-! ### References -/

mutual

private theorem Definition.mem_references_iff {path p t : String} : ∀ {d : Definition C},
    (p, t) ∈ d.references path ↔
      ∃ b ∈ d.preorder path, ∃ name, (name, .ref t) ∈ b.2.entries ∧ p = childPath b.1 name
  | .mk attributes shared entries => by
    simp only [Definition.references, Definition.preorder, List.mem_cons, or_and_right, exists_or, exists_eq_left]
    exact mem_entriesReferences_iff

private theorem mem_entriesReferences_iff {path p t : String} : ∀ {es : List (String × Entry C)},
    (p, t) ∈ entriesReferences path es ↔
      (∃ name, (name, .ref t) ∈ es ∧ p = childPath path name) ∨
        ∃ b ∈ entriesPreorder path es, ∃ name, (name, .ref t) ∈ b.2.entries ∧ p = childPath b.1 name
  | [] => by simp [entriesReferences, entriesPreorder]
  | (name, .inline d) :: es => by
    simp only [entriesReferences, entriesPreorder, List.mem_append, List.mem_cons, Prod.mk.injEq, reduceCtorEq,
      and_false, false_or, or_and_right, exists_or, Definition.mem_references_iff, mem_entriesReferences_iff]
    exact or_left_comm
  | (name, .ref target) :: es => by
    simp only [entriesReferences, entriesPreorder, List.mem_cons, Prod.mk.injEq, Entry.ref.injEq, or_and_right, exists_or,
      mem_entriesReferences_iff, or_assoc]
    refine or_congr ?_ Iff.rfl
    constructor
    · rintro ⟨rfl, rfl⟩
      exact ⟨name, ⟨rfl, rfl⟩, rfl⟩
    · rintro ⟨_, ⟨rfl, rfl⟩, rfl⟩
      exact ⟨rfl, rfl⟩

end

/-- The references of a tree are those of its entries. -/
theorem Definition.mem_references {d : Definition C} {p t : String} :
    (p, t) ∈ d.references rootPath ↔ d.Refers p t := by
  rw [mem_references_iff]
  constructor
  · rintro ⟨⟨q, e⟩, hb, name, hm, rfl⟩
    obtain ⟨k, hk⟩ := exists_at_of_mem hb
    exact ⟨k, q, e, name, hk, hm, rfl⟩
  · rintro ⟨k, q, e, name, hk, hm, rfl⟩
    exact ⟨(q, e), hk.mem, name, hm, rfl⟩

/-! ### Slots -/

mutual

private theorem Definition.flatten_getElem? (n next : Nat) {path p : String} {e : Definition C} :
    ∀ {d : Definition C} (hd : next + d.size ≤ n) {i : Nat}, (d.preorder path)[i]? = some (p, e) →
      ∃ h, (d.flatten n next path hd)[i]? = some ⟨p, e.attributes, e.shared, targetsOf n (next + i + 1) e.entries h⟩
  | .mk attributes shared entries, hd, 0, h => by
    simp only [Definition.preorder, List.getElem?_cons_zero, Option.some.injEq, Prod.mk.injEq] at h
    obtain ⟨rfl, rfl⟩ := h
    simp only [Definition.size] at hd
    exact ⟨by simp only [Definition.entries]; omega, rfl⟩
  | .mk attributes shared entries, hd, i + 1, h => by
    simp only [Definition.preorder, List.getElem?_cons_succ] at h
    simp only [Definition.flatten, List.getElem?_cons_succ]
    have := flattenEntries_getElem? n (next + 1) (by simp only [Definition.size] at hd; omega) h
    rwa [show next + 1 + i = next + (i + 1) by omega] at this

private theorem flattenEntries_getElem? (n next : Nat) {path p : String} {e : Definition C} :
    ∀ {es : List (String × Entry C)} (hes : next + entriesSize es ≤ n) {i : Nat},
      (entriesPreorder path es)[i]? = some (p, e) →
        ∃ h, (flattenEntries n next path es hes)[i]? =
          some ⟨p, e.attributes, e.shared, targetsOf n (next + i + 1) e.entries h⟩
  | [], _, i, h => by simp [entriesPreorder] at h
  | (name, .inline d) :: es, hes, i, h => by
    simp only [entriesPreorder, flattenEntries, List.getElem?_append, Definition.length_preorder,
      Definition.length_flatten] at h ⊢
    split at h
    · rename_i hlt
      rw [if_pos hlt]
      exact Definition.flatten_getElem? n next _ h
    · rename_i hlt
      rw [if_neg hlt]
      have := flattenEntries_getElem? n (next + d.size) (by simp only [entriesSize] at hes; omega) h
      rwa [show next + d.size + (i - d.size) = next + i by omega] at this
  | (name, .ref target) :: es, hes, i, h => by
    simp only [entriesPreorder, flattenEntries] at h ⊢
    exact flattenEntries_getElem? n next _ h

end

/-- The definition in a slot, as it is in the index. -/
theorem Definition.flat_at {d e : Definition C} {k : Fin d.size} {p : String} (h : d.At k p e) :
    ∃ hs, d.index.flat k = ⟨p, e.attributes, e.shared, targetsOf d.size (k + 1) e.entries hs⟩ := by
  obtain ⟨hs, hk⟩ := flatten_getElem? d.size 0 (by omega) h
  obtain ⟨hlt, hk⟩ := List.getElem?_eq_some_iff.1 hk
  refine ⟨by omega, ?_⟩
  simpa [Definition.index, Index.flat] using hk

theorem Definition.path_flat {d e : Definition C} {k : Fin d.size} {p : String} (h : d.At k p e) :
    (d.index.flat k).path = p := by
  obtain ⟨_, hf⟩ := flat_at h
  rw [hf]

theorem Definition.attributes_flat {d e : Definition C} {k : Fin d.size} {p : String} (h : d.At k p e) :
    (d.index.flat k).attributes = e.attributes := by
  obtain ⟨_, hf⟩ := flat_at h
  rw [hf]

/-- The slot of a path is that of the definition that it names. -/
theorem Definition.slot?_eq_some_iff {d : Definition C} (hd : d.Unambiguous) {path : String} {k : Fin d.size} :
    d.index.slot? path = some k ↔ ∃ e, d.At k path e := by
  unfold Index.slot?
  constructor
  · intro h
    have hp : (d.index.flat k).path = path := by simpa using List.find?_some h
    obtain ⟨p, e, hk⟩ := exists_at k.2
    rw [path_flat hk] at hp
    exact ⟨e, hp ▸ hk⟩
  · rintro ⟨e, hk⟩
    cases hf : (List.finRange d.size).reverse.find? fun k => (d.index.flat k).path = path with
    | none =>
      have := List.find?_eq_none.1 hf k (by simp)
      exact absurd (path_flat hk) (by simpa using this)
    | some k' =>
      have hp : (d.index.flat k').path = path := by simpa using List.find?_some hf
      obtain ⟨p, e', hk'⟩ := exists_at k'.2
      rw [path_flat hk'] at hp
      subst hp
      rw [Fin.ext (hk'.unique hd hk)]

/-! ### Targets -/

@[simp] theorem targetsOf_names {n next : Nat} {es : List (String × Entry C)} (h : next + entriesSize es ≤ n) :
    (targetsOf n next es h).map Prod.fst = es.map Prod.fst := by
  induction es generalizing next with
  | nil => rfl
  | cons entry es ih =>
    obtain ⟨name, d | target⟩ := entry
    · simp [targetsOf, ih]
    · simp only [targetsOf, List.map_cons, List.cons.injEq, true_and]
      exact ih _

theorem targetsOf_append {n next : Nat} {es es' : List (String × Entry C)} (h : next + entriesSize (es ++ es') ≤ n) :
    targetsOf n next (es ++ es') h =
      targetsOf n next es (by rw [entriesSize_append] at h; omega) ++
        targetsOf n (next + entriesSize es) es' (by rw [entriesSize_append] at h; omega) := by
  induction es generalizing next with
  | nil => simp [targetsOf, entriesSize]
  | cons entry es ih =>
    obtain ⟨name, d | target⟩ := entry
    · simp [targetsOf, ih, entriesSize, Nat.add_assoc]
    · simp only [List.cons_append, targetsOf, entriesSize, List.cons.injEq, true_and]
      exact ih _

end Delimited
