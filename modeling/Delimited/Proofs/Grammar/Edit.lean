import Delimited.Proofs.Grammar.Block
import Delimited.Proofs.Grammar.Index
import Delimited.Proofs.Grammar.Resolved

/-!
# Changes to one block

`Definition.edit` changes what one definition of a tree says about its own block. The nested blocks are found without it, so
all other blocks keep their specs, and the block gets the spec that is made for it (`Definition.resolve_edit`). When
something is wrong with the change, this is what is reported (`Definition.resolve_edit_of_fault`).
-/

namespace Delimited

variable {C : Type} {n : Nat}

/-- A slot of a grammar is a position of its specs. -/
theorem Grammar.slot_lt (g : Grammar C) (slot : Fin g.size) : slot.1 < g.size := slot.2

/-- The definition with its attributes changed. -/
def Flat.edit (f : Attributes (Handler C) → Attributes (Handler C)) (x : Flat C n) : Flat C n :=
  { x with attributes := f x.attributes }

mutual

/-- The tree in which the definition in a slot has its attributes changed. -/
def Definition.edit (f : Attributes (Handler C) → Attributes (Handler C)) : Nat → Definition C → Definition C
  | 0, .mk attributes shared entries => .mk (f attributes) shared entries
  | k + 1, .mk attributes shared entries => .mk attributes shared (editEntries f k entries)

/-- The entries in which the definition in a slot, counted from their first one, has its attributes changed. -/
def editEntries (f : Attributes (Handler C) → Attributes (Handler C)) :
    Nat → List (String × Entry C) → List (String × Entry C)
  | _, [] => []
  | k, (name, .inline d) :: es =>
    if k < d.size then (name, .inline (d.edit f k)) :: es
    else (name, .inline d) :: editEntries f (k - d.size) es
  | k, (name, .ref path) :: es => (name, .ref path) :: editEntries f k es

end

variable {f : Attributes (Handler C) → Attributes (Handler C)}

/-! ### Indices of the same tree -/

namespace Index

/-- The indices differ at most in what the definitions say about their own blocks. -/
structure SameTree (t t' : Index C n) : Prop where
  references : t'.references = t.references
  path : ∀ k, (t'.flat k).path = (t.flat k).path
  shared : ∀ k, (t'.flat k).shared = (t.flat k).shared
  targets : ∀ k, (t'.flat k).targets = (t.flat k).targets

variable {t t' : Index C n}

private theorem nestedBlocks_of_sameTree (h : SameTree t t') (unused : List (Fin n)) (k : Fin n) :
    t'.nestedBlocks unused k = t.nestedBlocks unused k := by
  fun_induction nestedBlocks t unused k with
  | case1 unused k flat hs =>
    rw [nestedBlocks_of_not_shared ((h.shared k).trans hs), h.path, h.targets,
      addTargets_congr (lookup_congr h.references h.path)]
  | case2 unused k flat path hs ih =>
    rw [nestedBlocks]
    have hl := lookup_congr h.references h.path
    simp only [(h.shared k).trans hs, h.path, h.targets, hl, addTargets_congr hl]
    refine bind_congr fun owner => ?_
    split
    · rename_i hk
      rw [ih owner hk]
    · rfl

end Index

/-! ### The tree behind a change -/

mutual

private theorem Definition.size_edit : ∀ (k : Nat) (d : Definition C), (d.edit f k).size = d.size
  | 0, .mk _ _ _ => rfl
  | k + 1, .mk _ _ entries => by simp only [Definition.edit, Definition.size, size_editEntries k entries]

private theorem size_editEntries :
    ∀ (k : Nat) (es : List (String × Entry C)), entriesSize (editEntries f k es) = entriesSize es
  | _, [] => by simp only [editEntries]
  | k, (name, .inline d) :: es => by
    simp only [editEntries]
    split
    · simp only [entriesSize, Definition.size_edit k d]
    · simp only [entriesSize, size_editEntries (k - d.size) es]
  | k, (name, .ref path) :: es => by simp only [editEntries, entriesSize, size_editEntries k es]

end

mutual

private theorem Definition.references_edit :
    ∀ (k : Nat) (path : String) (d : Definition C), (d.edit f k).references path = d.references path
  | 0, _, .mk _ _ _ => rfl
  | k + 1, path, .mk _ _ entries => by
    simp only [Definition.edit, Definition.references, references_editEntries k path entries]

private theorem references_editEntries :
    ∀ (k : Nat) (path : String) (es : List (String × Entry C)),
      entriesReferences path (editEntries f k es) = entriesReferences path es
  | _, _, [] => by simp only [editEntries]
  | k, path, (name, .inline d) :: es => by
    simp only [editEntries]
    split
    · simp only [entriesReferences, Definition.references_edit k _ d]
    · simp only [entriesReferences, references_editEntries (k - d.size) path es]
  | k, path, (name, .ref target) :: es => by
    simp only [editEntries, entriesReferences, references_editEntries k path es]

end

private theorem targetsOf_editEntries {k next : Nat} {es : List (String × Entry C)} (h : next + entriesSize es ≤ n)
    (h' : next + entriesSize (editEntries f k es) ≤ n) :
    targetsOf n next (editEntries f k es) h' = targetsOf n next es h := by
  induction es generalizing k next with
  | nil => simp only [editEntries]
  | cons entry es ih =>
    obtain ⟨name, d | path⟩ := entry
    · simp only [editEntries]
      split
      · simp only [targetsOf, Definition.size_edit]
      · simp only [targetsOf, List.cons.injEq, true_and]
        exact ih _ _
    · simp only [editEntries, targetsOf, List.cons.injEq, true_and]
      exact ih _ _

private theorem modify_append {α : Type} (f : α → α) (k : Nat) (l l' : List α) :
    (l ++ l').modify k f = if k < l.length then l.modify k f ++ l' else l ++ l'.modify (k - l.length) f := by
  induction l generalizing k with
  | nil => simp
  | cons a l ih =>
    cases k with
    | zero => simp
    | succ k =>
      simp only [List.cons_append, List.modify_succ_cons, ih, List.length_cons, Nat.add_lt_add_iff_right,
        Nat.add_sub_add_right]
      split <;> rfl

mutual

/-- The definitions in their order are the same, but for the one in the slot. -/
private theorem Definition.flatten_edit : ∀ (k next : Nat) (path : String) (d : Definition C) (h : next + d.size ≤ n)
    (h' : next + (d.edit f k).size ≤ n),
      (d.edit f k).flatten n next path h' = (d.flatten n next path h).modify k (Flat.edit f)
  | 0, _, _, .mk _ _ _, _, _ => rfl
  | k + 1, next, path, .mk _ _ entries, h, h' => by
    simp only [Definition.edit, Definition.flatten, List.modify_succ_cons]
    rw [targetsOf_editEntries, flatten_editEntries]

private theorem flatten_editEntries : ∀ (k next : Nat) (path : String) (es : List (String × Entry C))
    (h : next + entriesSize es ≤ n) (h' : next + entriesSize (editEntries f k es) ≤ n),
      flattenEntries n next path (editEntries f k es) h' = (flattenEntries n next path es h).modify k (Flat.edit f)
  | _, _, _, [], _, _ => by simp [editEntries, flattenEntries]
  | k, next, path, (name, .inline d) :: es, h, h' => by
    simp only [flattenEntries, modify_append, Definition.length_flatten, editEntries]
    split
    · simp only [flattenEntries, Definition.size_edit]
      rw [Definition.flatten_edit]
    · simp only [flattenEntries]
      rw [flatten_editEntries]
  | k, next, path, (name, .ref target) :: es, h, h' => by
    simp only [flattenEntries, editEntries]
    exact flatten_editEntries ..

end

/-! ### Resolution -/

namespace Definition

variable {d : Definition C} {slot : Nat}

/-- The index of the tree behind a change has the definition in the slot changed. -/
private theorem flat_edit (k : Fin d.size) : ((d.edit f slot).indexOf (size_edit slot d)).flat k =
    if slot = k then (d.index.flat k).edit f else d.index.flat k := by
  have hl := flatten_edit (f := f) slot 0 rootPath d (n := d.size) (by omega) (by rw [size_edit]; omega)
  have hk : k.1 < (d.flatten d.size 0 rootPath (by omega)).length := by rw [length_flatten]; exact k.2
  have hk' : k.1 < ((d.edit f slot).flatten d.size 0 rootPath (by rw [size_edit]; omega)).length := by
    rw [length_flatten, size_edit]
    exact k.2
  show List.get _ ⟨k.1, hk'⟩ = if slot = k then (List.get _ ⟨k.1, hk⟩).edit f else List.get _ ⟨k.1, hk⟩
  simp only [List.get_eq_getElem, hl, List.getElem_modify]

private theorem sameTree_edit : Index.SameTree d.index ((d.edit f slot).indexOf (size_edit slot d)) := by
  refine ⟨references_edit slot rootPath d, ?_, ?_, ?_⟩
  all_goals
    intro k
    rw [flat_edit]
    split <;> rfl

private theorem nestedBlocks_edit (f : Attributes (Handler C) → Attributes (Handler C)) (slot : Nat) :
    (Vector.finRange d.size).mapM
      (((d.edit f slot).indexOf (size_edit slot d)).nestedBlocks (List.finRange d.size)) = d.nestedBlocks :=
  congrArg (Vector.finRange _).mapM (funext (Index.nestedBlocks_of_sameTree sameTree_edit _))

private theorem attributes_edit (k : Nat) (d : Definition C) :
    (d.edit f k).attributes = if k = 0 then f d.attributes else d.attributes := by
  obtain ⟨attributes, shared, entries⟩ := d
  cases k <;> rfl

section

variable (hstart : ∀ a, (f a).start = a.start) (hstop : ∀ a, (f a).stop = a.stop)

include hstart hstop

/-- A tree whose definition in a slot is changed has the grammar of its index. -/
private theorem resolve_edit_eq (hs : d.attributes.start = none) (hs' : d.attributes.stop = none) :
    (d.edit f slot).resolve = ((d.edit f slot).indexOf (size_edit slot d)).grammar d.size_pos := by
  have ha : (d.edit f slot).attributes.start = none ∧ (d.edit f slot).attributes.stop = none := by
    rw [attributes_edit]
    split
    · exact ⟨(hstart _).trans hs, (hstop _).trans hs'⟩
    · exact ⟨hs, hs'⟩
  rw [resolve_eq_grammar (size_edit slot d), ha.1, ha.2]
  rfl

/-- The grammar of the changed tree has another spec for the changed definition. -/
theorem resolve_edit {g : Grammar C} (hg : d.resolve = .ok g) (slot : Fin g.size) {s : Spec C g.size}
    (hs : ∀ x : Flat C g.size, x.Made (g.spec slot).blocks (g.spec slot) → (x.edit f).Made (g.spec slot).blocks s) :
    (d.edit f slot).resolve = .ok ⟨g.size, g.size_pos, g.specs.set slot.1 s (g.slot_lt slot)⟩ := by
  obtain ⟨hroot, hroot', blocks, specs, hb, hspecs, rfl⟩ := resolve_eq_ok hg
  rw [resolve_edit_eq hstart hstop hroot hroot']
  refine Index.grammar_of_specs ((nestedBlocks_edit f slot).trans hb) fun k hk => ?_
  have hm := Flat.spec_eq_ok_iff.1 (hspecs k hk)
  rw [flat_edit, Vector.getElem_set]
  split
  · rename_i h
    subst h
    have hblocks : specs[slot.1].blocks = blocks[slot.1] := hm.blocks
    exact Flat.spec_eq_ok_iff.2 (hblocks ▸ hs _ (hblocks ▸ hm))
  · exact hspecs k hk

/-- When something is wrong with the change, the first thing that is wrong is reported. -/
theorem resolve_edit_of_fault {g : Grammar C} (hg : d.resolve = .ok g) {p : String} {e : Definition C}
    (hk : d.At slot p e) {fault : GrammarError} (hf : ((f e.attributes).faults p).head? = some fault) :
    (d.edit f slot).resolve = .error fault := by
  obtain ⟨hroot, hroot', blocks, specs, hb, hspecs, -⟩ := resolve_eq_ok hg
  rw [resolve_edit_eq hstart hstop hroot hroot']
  refine Index.grammar_of_fault hk.lt ((nestedBlocks_edit f slot).trans hb) ?_ ?_
  · obtain ⟨_, hflat⟩ := flat_at (k := ⟨slot, hk.lt⟩) hk
    rw [Flat.spec_eq_error_iff, flat_edit, if_pos rfl, hflat]
    exact hf
  · intro j hjn hj
    rw [flat_edit, if_neg (Nat.ne_of_gt hj)]
    exact ⟨_, hspecs j _⟩

end

end Definition

end Delimited
