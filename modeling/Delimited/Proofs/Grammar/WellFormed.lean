import Mathlib
import Delimited.Proofs.Grammar.Block
import Delimited.Proofs.Grammar.Resolved
import Delimited.Proofs.Grammar.Sharing

/-!
# Well-formed grammars

What a scan relies on and never looks at again. A grammar that a definition resolves to has one spec for each definition
of the tree, in the order in which they are met, and the spec says what the definition does (`Definition.WellFormed`).
Every block can be opened by nesting from the root, since the nested blocks of a definition are among those of its spec
under their own names.
-/

namespace Delimited

open Relation

variable {C : Type}

/-! ### Nested blocks -/

/-- The names of nested blocks are distinct, and each entry with a definition of its own is among them. -/
private theorem Index.of_nestedBlocks {n : Nat} {t : Index C n}
    (ht : ∀ k : Fin n, ((t.flat k).targets.map Prod.fst).Nodup)
    {unused : List (Fin n)} {k : Fin n} {blocks : List (String × Fin n)} (h : t.nestedBlocks unused k = .ok blocks) :
    (blocks.map Prod.fst).Nodup ∧ ∀ name j, (name, .slot j) ∈ (t.flat k).targets → (name, j) ∈ blocks := by
  obtain ⟨hnodup, hlinks⟩ := exists_link_of_nestedBlocks h
  refine ⟨hnodup, fun name j hm => ?_⟩
  obtain ⟨link, hlink, hl⟩ := hlinks (ht k) _ hm
  obtain rfl := Except.ok.inj hl
  exact hlink

namespace Definition

variable {d : Definition C}

/-! ### Definitions and specs -/

/-- The grammar that a definition resolves to, as a scan relies on it. -/
structure WellFormed (d : Definition C) (g : Grammar C) : Prop where
  paths : g.specs.toList.map Spec.path = (d.preorder rootPath).map Prod.fst
  root : g.root.path = rootPath ∧ g.root.start = none ∧ g.root.stop = none
  starts : ∀ slot, slot ≠ g.rootSlot → ∃ s, (g.spec slot).start = some s ∧ s.text ≠ ""
  /-- What the definition says about its delimiters and its rules is kept. -/
  texts : ∀ (slot : Fin g.size) p e, d.At slot p e →
    (g.spec slot).start.map Delimiter.text = e.attributes.start ∧
      (g.spec slot).stop.map Delimiter.text = e.attributes.stop ∧
        (g.spec slot).escapedStart.map Delimiter.text = e.attributes.escapedStart ∧
          (g.spec slot).escapedStop.map Delimiter.text = e.attributes.escapedStop ∧
            (g.spec slot).split.map Rule.written = e.attributes.split ∧
              (g.spec slot).strip.map Rule.written = e.attributes.strip
  delimiters : ∀ slot, ∀ s ∈ [(g.spec slot).stop, (g.spec slot).escapedStart, (g.spec slot).escapedStop],
    s.map Delimiter.text ≠ some ""
  literals : ∀ slot, ∀ r ∈ (g.spec slot).split.toList ++ (g.spec slot).strip, r.written ≠ .literal ""
  slots : ∀ slot, ∀ b ∈ (g.spec slot).blocks, b.2.val < d.size
  names : ∀ slot, ((g.spec slot).blocks.map Prod.fst).Nodup
  nested : ∀ slot, ReflTransGen (fun k l => ∃ name, (name, l) ∈ (g.spec k).blocks) g.rootSlot slot
  /-- The definition of an entry has its slot behind those of the definitions below the entries in front of it. -/
  entries : ∀ (slot : Fin g.size) p attributes shared before name e after,
    d.At slot p (.mk attributes shared (before ++ (name, .inline e) :: after)) →
      d.At (slot + 1 + entriesSize before) (childPath p name) e ∧
        ∃ b ∈ (g.spec slot).blocks, b.1 = name ∧ b.2.val = slot + 1 + entriesSize before

variable {g : Grammar C}

private theorem written_of_rel {r : Option RuleText} {rule : Option Rule} (h : Option.Rel RuleText.Makes r rule) :
    rule.map Rule.written = r := by
  cases h with
  | none => rfl
  | some h => exact congrArg some h.written

private theorem written_of_forall₂ {rs : List RuleText} {rules : List Rule} (h : List.Forall₂ RuleText.Makes rs rules) :
    rules.map Rule.written = rs := by
  induction h with
  | nil => rfl
  | cons h _ ih => rw [List.map_cons, h.written, ih]

/-- The entries of the definitions in the index have distinct names when those of the tree have. -/
theorem nodup_targets (hd : d.DistinctNames) (k : Fin d.size) :
    ((d.index.flat k).targets.map Prod.fst).Nodup := by
  obtain ⟨p, e, hk⟩ := exists_at k.2
  obtain ⟨_, hf⟩ := flat_at hk
  rw [hf, targetsOf_names]
  exact hd _ hk.mem

/-- An entry with a definition of its own is a target with the slot of this definition. -/
private theorem mem_targets {k : Fin d.size} {p : String} {attributes : Attributes (Handler C)} {shared : Option String}
    {before after : List (String × Entry C)} {name : String} {e : Definition C}
    (h : d.At k p (.mk attributes shared (before ++ (name, .inline e) :: after))) :
    (name, .slot ⟨k + 1 + entriesSize before, h.entry.lt⟩) ∈ (d.index.flat k).targets := by
  obtain ⟨_, hf⟩ := flat_at h
  rw [hf]
  simp only [entries, targetsOf_append]
  exact List.mem_append_right _ List.mem_cons_self

/-- The spec in the slot of a definition has the path of this definition. -/
theorem path_of_resolve (h : d.resolve = .ok g) {slot : Nat} {p : String} {e : Definition C} (hk : d.At slot p e) :
    ∃ hs, (g.spec ⟨slot, hs⟩).path = p := by
  obtain ⟨specs, rfl, hs⟩ := specs_of_resolve h
  exact ⟨hk.lt, (hs ⟨slot, hk.lt⟩).2.path.trans (path_flat (k := ⟨slot, hk.lt⟩) hk)⟩

/-- The specs have the paths of the definitions, in the order in which these are met. -/
theorem paths_of_resolve (h : d.resolve = .ok g) :
    g.specs.toList.map Spec.path = (d.preorder rootPath).map Prod.fst := by
  have hsize : g.size = d.size := by
    obtain ⟨specs, rfl, -⟩ := specs_of_resolve h
    rfl
  refine List.ext_getElem (by simp [length_preorder, hsize]) fun i hi hi' => ?_
  have hi : i < d.size := by simpa [hsize] using hi
  obtain ⟨p, e, hk⟩ := exists_at hi
  obtain ⟨hlt, hk'⟩ := List.getElem?_eq_some_iff.1 hk
  obtain ⟨hs, hp⟩ := path_of_resolve h hk
  simpa [hk', Grammar.spec] using hp

/-- The names of the nested blocks of a spec are distinct. -/
theorem nodup_names_of_resolve (hd : d.DistinctNames) (h : d.resolve = .ok g) (slot : Fin g.size) :
    ((g.spec slot).blocks.map Prod.fst).Nodup := by
  obtain ⟨specs, rfl, hs⟩ := specs_of_resolve h
  exact (Index.of_nestedBlocks (nodup_targets hd) (hs slot).1).1

/-- The definition of an entry is a nested block of the spec that the entry belongs to, under the name of the entry. -/
theorem mem_blocks_of_resolve (hd : d.DistinctNames) (h : d.resolve = .ok g) {k : Fin g.size} {p : String}
    {attributes : Attributes (Handler C)} {shared : Option String} {before after : List (String × Entry C)}
    {name : String} {e : Definition C}
    (hk : d.At k p (.mk attributes shared (before ++ (name, .inline e) :: after))) :
    ∃ hs, (name, ⟨k + 1 + entriesSize before, hs⟩) ∈ (g.spec k).blocks := by
  obtain ⟨specs, rfl, hs⟩ := specs_of_resolve h
  exact ⟨hk.entry.lt, (Index.of_nestedBlocks (nodup_targets hd) (hs k).1).2 _ _ (mem_targets hk)⟩

/-- Every block can be opened by nesting from the root. -/
theorem nested_of_resolve (hd : d.DistinctNames) (h : d.resolve = .ok g) (slot : Fin g.size) :
    ReflTransGen (fun k l => ∃ name, (name, l) ∈ (g.spec k).blocks) g.rootSlot slot := by
  have hg := h
  obtain ⟨specs, rfl, -⟩ := specs_of_resolve h
  obtain ⟨i, hi⟩ := slot
  -- a definition other than the root is that of an entry, and this entry belongs to a definition in front of it
  induction i using Nat.strongRecOn with
  | _ i ih =>
  obtain ⟨p, e, hk⟩ := exists_at hi
  rcases hk.cases with ⟨rfl, -, -⟩ | ⟨j, q, attributes, shared, before, name, after, hj, rfl, -⟩
  · exact .refl
  · obtain ⟨_, hm⟩ := mem_blocks_of_resolve hd hg (k := ⟨j, hj.lt⟩) hj
    exact (ih j (by omega) hj.lt).tail ⟨name, hm⟩

/-- A definition resolves when its root is not delimited, all nested blocks are found, and nothing is wrong with any of the
blocks. -/
theorem exists_resolve_of_faults {blocks : Vector (List (String × Fin d.size)) d.size}
    (hstart : d.attributes.start = none) (hstop : d.attributes.stop = none) (hb : d.nestedBlocks = .ok blocks)
    (hfaults : ∀ b ∈ d.preorder rootPath, b.2.attributes.faults b.1 = []) : ∃ g, d.resolve = .ok g := by
  refine exists_resolve hstart hstop hb fun k hk => Flat.exists_spec_iff.2 ?_
  obtain ⟨p, e, hat⟩ := exists_at hk
  obtain ⟨_, hflat⟩ := flat_at (k := ⟨k, hk⟩) hat
  rw [hflat]
  exact hfaults _ hat.mem

/-- A definition that resolves, resolves to a grammar that is well formed. -/
theorem wellFormed_of_resolve (hd : d.DistinctNames) (h : d.resolve = .ok g) : d.WellFormed g := by
  constructor
  case paths => exact paths_of_resolve h
  case root =>
    obtain ⟨_, hp⟩ := path_of_resolve h d.at_zero
    exact ⟨hp, root_of_resolve h⟩
  case starts =>
    obtain ⟨specs, rfl, hs⟩ := specs_of_resolve h
    intro slot hne
    obtain ⟨p, e, hk⟩ := exists_at slot.2
    have hp : (d.index.flat slot).path ≠ rootPath := by
      rw [path_flat hk, Ne, hk.path_eq_rootPath_iff]
      exact fun h => hne (Fin.ext h)
    obtain ⟨s, hs⟩ := Option.isSome_iff_exists.1 ((hs slot).2.opens hp)
    exact ⟨s, hs, s.text_ne_empty⟩
  case texts =>
    obtain ⟨specs, rfl, hs⟩ := specs_of_resolve h
    intro slot p e hk
    have hm := (hs slot).2
    rw [← attributes_flat hk]
    refine ⟨hm.start, hm.stop, hm.escapedStart, hm.escapedStop, ?_, ?_⟩
    · exact written_of_rel hm.split
    · exact written_of_forall₂ hm.strip
  case delimiters =>
    intro slot s _ hs
    obtain ⟨t, -, ht⟩ := Option.map_eq_some_iff.1 hs
    exact t.text_ne_empty ht
  case literals =>
    intro slot r _ hr
    cases r with
    | literal t => exact t.text_ne_empty (RuleText.literal.inj hr)
    | pattern p => cases hr
  case slots =>
    obtain ⟨specs, rfl, -⟩ := specs_of_resolve h
    exact fun slot b _ => b.2.2
  case names => exact nodup_names_of_resolve hd h
  case nested => exact nested_of_resolve hd h
  case entries =>
    intro slot p attributes shared before name e after hk
    obtain ⟨_, hm⟩ := mem_blocks_of_resolve hd h hk
    exact ⟨hk.entry, _, hm, rfl, rfl⟩

/-- A list whose items are lists again. -/
private def nestedLists : Definition Unit :=
  .mk {} none
    [("list", .inline (.mk { start := some "(", stop := some ")", split := some (.literal ",") } none
      [("list", .ref "/blocks/list")]))]

/-- Lists in lists resolve to the root and one block. -/
theorem wellFormed_of_resolve_nestedLists :
    nestedLists.DistinctNames ∧ ∃ g, nestedLists.resolve = .ok g ∧ nestedLists.WellFormed g ∧ g.size = 2 := by
  have hd : nestedLists.DistinctNames := of_decide_eq_true (by cbv)
  have h : nestedLists.resolvesTo (fun g => g.size = 2) = true := by cbv
  obtain ⟨g, hg, h⟩ := exists_of_resolvesTo h
  exact ⟨hd, g, hg, wellFormed_of_resolve hd hg, of_decide_eq_true h⟩

end Definition

end Delimited
