import Delimited.GrammarFile
import Delimited.Proofs.Grammar.WellFormed

/-!
# Shared nested blocks in grammar files

The nested blocks of a block in a file may be those of another block: then a `ref` with the path of that block stands in
their place. `FileBlock.Holds` tells the blocks of a file. Where nothing stands beside the `ref`, the definition of the
block shares with the other one and has no entries of its own, and its spec has the same nested blocks
(`GrammarFile.shares_of_ref_alone`). Where something does, the `ref` is read as a nested block, which it is not, and there
is no grammar, though a definition may share and have entries of its own (`GrammarFile.not_extended`).
-/

namespace Delimited

open Toml (Value)

variable {C : Type}

/-! ### Shared nested blocks -/

/-- Nested blocks that are found are found as well when more slots are left to follow. -/
theorem Index.nestedBlocks_of_sublist {n : Nat} {t : Index C n} {unused unused' : List (Fin n)}
    (hu : unused.Sublist unused') {k : Fin n} {blocks : List (String × Fin n)}
    (h : t.nestedBlocks unused k = .ok blocks) : t.nestedBlocks unused' k = .ok blocks := by
  rw [nestedBlocks] at h ⊢
  dsimp only at h ⊢
  cases hs : (t.flat k).shared with
  | none => simpa only [hs] using h
  | some path =>
    simp only [hs] at h ⊢
    obtain ⟨owner, ho, h⟩ := bind_eq_ok h
    split at h
    · rename_i hk
      have := List.length_erase_of_mem hk
      have := List.length_pos_of_mem hk
      obtain ⟨base, hb, h⟩ := bind_eq_ok h
      have hbase := nestedBlocks_of_sublist (hu.erase k) hb
      rw [ho]
      show (if h : k ∈ unused' then _ else _) = _
      rw [dif_pos (hu.subset hk), hbase]
      exact h
    · cases h
termination_by unused.length

/-- A spec whose definition shares and has no entries of its own has the nested blocks of the spec that its path leads
to. -/
theorem Definition.blocks_of_shared_of_nil {d : Definition C} {g : Grammar C} (hg : d.resolve = .ok g) :
    ∃ specs, g = ⟨d.size, d.size_pos, specs⟩ ∧
      ∀ (slot : Fin d.size) path target (a : Attributes (Handler C)), d.At slot path (.mk a (some target) []) →
        ∃ owner, d.index.lookup (Index.ownerPath target) path = .ok owner ∧
          (specs.get slot).blocks = (specs.get owner).blocks := by
  obtain ⟨specs, rfl, hs⟩ := specs_of_resolve hg
  refine ⟨specs, rfl, fun slot path target a hat => ?_⟩
  obtain ⟨_, hf⟩ := flat_at hat
  have h := (hs slot).1
  rw [Index.nestedBlocks] at h
  simp only [hf, Definition.shared, Definition.entries, targetsOf, List.mem_finRange, dif_pos] at h
  obtain ⟨owner, ho, h⟩ := bind_eq_ok h
  obtain ⟨base, hbase, h⟩ := bind_eq_ok h
  obtain rfl := Except.ok.inj h
  have hsame := Index.nestedBlocks_of_sublist List.erase_sublist hbase
  exact ⟨owner, ho, Except.ok.inj (hsame.symm.trans (hs owner).1)⟩

/-! ### The blocks of a file -/

/-- The blocks of a file whose root is given, each with its path. -/
inductive FileBlock.Holds (root : FileBlock) : String → FileBlock → Prop
  | root : Holds root rootPath root
  | nested {path name : String} {b c : FileBlock} {v : Value} (h : Holds root path b)
    (hm : (name, v) ∈ b.nested.entries) (hv : readItem v = some (.block c)) : Holds root (childPath path name) c

section

variable {registry : Registry C}

/-- Nested blocks are read from the first one on. -/
theorem toEntries_append (path : String) (entries rest : List (String × Value)) :
    toEntries registry path (entries ++ rest) = do
      let es ← toEntries registry path entries
      let es' ← toEntries registry path rest
      return es ++ es' := by
  induction entries with
  | nil =>
    rw [toEntries]
    cases h : toEntries registry path rest <;> simp [h, bind, Except.bind, pure, Except.pure]
  | cons entry entries ih =>
    obtain ⟨name, v⟩ := entry
    rw [List.cons_append, toEntries_cons, toEntries_cons, ih]
    cases readItem v with
    | none => rfl
    | some item =>
      cases item with
      | ref target => cases toEntries registry path entries <;> cases toEntries registry path rest <;> rfl
      | block b =>
        dsimp only
        cases b.toDefinition registry (reportedPath path name) with
        | error e => rfl
        | ok d => cases toEntries registry path entries <;> cases toEntries registry path rest <;> rfl

/-- A `ref` is not a nested block. -/
theorem toEntries_ref (registry : Registry C) (path target : String) :
    toEntries registry path [("ref", .string target)] = .error (.invalidBlock (reportedPath path "ref")) := by
  rw [toEntries_cons]
  rfl

/-- Where one of the nested blocks cannot be read, none are. -/
theorem exists_toEntries_eq_error {path name : String} {v : Value} {e : FileError}
    (before after : List (String × Value)) (h : toEntries registry path [(name, v)] = .error e) :
    ∃ e', toEntries registry path (before ++ (name, v) :: after) = .error e' := by
  have hcons : (name, v) :: after = [(name, v)] ++ after := rfl
  rw [toEntries_append, hcons, toEntries_append, h]
  cases hb : toEntries registry path before with
  | error e' => exact ⟨e', rfl⟩
  | ok es => exact ⟨e, rfl⟩

/-- A nested block that is read is among the entries. -/
theorem exists_entry_of_toEntries {path name : String} {v : Value} {c : FileBlock} {entries : List (String × Value)}
    {es : List (String × Entry C)} (h : toEntries registry path entries = .ok es) (hm : (name, v) ∈ entries)
    (hv : readItem v = some (.block c)) :
    ∃ before d after, es = before ++ (name, .inline d) :: after ∧
      c.toDefinition registry (reportedPath path name) = .ok d := by
  obtain ⟨before, after, rfl⟩ := List.append_of_mem hm
  rw [toEntries_append, toEntries_block hv] at h
  obtain ⟨es₁, -, h⟩ := bind_eq_ok h
  obtain ⟨es₂, h₂, h⟩ := bind_eq_ok h
  obtain rfl := Except.ok.inj h
  obtain ⟨d, hd, h₂⟩ := bind_eq_ok h₂
  obtain ⟨es₃, -, h₂⟩ := bind_eq_ok h₂
  obtain rfl := Except.ok.inj h₂
  exact ⟨es₁, d, es₃, rfl, hd⟩

namespace FileBlock

variable {root b : FileBlock} {path : String}

/-- The definition of a block of a file is among those of the tree. -/
theorem Holds.exists_at {d : Definition C} (h : root.Holds path b) (hd : root.toDefinition registry rootPath = .ok d) :
    ∃ (slot : Fin d.size) (e : Definition C) (reported : String),
      d.At slot path e ∧ b.toDefinition registry reported = .ok e := by
  induction h with
  | root => exact ⟨⟨0, d.size_pos⟩, d, rootPath, d.at_zero, hd⟩
  | @nested path name b c v _ hm hv ih =>
    obtain ⟨slot, e, reported, hat, he⟩ := ih
    obtain ⟨a, shared | entries⟩ := b
    · obtain ⟨-, rfl⟩ := Prod.mk.inj (List.mem_singleton.1 hm)
      cases hv
    · rw [toDefinition_own] at he
      obtain ⟨a, -, he⟩ := bind_eq_ok he
      obtain ⟨es, hes, he⟩ := bind_eq_ok he
      obtain rfl := Except.ok.inj he
      obtain ⟨before, d', after, rfl, hd'⟩ := exists_entry_of_toEntries hes hm hv
      exact ⟨⟨_, hat.entry.lt⟩, d', _, hat.entry, hd'⟩

/-- A nested block that cannot be read leaves its block without a definition. -/
theorem exists_toDefinition_eq_error {name reported : String} {v : Value} (hm : (name, v) ∈ b.nested.entries)
    (hb : ∀ target, b.nested ≠ .shared target)
    (hv : ∃ e, toEntries registry reported [(name, v)] = .error e) : ∃ e, b.toDefinition registry reported = .error e := by
  obtain ⟨a, shared | entries⟩ := b
  · exact absurd rfl (hb shared)
  · rw [toDefinition_own]
    cases a.findHandler registry reported with
    | error e => exact ⟨e, rfl⟩
    | ok a =>
      obtain ⟨e, hv⟩ := hv
      obtain ⟨before, after, rfl⟩ := List.append_of_mem hm
      obtain ⟨e', he⟩ := exists_toEntries_eq_error before after hv
      exact ⟨e', by rw [he]; rfl⟩

/-- A file has no definition when one of its blocks has none. -/
theorem Holds.exists_error (h : root.Holds path b)
    (hb : ∀ reported, ∃ e, b.toDefinition registry reported = .error e) :
    ∃ e, root.toDefinition registry rootPath = .error e := by
  induction h with
  | root => exact hb rootPath
  | @nested path name b c v _ hm hv ih =>
    refine ih fun reported => exists_toDefinition_eq_error hm ?_ ?_
    · intro target hs
      rw [hs] at hm
      obtain ⟨-, rfl⟩ := Prod.mk.inj (List.mem_singleton.1 hm)
      cases hv
    · obtain ⟨e, he⟩ := hb (reportedPath reported name)
      exact ⟨e, by rw [toEntries_block hv, he]; rfl⟩

/-- A block with a `ref` among other entries shares with no block. -/
theorem ne_shared_of_ref_beside {target : String} (href : ("ref", .string target) ∈ b.nested.entries)
    (hne : b.nested.entries ≠ [("ref", .string target)]) (target' : String) : b.nested ≠ .shared target' := by
  intro hs
  rw [hs] at href hne
  have htarget := (Prod.mk.inj (List.mem_singleton.1 href)).2
  exact hne (by rw [htarget]; rfl)

/-- When the entries in front of a `ref` are read, the `ref` is what is wrong with a block that shares with none. -/
theorem toDefinition_of_ref_beside {reported target : String} {before after : List (String × Value)}
    {a : Attributes (Handler C)} {es : List (String × Entry C)} (hown : ∀ target', b.nested ≠ .shared target')
    (hsplit : b.nested.entries = before ++ ("ref", .string target) :: after)
    (ha : b.attributes.findHandler registry reported = .ok a) (hes : toEntries registry reported before = .ok es) :
    b.toDefinition registry reported = .error (.invalidBlock (reportedPath reported "ref")) := by
  obtain ⟨attributes, shared | entries⟩ := b
  · exact absurd rfl (hown shared)
  · obtain rfl : entries = before ++ ("ref", .string target) :: after := hsplit
    rw [toDefinition_own, ha, toEntries_append, hes, ← List.singleton_append, toEntries_append, toEntries_ref]
    rfl

/-- A block of a file has been read from its fields. -/
theorem Holds.exists_readBlock {fields : List (String × Value)} (hr : readBlock false fields = some root)
    (h : root.Holds path b) : ∃ dates fields, readBlock dates fields = some b := by
  cases h with
  | root => exact ⟨false, fields, hr⟩
  | nested _ _ hv =>
    obtain ⟨fields, hb⟩ := exists_readBlock_of_readItem hv
    exact ⟨true, fields, hb⟩

end FileBlock

namespace GrammarFile

/-- The root of a file is read from its top table. -/
theorem readBlock_of_ofTable? {top : List (String × Value)} {f : GrammarFile} (hf : ofTable? top = some f) :
    readBlock false top = some f.root := by
  simp only [ofTable?, Option.bind_eq_bind, Option.pure_def] at hf
  split at hf
  · obtain ⟨debug, -, hf⟩ := Option.bind_eq_some_iff.1 hf
    obtain ⟨options, -, hf⟩ := Option.bind_eq_some_iff.1 hf
    obtain ⟨root, hroot, hf⟩ := Option.bind_eq_some_iff.1 hf
    obtain rfl := Option.some.inj hf
    exact hroot
  · cases hf

/-- Where nothing stands beside a `ref`, the definition shares and has no entries of its own. -/
theorem exists_at_of_ref_alone {top : List (String × Value)} {f : GrammarFile} {path target : String} {b : FileBlock}
    {d : Definition C} (hf : ofTable? top = some f) (hb : f.root.Holds path b)
    (halone : b.nested.entries = [("ref", .string target)]) (hd : f.toDefinition registry = .ok d) :
    ∃ (slot : Fin d.size) (a : Attributes (Handler C)) (reported : String),
      b.attributes.findHandler registry reported = .ok a ∧ d.At slot path (.mk a (some target) []) := by
  obtain ⟨dates, fields, hread⟩ := hb.exists_readBlock (readBlock_of_ofTable? hf)
  have hshared := nested_of_readBlock_of_entries hread halone
  obtain ⟨slot, e, reported, hat, he⟩ := hb.exists_at hd
  obtain ⟨a, nested⟩ := b
  obtain rfl : nested = .shared target := hshared
  rw [FileBlock.toDefinition_shared] at he
  obtain ⟨a', ha, he⟩ := bind_eq_ok he
  obtain rfl := Except.ok.inj he
  exact ⟨slot, a', reported, ha, hat⟩

/-- A block of a file with a `ref` among the entries of its `blocks` shares with the block at this path if nothing stands
beside the `ref`: then its definition has no entries of its own, and its nested blocks are those of the block that the
path leads to. Otherwise there is no grammar: when the entries in front of the `ref` can be read, the `ref` is what is
wrong with the block. -/
theorem shares_of_ref_alone {top : List (String × Value)} {f : GrammarFile} {path target : String} {b : FileBlock}
    (hf : ofTable? top = some f) (hb : f.root.Holds path b) (href : ("ref", .string target) ∈ b.nested.entries)
    (registry : Registry C) :
    (b.nested.entries = [("ref", .string target)] → ∀ d, f.toDefinition registry = .ok d →
      f.toGrammar registry = d.resolve.mapError .grammar ∧
        ∃ (slot : Fin d.size) (a : Attributes (Handler C)) (reported : String),
          b.attributes.findHandler registry reported = .ok a ∧ d.At slot path (.mk a (some target) []) ∧
            ∀ g, d.resolve = .ok g → ∃ specs, g = ⟨d.size, d.size_pos, specs⟩ ∧
              ∃ owner, d.index.lookup (Index.ownerPath target) path = .ok owner ∧
                (specs.get slot).blocks = (specs.get owner).blocks) ∧
      (b.nested.entries ≠ [("ref", .string target)] →
        (∃ e, f.toDefinition registry = .error e ∧ f.toGrammar registry = .error e) ∧
          ∀ reported before after a es, b.nested.entries = before ++ ("ref", .string target) :: after →
            b.attributes.findHandler registry reported = .ok a → toEntries registry reported before = .ok es →
              b.toDefinition registry reported = .error (.invalidBlock (reportedPath reported "ref"))) := by
  constructor
  · intro halone d hd
    obtain ⟨slot, a, reported, ha, hat⟩ := exists_at_of_ref_alone hf hb halone hd
    refine ⟨toGrammar_of_toDefinition hd, slot, a, reported, ha, hat, fun g hg => ?_⟩
    obtain ⟨specs, rfl, hspecs⟩ := Definition.blocks_of_shared_of_nil hg
    exact ⟨specs, rfl, hspecs slot path target a hat⟩
  · intro hne
    have hown := FileBlock.ne_shared_of_ref_beside href hne
    constructor
    · obtain ⟨e, he⟩ := hb.exists_error fun reported =>
        FileBlock.exists_toDefinition_eq_error href hown ⟨_, toEntries_ref registry reported target⟩
      exact ⟨e, he, toGrammar_of_error he⟩
    · exact fun reported before after a es hsplit ha hes => FileBlock.toDefinition_of_ref_beside hown hsplit ha hes

/-- The table of a block that shares with the root, with further entries beside the `ref`. -/
private def nestTable (own : List (String × Value)) : Value :=
  .table [("start", .string "["), ("stop", .string "]"), ("blocks", .table (("ref", .string "/blocks") :: own))]

/-- A file with a block that shares with the root. -/
private def nestFile (own : List (String × Value)) : GrammarFile := ⟨none, {}, {}, .own [("a", nestTable own)]⟩

/-- A definition with a block that shares with the root and has further entries. -/
private def nestRoot (own : List (String × Entry Unit)) : Definition Unit :=
  .mk {} none [("a", .inline (.mk { start := some "[", stop := some "]" } (some "/blocks") own))]

private theorem toDefinition_nestFile : (nestFile []).toDefinition .empty = .ok (nestRoot []) := by
  cbv

private theorem resolvesTo_nestRoot : (nestRoot []).resolvesTo (fun _ => true) = true := by
  cbv

/-- The `ref` stands alone: the block has the nested blocks of the root. -/
theorem shares_of_ref_alone_root :
    ofTable? [("blocks", .table [("a", nestTable [])])] = some (nestFile []) ∧
      (nestFile []).root.Holds (childPath rootPath "a") ⟨{ start := some "[", stop := some "]" }, .shared "/blocks"⟩ ∧
        (nestFile []).toDefinition .empty = .ok (nestRoot []) ∧
          ∃ specs : Vector (Spec Unit (nestRoot []).size) (nestRoot []).size,
            (nestFile []).toGrammar .empty = .ok ⟨(nestRoot []).size, (nestRoot []).size_pos, specs⟩ ∧
              ∃ (slot owner : Fin (nestRoot []).size) (a : Attributes (Handler Unit)),
                (nestRoot []).At slot (childPath rootPath "a") (.mk a (some "/blocks") []) ∧
                  (nestRoot []).index.lookup (Index.ownerPath "/blocks") (childPath rootPath "a") = .ok owner ∧
                    (specs.get slot).blocks = (specs.get owner).blocks := by
  have hf : ofTable? [("blocks", .table [("a", nestTable [])])] = some (nestFile []) := rfl
  have hitem : readItem (nestTable []) =
      some (.block ⟨{ start := some "[", stop := some "]" }, .shared "/blocks"⟩) := rfl
  have hm : ("a", nestTable []) ∈ (nestFile []).root.nested.entries := List.mem_cons_self
  have hb := FileBlock.Holds.nested .root hm hitem
  obtain ⟨g, hg, -⟩ := Definition.exists_of_resolvesTo resolvesTo_nestRoot
  obtain ⟨hgrammar, slot, a, _, -, hat, hblocks⟩ :=
    (shares_of_ref_alone hf hb List.mem_cons_self .empty).1 rfl _ toDefinition_nestFile
  obtain ⟨specs, rfl, owner, ho, h⟩ := hblocks g hg
  exact ⟨hf, hb, toDefinition_nestFile, specs, by rw [hgrammar, hg]; rfl, slot, owner, a, hat, ho, h⟩

private theorem resolvesTo_nestRoot_ref :
    (nestRoot [("d", .ref "/blocks/a")]).resolvesTo (fun g => decide
      (g.specs.toList.map (fun s => s.blocks.map fun b => (b.1, b.2.val)) = [[("a", 1)], [("a", 1), ("d", 1)]])) =
        true := by
  cbv

private theorem toGrammar_nestFile_ref :
    (nestFile [("d", .table [("ref", .string "/blocks/a")])]).toGrammar (.empty : Registry Unit) =
      .error (.invalidBlock "/blocks/a/blocks/ref") := by
  cbv

/-- In the definition the block shares the nested block `a` of the root and has `d` behind it, but the file in which `d`
stands beside the `ref` has no grammar. -/
theorem not_extended :
    ofTable? [("blocks", .table [("a", nestTable [("d", .table [("ref", .string "/blocks/a")])])])] =
        some (nestFile [("d", .table [("ref", .string "/blocks/a")])]) ∧
      (∃ g, (nestRoot [("d", .ref "/blocks/a")]).resolve = .ok g ∧
        g.specs.toList.map (fun s => s.blocks.map fun b => (b.1, b.2.val)) = [[("a", 1)], [("a", 1), ("d", 1)]]) ∧
      (nestFile [("d", .table [("ref", .string "/blocks/a")])]).toGrammar (.empty : Registry Unit) =
        .error (.invalidBlock "/blocks/a/blocks/ref") := by
  obtain ⟨g, hg, h⟩ := Definition.exists_of_resolvesTo resolvesTo_nestRoot_ref
  exact ⟨rfl, ⟨g, hg, of_decide_eq_true h⟩, toGrammar_nestFile_ref⟩

end GrammarFile

end

end Delimited
