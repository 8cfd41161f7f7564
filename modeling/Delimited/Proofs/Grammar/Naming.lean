import Delimited.Proofs.Grammar.WellFormed

/-!
# Paths as names of blocks

In a tree with unambiguous names a path names one block: no two specs have the same path, a reference to the path of a
definition is resolved to the slot of this definition, and an entry that is added elsewhere (`Definition.Adds`) leaves
every path with the definition that it leads to (`Adds.lookup`, `Definition.path_names_one_block`).

Any other name may be taken for a way through several blocks: a block named `a/blocks/b` has the path of the block `b` in
the block `a`, and of two blocks with one path a reference leads to the last one (`Definition.path_names_two_blocks`).
-/

namespace Delimited

variable {C : Type}

namespace Definition

variable {d d' e : Definition C} {name : String} {entry : Entry C}

/-! ### An entry that is added -/

/-- The second definition is the first one with an entry added to it or to one of the definitions below it. -/
inductive Adds (name : String) (entry : Entry C) : Definition C → Definition C → Prop
  | here (attributes : Attributes (Handler C)) (shared : Option String) (before after : List (String × Entry C)) :
    Adds name entry (.mk attributes shared (before ++ after)) (.mk attributes shared (before ++ (name, entry) :: after))
  | inside (attributes : Attributes (Handler C)) (shared : Option String) (before after : List (String × Entry C))
      (block : String) {e e' : Definition C} (h : Adds name entry e e') :
    Adds name entry (.mk attributes shared (before ++ (block, .inline e) :: after))
      (.mk attributes shared (before ++ (block, .inline e') :: after))

/-- The definition in a slot of the first tree is the one in a slot of the second tree, the added entry aside, and has
the same path. -/
def Stays (name : String) (entry : Entry C) (d d' : Definition C) (k k' : Nat) : Prop :=
  ∃ p e e', d.At k p e ∧ d'.At k' p e' ∧ (e' = e ∨ Adds name entry e e')

namespace Adds

/-- The definitions of the first tree are in the second one under the same paths. -/
theorem mem_preorder (h : Adds name entry d d') {path p : String} (he : (p, e) ∈ d.preorder path) :
    ∃ e', (p, e') ∈ d'.preorder path ∧ (e' = e ∨ Adds name entry e e') := by
  induction h generalizing path with
  | here attributes shared before after =>
    rw [preorder, List.mem_cons, entriesPreorder_append, List.mem_append] at he
    rcases he with he | he | he
    · obtain ⟨rfl, rfl⟩ := Prod.mk.inj he
      exact ⟨_, List.mem_cons_self, Or.inr (.here ..)⟩
    · refine ⟨e, ?_, Or.inl rfl⟩
      rw [preorder, entriesPreorder_append]
      exact List.mem_cons_of_mem _ (List.mem_append_left _ he)
    · refine ⟨e, ?_, Or.inl rfl⟩
      rw [preorder, entriesPreorder_append]
      refine List.mem_cons_of_mem _ (List.mem_append_right _ ?_)
      obtain ⟨name', e', hm, hb⟩ := mem_entriesPreorder.1 he
      exact mem_entriesPreorder.2 ⟨name', e', List.mem_cons_of_mem _ hm, hb⟩
  | @inside attributes shared before after block e₁ e₁' h ih =>
    rw [preorder, List.mem_cons, entriesPreorder_append, entriesPreorder, List.mem_append, List.mem_append] at he
    rw [preorder, entriesPreorder_append, entriesPreorder]
    rcases he with he | he | he | he
    · obtain ⟨rfl, rfl⟩ := Prod.mk.inj he
      exact ⟨_, List.mem_cons_self, Or.inr (.inside _ _ _ _ _ h)⟩
    · exact ⟨e, by simp [he], Or.inl rfl⟩
    · obtain ⟨e', he', hs⟩ := ih he
      exact ⟨e', by simp [he'], hs⟩
    · exact ⟨e, by simp [he], Or.inl rfl⟩

/-- References among the entries of a definition stay there. -/
theorem mem_entries (h : Adds name entry d d') {source target : String} (hm : (source, .ref target) ∈ d.entries) :
    (source, .ref target) ∈ d'.entries := by
  cases h with
  | here attributes shared before after =>
    simp only [entries, List.mem_append, List.mem_cons] at hm ⊢
    exact hm.imp_right Or.inr
  | inside attributes shared before after block h =>
    simp only [entries, List.mem_append, List.mem_cons, Prod.mk.injEq, reduceCtorEq, and_false, false_or] at hm ⊢
    exact hm

private theorem exists_at (h : Adds name entry d d') {k : Nat} {p : String} (ha : d.At k p e) :
    ∃ k' e', d'.At k' p e' ∧ (e' = e ∨ Adds name entry e e') := by
  obtain ⟨e', hm, hs⟩ := h.mem_preorder ha.mem
  obtain ⟨k', hk'⟩ := exists_at_of_mem hm
  exact ⟨k', e', hk', hs⟩

private theorem refers (h : Adds name entry d d') {path target : String} (hr : d.Refers path target) :
    d'.Refers path target := by
  obtain ⟨k, parent, e, source, ha, hm, rfl⟩ := hr
  obtain ⟨k', e', ha', hs⟩ := h.exists_at ha
  refine ⟨k', parent, e', source, ha', ?_, rfl⟩
  rcases hs with rfl | hs
  · exact hm
  · exact hs.mem_entries hm

private theorem leads (h : Adds name entry d d') {path : String} {k : Nat} (hl : d.Leads path k) :
    ∃ k', d'.Leads path k' ∧ Stays name entry d d' k k' := by
  induction hl with
  | @here path k e ha =>
    obtain ⟨k', e', ha', hs⟩ := h.exists_at ha
    exact ⟨k', .here ha', path, e, e', ha, ha', hs⟩
  | next hr _ ih =>
    obtain ⟨k', hl', hs⟩ := ih
    exact ⟨k', .next (h.refers hr) hl', hs⟩

/-- What a path leads to stays what it leads to. -/
theorem lookup (h : Adds name entry d d') (hd : d.Unambiguous) (hd' : d'.Unambiguous) {path source : String}
    {k : Fin d.size} (hl : d.index.lookup path source = .ok k) (source' : String) :
    ∃ k' : Fin d'.size, d'.index.lookup path source' = .ok k' ∧ Stays name entry d d' k k' := by
  obtain ⟨k', hl', hs⟩ := h.leads ((lookup_eq_ok_iff hd).1 hl)
  exact ⟨⟨k', hl'.lt⟩, (lookup_eq_ok_iff hd').2 hl', hs⟩

end Adds

/-! ### References in a grammar -/

private theorem Unambiguous.nodup_paths (hd : d.Unambiguous) : ((d.preorder rootPath).map Prod.fst).Nodup := by
  rw [List.Nodup, List.pairwise_map, List.pairwise_iff_getElem]
  intro i j hi hj hlt hp
  have hat : ∀ k (hk : k < (d.preorder rootPath).length), d.At k (d.preorder rootPath)[k].1 (d.preorder rootPath)[k].2 :=
    fun k hk => List.getElem?_eq_getElem hk
  exact Nat.ne_of_lt hlt ((hat i hi).unique hd (hp ▸ hat j hj))

private theorem ref_mem_targetsOf {n next : Nat} {es : List (String × Entry C)} (hes : next + entriesSize es ≤ n)
    {source target : String} (h : (source, .ref target) ∈ es) : (source, .ref target) ∈ targetsOf n next es hes := by
  induction es generalizing next with
  | nil => cases h
  | cons b es ih =>
    obtain ⟨block, e | path⟩ := b
    · rw [List.mem_cons] at h
      exact List.mem_cons_of_mem _ (ih _ (h.resolve_left (by simp)))
    · rcases List.mem_cons.1 h with h | h
      · cases h
        exact List.mem_cons_self
      · exact List.mem_cons_of_mem _ (ih _ h)

/-- A reference is a nested block of its spec, the one that its path leads to. -/
theorem exists_lookup_of_ref {g : Grammar C} (hd : d.DistinctNames) (hg : d.resolve = .ok g) :
    ∃ specs, g = ⟨d.size, d.size_pos, specs⟩ ∧
      ∀ (slot : Fin d.size) parent e source target, d.At slot parent e → (source, .ref target) ∈ e.entries →
        ∃ k, d.index.lookup target parent = .ok k ∧ (source, k) ∈ (specs.get slot).blocks := by
  obtain ⟨specs, rfl, hs⟩ := specs_of_resolve hg
  refine ⟨specs, rfl, fun slot parent e source target ha hm => ?_⟩
  obtain ⟨hsize, hf⟩ := flat_at ha
  have htarget : (source, .ref target) ∈ (d.index.flat slot).targets := by
    rw [hf]
    exact ref_mem_targetsOf hsize hm
  obtain ⟨link, hlink, hl⟩ := (Index.exists_link_of_nestedBlocks (hs slot).1).2 (nodup_targets hd slot) _ htarget
  obtain ⟨k, hk, hl⟩ := bind_eq_ok hl
  obtain rfl := Except.ok.inj hl
  exact ⟨k, path_flat ha ▸ hk, hlink⟩

/-- Where names are unambiguous, a path names one block: no two specs have the same path, and a reference to the path of a
definition is resolved to the slot of this definition. An entry that is added anywhere under a new unambiguous name leaves
every path with the definition that it leads to, and every reference with the block that it is resolved to. -/
theorem path_names_one_block {g : Grammar C} (hd : d.Unambiguous) (hg : d.resolve = .ok g) :
    (g.specs.toList.map Spec.path).Nodup ∧
      (∀ (slot block : Fin g.size) parent e source path f, d.At slot parent e → (source, .ref path) ∈ e.entries →
        d.At block path f → (source, block) ∈ (g.spec slot).blocks) ∧
      ∀ name entry d', Adds name entry d d' → d'.Unambiguous →
        (∀ path source (k : Fin d.size), d.index.lookup path source = .ok k →
          ∃ k', d'.index.lookup path source = .ok k' ∧ Stays name entry d d' k k') ∧
        ∀ g', d'.resolve = .ok g' → ∀ slot : Fin g.size, ∃ slot' : Fin g'.size, Stays name entry d d' slot slot' ∧
          ∀ parent e source path block, d.At slot parent e → (source, .ref path) ∈ e.entries →
            (source, block) ∈ (g.spec slot).blocks →
              ∃ block', (source, block') ∈ (g'.spec slot').blocks ∧ Stays name entry d d' block block' := by
  have hnames := nodup_names_of_resolve hd.distinct hg
  have hpaths := paths_of_resolve hg
  obtain ⟨specs, rfl, hrefs⟩ := exists_lookup_of_ref hd.distinct hg
  refine ⟨?_, ?_, fun name entry d' h hd' => ⟨fun path source k hl => h.lookup hd hd' hl source, ?_⟩⟩
  · rw [hpaths]
    exact hd.nodup_paths
  · intro slot block parent e source path f ha hm hf
    obtain ⟨k, hk, hmem⟩ := hrefs slot parent e source path ha hm
    rw [(lookup_eq_ok_iff hd).2 (.here hf)] at hk
    obtain rfl := Except.ok.inj hk
    exact hmem
  · intro g' hg' slot
    obtain ⟨specs', rfl, hrefs'⟩ := exists_lookup_of_ref hd'.distinct hg'
    obtain ⟨p, e, ha⟩ := Definition.exists_at slot.2
    obtain ⟨k', e', ha', hs⟩ := h.exists_at ha
    refine ⟨⟨k', ha'.lt⟩, ⟨p, e, e', ha, ha', hs⟩, fun parent f source path block hf hm hb => ?_⟩
    obtain ⟨rfl, rfl⟩ := ha.eq_of_slot hf
    have hm' : (source, .ref path) ∈ e'.entries := by
      rcases hs with rfl | hs
      · exact hm
      · exact hs.mem_entries hm
    obtain ⟨k, hk, hmem⟩ := hrefs slot p e source path ha hm
    obtain ⟨j, hj, hmem'⟩ := hrefs' ⟨k', ha'.lt⟩ p e' source path ha' hm'
    obtain ⟨j', hj', hstays⟩ := h.lookup hd hd' hk p
    obtain rfl : j = j' := Except.ok.inj (hj.symm.trans hj')
    -- the spec has one nested block of this name
    obtain ⟨-, rfl⟩ := Prod.mk.inj (List.inj_on_of_nodup_map (hnames slot) hmem hb rfl)
    exact ⟨j, hmem', hstays⟩

private def braces : Definition Unit := .mk { start := some "\x7b", stop := some "\x7d" } none []

/-- A block `b` in a block `a`, a reference to it, and further blocks. -/
private def brackets (names : List String) : Definition Unit :=
  .mk {} none
    ([("a", .inline (.mk { start := some "(", stop := some ")" } none
        [("b", .inline (.mk { start := some "[", stop := some "]" } none []))])),
      ("r", .ref "/blocks/a/blocks/b")] ++ names.map fun name => (name, .inline braces))

private theorem adds_brackets (name : String) : Adds name (.inline braces) (brackets []) (brackets [name]) :=
  .here {} none _ []

private theorem faults_brackets {names : List String} {b : String × Definition Unit}
    (h : b ∈ (brackets names).preorder rootPath) : b.2.attributes.faults b.1 = [] := by
  simp only [brackets, braces, preorder, entriesPreorder, List.cons_append, List.nil_append, List.append_nil,
    List.mem_cons, mem_entriesPreorder, List.mem_map, Prod.mk.injEq, Entry.inline.injEq] at h
  rcases h with rfl | rfl | rfl | ⟨name, e, ⟨_, _, rfl, rfl⟩, h⟩
  case inr.inr.inr =>
    obtain rfl := List.mem_singleton.1 h
    simp [attributes, Attributes.faults, delimiterFaults]
  all_goals simp [attributes, Attributes.faults, delimiterFaults]

/-- Nothing is wrong with the blocks themselves, so the tree resolves when the nested blocks are found. -/
private theorem exists_resolve_brackets (names : List String) (blocks : List (String × Nat))
    (h : (match (brackets names).nestedBlocks with
      | .ok v => decide ((v.get ⟨0, (brackets names).size_pos⟩).map (fun b => (b.1, b.2.val)) = blocks)
      | .error _ => false) = true) :
    ∃ g, (brackets names).resolve = .ok g ∧ g.root.blocks.map (fun b => (b.1, b.2.val)) = blocks := by
  cases hb : (brackets names).nestedBlocks with
  | error fault => simp [hb] at h
  | ok v =>
    have hv : (v.get ⟨0, (brackets names).size_pos⟩).map (fun b => (b.1, b.2.val)) = blocks := by simpa [hb] using h
    obtain ⟨g, hg⟩ := exists_resolve_of_faults (d := brackets names) rfl rfl hb fun _ => faults_brackets
    obtain ⟨-, -, blocks', specs, hb', hs, rfl⟩ := resolve_eq_ok hg
    obtain rfl := Except.ok.inj (hb.symm.trans hb')
    have hmade := Flat.spec_eq_ok_iff.1 (hs 0 (brackets names).size_pos)
    exact ⟨_, hg, (congrArg _ hmade.blocks).trans hv⟩

/-- A further block leaves the reference with the block `b`, though its name holds a `/`. -/
theorem path_names_one_block_brackets :
    ∃ g g', (brackets []).Unambiguous ∧ (brackets []).resolve = .ok g ∧ (brackets ["a/b"]).Unambiguous ∧
      (brackets ["a/b"]).resolve = .ok g' ∧ (g.specs.toList.map Spec.path).Nodup ∧
        ∃ (block : Fin g.size) (slot' block' : Fin g'.size), ("r", block) ∈ g.root.blocks ∧
          ("r", block') ∈ (g'.spec slot').blocks ∧
            Stays "a/b" (.inline braces) (brackets []) (brackets ["a/b"]) g.rootSlot slot' ∧
              Stays "a/b" (.inline braces) (brackets []) (brackets ["a/b"]) block block' := by
  have hd : (brackets []).Unambiguous := of_decide_eq_true (by cbv)
  have hd' : (brackets ["a/b"]).Unambiguous := of_decide_eq_true (by cbv)
  obtain ⟨g, hg, hblocks⟩ := exists_resolve_brackets [] [("a", 1), ("r", 2)] (by cbv)
  obtain ⟨g', hg', -⟩ := exists_resolve_brackets ["a/b"] [("a", 1), ("r", 2), ("a/b", 3)] (by cbv)
  obtain ⟨hpaths, -, hadds⟩ := path_names_one_block hd hg
  obtain ⟨slot', hs, hrefs⟩ := (hadds _ _ _ (adds_brackets "a/b") hd').2 g' hg' g.rootSlot
  obtain ⟨⟨name, block⟩, hm, hname⟩ := List.mem_map.1 (hblocks ▸ show ("r", 2) ∈ [("a", 1), ("r", 2)] by simp)
  obtain ⟨rfl, -⟩ := Prod.mk.inj hname
  obtain ⟨block', hb', hs'⟩ := hrefs rootPath _ "r" "/blocks/a/blocks/b" block (brackets []).at_zero
    (by simp [brackets, entries]) hm
  exact ⟨g, g', hd, hg, hd', hg', hpaths, block, slot', block', hm, hb', hs, hs'⟩

/-- A block named `a/blocks/b` has the path of the block `b` in the block `a`. When it is added, the reference to this path
is resolved to it, though the block `b` is still there. -/
theorem path_names_two_blocks :
    ∃ g g', (brackets []).DistinctNames ∧ (brackets []).resolve = .ok g ∧
      g.root.blocks.map (fun b => (b.1, b.2.val)) = [("a", 1), ("r", 2)] ∧
        Adds "a/blocks/b" (.inline braces) (brackets []) (brackets ["a/blocks/b"]) ∧
          (brackets ["a/blocks/b"]).DistinctNames ∧ (brackets ["a/blocks/b"]).resolve = .ok g' ∧
            g'.specs.toList.map Spec.path = ["/", "/blocks/a", "/blocks/a/blocks/b", "/blocks/a/blocks/b"] ∧
              g'.root.blocks.map (fun b => (b.1, b.2.val)) = [("a", 1), ("r", 3), ("a/blocks/b", 3)] := by
  have hd : (brackets []).DistinctNames := of_decide_eq_true (by cbv)
  have hd' : (brackets ["a/blocks/b"]).DistinctNames := of_decide_eq_true (by cbv)
  obtain ⟨g, hg, hblocks⟩ := exists_resolve_brackets [] [("a", 1), ("r", 2)] (by cbv)
  obtain ⟨g', hg', hblocks'⟩ := exists_resolve_brackets ["a/blocks/b"] [("a", 1), ("r", 3), ("a/blocks/b", 3)] (by cbv)
  refine ⟨g, g', hd, hg, hblocks, adds_brackets _, hd', hg', ?_, hblocks'⟩
  rw [paths_of_resolve hg']
  exact of_decide_eq_true (by cbv)

end Definition

end Delimited
