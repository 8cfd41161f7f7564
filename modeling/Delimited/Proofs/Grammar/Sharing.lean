import Delimited.Except
import Delimited.Proofs.Grammar.Lookup
import Mathlib.Data.Fintype.Card

/-!
# Sharing nested blocks

A definition may share the nested blocks of another one (`Shares`), which may share those of a third one, and so on. A
`Walk` follows this from definition to definition and passes none of them twice. Every walk can be taken on to a
definition that shares with none, or to one that it has passed (`exists_end`). In the first case the nested blocks are
those of the last definition with the entries of the others added on the way back (`Walk.nestedBlocks`).

`NestingFault` tells what is wrong with the nested blocks of a definition; just this is reported
(`nestedBlocks_eq_error_iff`).
-/

namespace Delimited

variable {C : Type}

/-- The path of the block that a shared path means: the path as it is, or what stands in front of `/blocks` at its end.
Nothing in front of it means the root. -/
inductive Owner : String → String → Prop
  | root : Owner "/blocks" rootPath
  | front {owner : String} (h : owner ≠ "") : Owner (owner ++ "/blocks") owner
  | whole {path : String} (h : ¬ "/blocks".toList <:+ path.toList) : Owner path path

namespace Index

private theorem ownerPath_append (front : String) :
    ownerPath (front ++ "/blocks") = if front = "" then rootPath else front := by
  have htake : (front.toList ++ "/blocks".toList).take
      ((front.toList ++ "/blocks".toList).length - "/blocks".toList.length) = front.toList := by simp
  unfold ownerPath
  dsimp only
  rw [String.toList_append, if_pos (List.isSuffixOf_iff_suffix.2 (List.suffix_append _ _)), htake]
  by_cases hf : front = ""
  · rw [if_pos hf, hf]
    rfl
  · rw [if_neg hf, if_neg (by simpa using hf), String.ofList_toList]

private theorem ownerPath_of_not_suffix {path : String} (h : ¬ "/blocks".toList <:+ path.toList) :
    ownerPath path = path := by
  unfold ownerPath
  dsimp only
  rw [if_neg (by rwa [List.isSuffixOf_iff_suffix])]

/-- Every shared path means the path of a block. -/
theorem owner_ownerPath (path : String) : Owner path (ownerPath path) := by
  by_cases hs : "/blocks".toList <:+ path.toList
  · obtain ⟨l, hl⟩ := hs
    obtain rfl : path = String.ofList l ++ "/blocks" := by
      rw [← String.toList_inj, String.toList_append, String.toList_ofList, hl]
    rw [ownerPath_append]
    split
    · rename_i hf
      rw [hf]
      exact .root
    · exact .front ‹_›
  · rw [ownerPath_of_not_suffix hs]
    exact .whole hs

end Index

private theorem Owner.ownerPath_eq {path owner : String} (h : Owner path owner) : Index.ownerPath path = owner := by
  cases h with
  | root => exact Index.ownerPath_append ""
  | front h => rw [Index.ownerPath_append, if_neg h]
  | whole h => exact Index.ownerPath_of_not_suffix h

/-- The owner of a path is the block that the path is written for. -/
theorem ownerPath_eq_iff {path owner : String} : Index.ownerPath path = owner ↔ Owner path owner := by
  constructor
  · rintro rfl
    exact Index.owner_ownerPath path
  · exact Owner.ownerPath_eq

namespace Definition

/-! ### Shared blocks -/

/-- The definition in one slot shares the nested blocks of that in the other. -/
def Shares (d : Definition C) (k l : Fin d.size) : Prop :=
  ∃ source e path owner, d.At k source e ∧ e.shared = some path ∧ Owner path owner ∧ d.Leads owner l

/-- From one slot to another by shared nested blocks, over the slots that are passed, in their order. None is passed
twice. -/
inductive Walk (d : Definition C) : Fin d.size → List (Fin d.size) → Fin d.size → Prop
  | refl (k : Fin d.size) : Walk d k [] k
  | step {k m l : Fin d.size} {passed : List (Fin d.size)} (h : d.Shares k m) (hk : k ∉ passed) (hw : Walk d m passed l) :
      Walk d k (k :: passed) l

/-- The references among the entries of the definition in a slot, each with the path of the definition. -/
def ownReferences (d : Definition C) (slot : Fin d.size) : List (String × String) :=
  match (d.preorder rootPath)[slot.val]? with
  | none => []
  | some (source, e) =>
    e.entries.filterMap fun
      | (_, .inline _) => none
      | (_, .ref path) => some (path, source)

/-- What is reported about the nested blocks of a definition. The walk over shared nested blocks is taken to its end,
where it cannot go on or comes back; if it ends well, the references are looked up, those of the last definition first
and those of the first one last. -/
inductive NestingFault (d : Definition C) (k : Fin d.size) : GrammarError → Prop
  | shared {l : Fin d.size} {passed : List (Fin d.size)} {source path owner : String} {e : Definition C}
      {fault : GrammarError} (hw : d.Walk k passed l) (hl : d.At l source e) (hs : e.shared = some path)
      (ho : Owner path owner) (hf : d.ReferenceFault owner source fault) : NestingFault d k fault
  | circle {l : Fin d.size} {passed : List (Fin d.size)} {source path : String} {e : Definition C}
      (hw : d.Walk k passed l) (hm : l ∈ passed) (hl : d.At l source e) (hs : e.shared = some path) :
      NestingFault d k (.referenceCycle path)
  | entry {l : Fin d.size} {passed : List (Fin d.size)} {source' : String} {e : Definition C}
      {before after : List (String × String)} {path source : String} {fault : GrammarError} (hw : d.Walk k passed l)
      (hl : d.At l source' e) (hs : e.shared = none)
      (hr : (l :: passed.reverse).flatMap d.ownReferences = before ++ (path, source) :: after)
      (hb : ∀ r ∈ before, ∃ j, d.Leads r.1 j) (hf : d.ReferenceFault path source fault) : NestingFault d k fault

variable {d : Definition C}

private theorem Walk.shares_of_mem {k l m : Fin d.size} {passed : List (Fin d.size)} (h : d.Walk k passed l)
    (hm : m ∈ passed) :
    ∃ j, d.Shares m j := by
  induction h with
  | refl => cases hm
  | step hs _ _ ih =>
    rcases List.mem_cons.1 hm with rfl | hm
    · exact ⟨_, hs⟩
    · exact ih hm

/-- Every walk can be taken to an end: to a definition that shares with none, or one that has been passed. -/
theorem exists_end (d : Definition C) (k : Fin d.size) :
    ∃ passed l, d.Walk k passed l ∧ ((∀ m, ¬ d.Shares l m) ∨ l ∈ passed) := by
  have h : ∀ (i : Nat) (unused : List (Fin d.size)) (k : Fin d.size), unused.length = i → unused.Nodup →
      ∃ passed l, d.Walk k passed l ∧ passed ⊆ unused ∧ ((∀ m, ¬ d.Shares l m) ∨ l ∈ passed ∨ l ∉ unused) := by
    intro i
    induction i with
    | zero =>
      intro unused k hi hn
      obtain rfl := List.length_eq_zero_iff.1 hi
      exact ⟨[], k, .refl k, by simp, by simp⟩
    | succ i ih =>
      intro unused k hi hn
      by_cases hs : ∃ m, d.Shares k m
      · obtain ⟨m, hs⟩ := hs
        by_cases hk : k ∈ unused
        · obtain ⟨passed, l, hw, hsub, hend⟩ := ih (unused.erase k) m (by rw [List.length_erase_of_mem hk]; omega)
            (hn.erase k)
          have hpk : k ∉ passed := fun hp => hn.not_mem_erase (hsub hp)
          refine ⟨k :: passed, l, .step hs hpk hw, ?_, ?_⟩
          · exact List.cons_subset.2 ⟨hk, fun j hj => List.mem_of_mem_erase (hsub hj)⟩
          · rcases hend with hend | hend | hend
            · exact Or.inl hend
            · exact Or.inr (Or.inl (List.mem_cons_of_mem _ hend))
            · rw [hn.mem_erase_iff, not_and'] at hend
              by_cases hl : l ∈ unused
              · have : l = k := by simpa using hend hl
                exact Or.inr (Or.inl (this ▸ List.mem_cons_self))
              · exact Or.inr (Or.inr hl)
        · exact ⟨[], k, .refl k, by simp, Or.inr (Or.inr hk)⟩
      · exact ⟨[], k, .refl k, by simp, Or.inl (not_exists.1 hs)⟩
  obtain ⟨passed, l, hw, -, hend⟩ := h _ (List.finRange d.size) k rfl (List.nodup_finRange _)
  exact ⟨passed, l, hw, by simpa using hend⟩

end Definition

/-! ### Adding entries -/

/-- The nested blocks with others added, in their order. -/
def assignAll {n : Nat} (links blocks : List (String × Fin n)) : List (String × Fin n) :=
  links.foldl (fun blocks link => assign link.1 link.2 blocks) blocks

theorem map_assignAll {n m : Nat} (f : Fin n → Fin m) (links blocks : List (String × Fin n)) :
    (assignAll links blocks).map (fun b => (b.1, f b.2)) =
      assignAll (links.map fun b => (b.1, f b.2)) (blocks.map fun b => (b.1, f b.2)) := by
  induction links generalizing blocks with
  | nil => rfl
  | cons link links ih =>
    have hstep := ih (assign link.1 link.2 blocks)
    rw [map_assign] at hstep
    exact hstep

theorem nodup_assignAll {n : Nat} {links blocks : List (String × Fin n)} (hb : (blocks.map Prod.fst).Nodup) :
    ((assignAll links blocks).map Prod.fst).Nodup := by
  induction links generalizing blocks with
  | nil => exact hb
  | cons link links ih => exact ih (nodup_assign hb)

/-- What is there stays unless its name is among those that are added. -/
private theorem mem_assignAll_of_mem {n : Nat} {links blocks : List (String × Fin n)} {b : String × Fin n}
    (h : b ∈ blocks) (hn : b.1 ∉ links.map Prod.fst) : b ∈ assignAll links blocks := by
  induction links generalizing blocks with
  | nil => exact h
  | cons link links ih =>
    rw [List.map_cons, List.mem_cons, not_or] at hn
    exact ih (mem_assign_of_ne h hn.1) hn.2

private theorem mem_assignAll {n : Nat} {links blocks : List (String × Fin n)} {b : String × Fin n} (h : b ∈ links)
    (hn : (links.map Prod.fst).Nodup) : b ∈ assignAll links blocks := by
  induction links generalizing blocks with
  | nil => cases h
  | cons link links ih =>
    rw [List.map_cons, List.nodup_cons] at hn
    rcases List.mem_cons.1 h with rfl | h
    · show b ∈ assignAll links (assign b.1 b.2 blocks)
      exact mem_assignAll_of_mem (mem_assign_self _ _ _) hn.1
    · exact ih h hn.2

namespace Index

variable {n : Nat} (t : Index C n)

/-- The slot that an entry of the definition in a slot stands for, with the name of the entry. -/
def link : Fin n × String × Target n → Except GrammarError (String × Fin n)
  | (_, name, .slot k) => .ok (name, k)
  | (m, name, .ref path) => return (name, ← t.lookup path (t.flat m).path)

/-- The entries of the definitions in slots, each with its slot. -/
def entriesOf (slots : List (Fin n)) : List (Fin n × String × Target n) :=
  slots.flatMap fun m => (t.flat m).targets.map fun entry => (m, entry)

/-- Entries are looked up first and added then. -/
theorem addTargets_eq (m : Fin n) (blocks : List (String × Fin n)) (targets : List (String × Target n)) :
    t.addTargets (t.flat m).path blocks targets = do
      return assignAll (← (targets.map fun entry => (m, entry)).mapM t.link) blocks := by
  induction targets generalizing blocks with
  | nil => rfl
  | cons entry targets ih =>
    obtain ⟨name, k | path⟩ := entry
    · rw [addTargets, ih, List.map_cons, List.mapM_cons]
      cases (targets.map fun entry => (m, entry)).mapM t.link <;> rfl
    · rw [addTargets, List.map_cons, List.mapM_cons, link]
      cases t.lookup path (t.flat m).path with
      | error fault => rfl
      | ok k =>
        refine (ih _).trans ?_
        cases (targets.map fun entry => (m, entry)).mapM t.link <;> rfl

/-- Adds the entries of the definitions in slots, one definition after another. -/
def addEntriesOf (slots : List (Fin n)) (blocks : List (String × Fin n)) :
    Except GrammarError (List (String × Fin n)) :=
  return assignAll (← (t.entriesOf slots).mapM t.link) blocks

private theorem addEntriesOf_append (slots slots' : List (Fin n)) (blocks : List (String × Fin n)) :
    t.addEntriesOf (slots ++ slots') blocks = t.addEntriesOf slots blocks >>= t.addEntriesOf slots' := by
  have hsplit : t.entriesOf (slots ++ slots') = t.entriesOf slots ++ t.entriesOf slots' := List.flatMap_append
  simp only [addEntriesOf, hsplit, List.mapM_append, assignAll, bind_assoc, pure_bind, List.foldl_append]

private theorem link_name {m : Fin n} {target : String × Target n} {link : String × Fin n}
    (h : t.link (m, target) = .ok link) : link.1 = target.1 := by
  obtain ⟨name, k | path⟩ := target
  · obtain rfl := Except.ok.inj h
    rfl
  · obtain ⟨k, -, h⟩ := bind_eq_ok h
    obtain rfl := Except.ok.inj h
    rfl

/-- Entries that are added are there behind, with the slots that they stand for. -/
private theorem exists_link_of_addTargets {m : Fin n} {base blocks : List (String × Fin n)}
    {targets : List (String × Target n)} (h : t.addTargets (t.flat m).path base targets = .ok blocks)
    (hb : (base.map Prod.fst).Nodup) :
    (blocks.map Prod.fst).Nodup ∧
      ((targets.map Prod.fst).Nodup → ∀ target ∈ targets, ∃ link ∈ blocks, t.link (m, target) = .ok link) := by
  rw [addTargets_eq] at h
  obtain ⟨links, hl, h⟩ := bind_eq_ok h
  obtain rfl := Except.ok.inj h
  obtain ⟨hlen, hlinks⟩ := list_mapM_eq_ok hl
  simp only [List.length_map, List.getElem_map] at hlen hlinks
  refine ⟨nodup_assignAll hb, fun hn target ht => ?_⟩
  have hnames : links.map Prod.fst = targets.map Prod.fst := by
    refine List.ext_getElem (by simpa using hlen) fun i hi hi' => ?_
    simp only [List.length_map] at hi hi'
    simpa using link_name t (hlinks i hi' hi)
  obtain ⟨i, hi, rfl⟩ := List.getElem_of_mem ht
  exact ⟨links[i], mem_assignAll (List.getElem_mem _) (hnames ▸ hn), hlinks i hi (hlen ▸ hi)⟩

/-- Nested blocks have names of their own, and the own entries of a slot are among them, with the slots that they stand
for. -/
theorem exists_link_of_nestedBlocks {t : Index C n} {unused : List (Fin n)} {k : Fin n} {blocks : List (String × Fin n)}
    (h : t.nestedBlocks unused k = .ok blocks) :
    (blocks.map Prod.fst).Nodup ∧ (((t.flat k).targets.map Prod.fst).Nodup →
      ∀ target ∈ (t.flat k).targets, ∃ link ∈ blocks, t.link (k, target) = .ok link) := by
  rw [nestedBlocks] at h
  dsimp only at h
  split at h
  · exact t.exists_link_of_addTargets h (by simp)
  · obtain ⟨owner, -, h⟩ := bind_eq_ok h
    split at h
    · rename_i hk
      have := List.length_erase_of_mem hk
      have := List.length_pos_of_mem hk
      obtain ⟨base, hb, h⟩ := bind_eq_ok h
      exact t.exists_link_of_addTargets h (exists_link_of_nestedBlocks hb).1
    · cases h
termination_by unused.length

/-- The path that an entry refers to, with that of the definition that it is an entry of. -/
def reference? : Fin n × String × Target n → Option (String × String)
  | (_, _, .slot _) => none
  | (m, _, .ref path) => some (path, (t.flat m).path)

/-- Entries are added unless one of the references among them cannot be looked up. -/
theorem addEntriesOf_eq_error_iff {slots : List (Fin n)} {blocks : List (String × Fin n)} {fault : GrammarError} :
    t.addEntriesOf slots blocks = .error fault ↔
      ((t.entriesOf slots).filterMap t.reference?).mapM (fun r => t.lookup r.1 r.2) = .error fault := by
  have herr : t.addEntriesOf slots blocks = .error fault ↔ (t.entriesOf slots).mapM t.link = .error fault := by
    rw [addEntriesOf, bind_eq_error_iff]
    simp [pure, Except.pure]
  rw [herr]
  induction t.entriesOf slots with
  | nil => simp [pure, Except.pure]
  | cons entry entries ih =>
    obtain ⟨m, name, k | path⟩ := entry
    · refine Iff.trans ?_ ih
      simp [link, bind_eq_error_iff, pure, Except.pure]
    · simp only [List.filterMap_cons, reference?, List.mapM_cons, bind_eq_error_iff, link]
      cases t.lookup path (t.flat m).path <;> simp [bind, Except.bind, pure, Except.pure, ih]

end Index

/-! ### The nested blocks of a definition -/

namespace Definition

variable {d : Definition C}

private theorem shared_flat {e : Definition C} {k : Fin d.size} {p : String} (h : d.At k p e) :
    (d.index.flat k).shared = e.shared := by
  obtain ⟨_, hf⟩ := flat_at h
  rw [hf]

/-- The nested blocks of a definition that shares with none. -/
theorem nestedBlocks_of_not_shared {e : Definition C} {k : Fin d.size} {p : String} (h : d.At k p e)
    (hs : e.shared = none) (unused : List (Fin d.size)) :
    d.index.nestedBlocks unused k = d.index.addEntriesOf [k] [] := by
  rw [Index.nestedBlocks_of_not_shared ((shared_flat h).trans hs), Index.addTargets_eq, Index.addEntriesOf,
    Index.entriesOf, List.flatMap_singleton]

/-- The references of a definition's entries, as they are in the index. -/
theorem ownReferences_eq (m : Fin d.size) :
    d.ownReferences m = (d.index.entriesOf [m]).filterMap d.index.reference? := by
  obtain ⟨p, e, hm⟩ := exists_at m.2
  obtain ⟨hs, hf⟩ := flat_at hm
  rw [Index.entriesOf, List.flatMap_singleton, List.filterMap_map, hf, ownReferences, hm]
  have hp := path_flat hm
  dsimp only
  generalize (m : Nat) + 1 = next at hs
  clear hf hm
  generalize e.entries = es at hs
  induction es generalizing next with
  | nil => rfl
  | cons entry es ih =>
    obtain ⟨name, e | path⟩ := entry
    · exact ih _ _
    · simp only [targetsOf, List.filterMap_cons, Function.comp_apply, Index.reference?, hp]
      congr 1
      exact ih _ _

/-- The slots that a walk has passed are used up. -/
private theorem not_mem_diff {passed : List (Fin d.size)} {j : Fin d.size} (hj : j ∈ passed) :
    j ∉ (List.finRange d.size).diff passed := by
  rw [(List.nodup_finRange _).mem_sdiff_iff]
  exact fun h => h.2 hj

section

variable (hd : d.WellNamed)

include hd

/-- The nested blocks of a definition that shares those of another one. -/
theorem nestedBlocks_of_shares {k m : Fin d.size} (h : d.Shares k m) {unused : List (Fin d.size)} (hk : k ∈ unused) :
    d.index.nestedBlocks unused k = d.index.nestedBlocks (unused.erase k) m >>= d.index.addEntriesOf [k] := by
  obtain ⟨source, e, path, owner, hat, hs, ho, hl⟩ := h
  rw [Index.nestedBlocks]
  simp only [shared_flat hat, hs, path_flat hat, ownerPath_eq_iff.2 ho, (lookup_eq_ok_iff hd).2 hl, dif_pos hk]
  rw [← path_flat hat]
  show d.index.nestedBlocks (unused.erase k) m >>= _ = _
  refine bind_congr fun blocks => ?_
  rw [Index.addTargets_eq, Index.addEntriesOf, Index.entriesOf, List.flatMap_singleton]

/-- The nested blocks of a definition are those at the end of a walk with the entries of the definitions on the way
added, those of the last definition first. -/
theorem Walk.nestedBlocks {k l : Fin d.size} {passed : List (Fin d.size)} (hw : d.Walk k passed l)
    {unused : List (Fin d.size)} (hp : passed ⊆ unused) :
    d.index.nestedBlocks unused k =
      d.index.nestedBlocks (unused.diff passed) l >>= d.index.addEntriesOf passed.reverse := by
  induction hw generalizing unused with
  | refl k =>
    simp only [List.diff_nil, List.reverse_nil]
    cases d.index.nestedBlocks unused k <;> rfl
  | @step k m l passed hs hk _ ih =>
    have hsub : passed ⊆ unused.erase k := fun j hj =>
      (List.mem_erase_of_ne (ne_of_mem_of_not_mem hj hk)).2 (hp (List.mem_cons_of_mem _ hj))
    rw [nestedBlocks_of_shares hd hs (hp List.mem_cons_self), ih hsub, List.diff_cons, List.reverse_cons, bind_assoc]
    congr 1
    funext blocks
    rw [Index.addEntriesOf_append]

/-- A walk that has come back ends in an error. -/
theorem nestedBlocks_of_circle {l m : Fin d.size} {e : Definition C} {source path : String} {unused : List (Fin d.size)}
    (hs : d.Shares l m) (hat : d.At l source e) (hp : e.shared = some path) (hl : l ∉ unused) :
    d.index.nestedBlocks unused l = .error (.referenceCycle path) := by
  obtain ⟨source', e', path', owner, hat', hp', ho, hm⟩ := hs
  obtain ⟨rfl, rfl⟩ := hat.eq_of_slot hat'
  obtain rfl : path = path' := Option.some.inj (hp.symm.trans hp')
  rw [Index.nestedBlocks]
  simp only [shared_flat hat, hp, ownerPath_eq_iff.2 ho, (lookup_eq_ok_iff hd).2 hm, dif_neg hl]
  rfl

/-- A walk that cannot go on ends in an error. -/
theorem nestedBlocks_of_fault {l : Fin d.size} {e : Definition C} {source path owner : String} {fault : GrammarError}
    (hat : d.At l source e) (hp : e.shared = some path) (ho : Owner path owner) (hf : d.ReferenceFault owner source fault)
    (unused : List (Fin d.size)) : d.index.nestedBlocks unused l = .error fault := by
  rw [Index.nestedBlocks]
  simp only [shared_flat hat, hp, path_flat hat, ownerPath_eq_iff.2 ho, (lookup_eq_error_iff hd).2 hf]
  rfl

/-- The nested blocks at the start of a walk that ends with a definition that shares with none. -/
theorem Walk.nestedBlocks_of_not_shared {k l : Fin d.size} {passed : List (Fin d.size)} (hw : d.Walk k passed l)
    {source : String} {e : Definition C} (hl : d.At l source e) (hs : e.shared = none) :
    d.index.nestedBlocks (List.finRange d.size) k = d.index.addEntriesOf (l :: passed.reverse) [] := by
  rw [hw.nestedBlocks hd fun j _ => List.mem_finRange j, Definition.nestedBlocks_of_not_shared hl hs,
    ← Index.addEntriesOf_append, List.singleton_append]

/-- The entries along a walk cannot be added when one of their references has a fault, and the first such fault is
reported. -/
private theorem addEntriesOf_eq_error_iff {slots : List (Fin d.size)} {blocks : List (String × Fin d.size)}
    {fault : GrammarError} :
    d.index.addEntriesOf slots blocks = .error fault ↔
      ∃ before path source after, slots.flatMap d.ownReferences = before ++ (path, source) :: after ∧
        (∀ r ∈ before, ∃ j, d.Leads r.1 j) ∧ d.ReferenceFault path source fault := by
  have hrefs : (d.index.entriesOf slots).filterMap d.index.reference? = slots.flatMap d.ownReferences := by
    simp only [Index.entriesOf, List.filterMap_flatMap]
    refine List.flatMap_congr fun m _ => ?_
    rw [ownReferences_eq, Index.entriesOf, List.flatMap_singleton]
  have hok : ∀ r : String × String, (∃ k, d.index.lookup r.1 r.2 = .ok k) ↔ ∃ j, d.Leads r.1 j := by
    intro r
    constructor
    · rintro ⟨k, hk⟩
      exact ⟨k, (lookup_eq_ok_iff hd).1 hk⟩
    · rintro ⟨j, hj⟩
      exact ⟨⟨j, hj.lt⟩, (lookup_eq_ok_iff hd).2 hj⟩
  simp only [Index.addEntriesOf_eq_error_iff, hrefs, list_mapM_eq_error_iff, hok, Prod.exists,
    lookup_eq_error_iff hd.unambiguous]

/-- The nested blocks of a definition cannot be found just when there is something wrong with them, and this is
reported. -/
theorem nestedBlocks_eq_error_iff {k : Fin d.size} {fault : GrammarError} :
    d.index.nestedBlocks (List.finRange d.size) k = .error fault ↔ d.NestingFault k fault := by
  constructor
  · intro h
    obtain ⟨passed, l, hw, hend⟩ := exists_end d k
    obtain ⟨source, e, hl⟩ := exists_at l.2
    cases hs : e.shared with
    | none =>
      rw [hw.nestedBlocks_of_not_shared hd hl hs, addEntriesOf_eq_error_iff hd] at h
      obtain ⟨before, path, source', after, hr, hb, hf⟩ := h
      exact .entry hw hl hs hr hb hf
    | some path =>
      rw [hw.nestedBlocks hd fun j _ => List.mem_finRange j] at h
      by_cases hm : l ∈ passed
      · obtain ⟨m, hlm⟩ := hw.shares_of_mem hm
        rw [nestedBlocks_of_circle hd hlm hl hs (not_mem_diff hm)] at h
        obtain rfl := Except.error.inj h
        exact .circle hw hm hl hs
      · have hno := hend.resolve_right hm
        obtain ⟨owner, ho⟩ : ∃ owner, Owner path owner := ⟨_, ownerPath_eq_iff.1 rfl⟩
        cases hx : d.index.lookup owner source with
        | ok m => exact absurd ⟨source, e, path, owner, hl, hs, ho, (lookup_eq_ok_iff hd).1 hx⟩ (hno m)
        | error fault' =>
          have hf := (lookup_eq_error_iff hd).1 hx
          rw [nestedBlocks_of_fault hd hl hs ho hf] at h
          obtain rfl := Except.error.inj h
          exact .shared hw hl hs ho hf
  · rintro (⟨hw, hl, hs, ho, hf⟩ | ⟨hw, hm, hl, hs⟩ | ⟨hw, hl, hs, hr, hb, hf⟩)
    · rw [hw.nestedBlocks hd fun j _ => List.mem_finRange j, nestedBlocks_of_fault hd hl hs ho hf]
      rfl
    · obtain ⟨m, hlm⟩ := hw.shares_of_mem hm
      rw [hw.nestedBlocks hd fun j _ => List.mem_finRange j,
        nestedBlocks_of_circle hd hlm hl hs (not_mem_diff hm)]
      rfl
    · rw [hw.nestedBlocks_of_not_shared hd hl hs, addEntriesOf_eq_error_iff hd]
      exact ⟨_, _, _, _, hr, hb, hf⟩

/-- When the nested blocks of a definition can be found, a walk comes to a definition that shares with none, and they are
its entries with those of the definitions on the way. -/
theorem exists_walk_of_nestedBlocks {k : Fin d.size} {blocks : List (String × Fin d.size)}
    (h : d.index.nestedBlocks (List.finRange d.size) k = .ok blocks) :
    ∃ passed l source e, d.Walk k passed l ∧ d.At l source e ∧ e.shared = none ∧
      d.index.addEntriesOf (l :: passed.reverse) [] = .ok blocks := by
  have hno : ∀ fault, ¬ d.NestingFault k fault := by
    intro fault hf
    rw [(nestedBlocks_eq_error_iff hd).2 hf] at h
    cases h
  obtain ⟨passed, l, hw, hend⟩ := exists_end d k
  obtain ⟨source, e, hl⟩ := exists_at l.2
  have hs : e.shared = none := by
    by_contra hs
    obtain ⟨path, hs⟩ := Option.ne_none_iff_exists'.1 hs
    have hm : l ∉ passed := fun hm => hno _ (.circle hw hm hl hs)
    have ho := ownerPath_eq_iff.1 (rfl : Index.ownerPath path = _)
    have hlead : ¬ ∃ m, d.Leads (Index.ownerPath path) m := by
      rintro ⟨m, hm'⟩
      exact hend.resolve_right hm ⟨m, hm'.lt⟩ ⟨source, e, path, _, hl, hs, ho, hm'⟩
    obtain ⟨fault, hf⟩ := exists_fault hd source hlead
    exact hno fault (.shared hw hl hs ho hf)
  exact ⟨passed, l, source, e, hw, hl, hs, (hw.nestedBlocks_of_not_shared hd hl hs).symm.trans h⟩

end

end Definition

end Delimited
