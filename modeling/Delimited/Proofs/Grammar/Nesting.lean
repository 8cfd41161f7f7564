import Mathlib.Data.List.Forall2
import Delimited.Proofs.Grammar.Validity

/-!
# Nested blocks as they are written

`Definition.Nests` tells the nested blocks of a definition from what is written: its own entries, each standing for a
definition (`Definition.StandsFor`), put over the nested blocks of the definition that it shares with (`override`). These
are the nested blocks of the specs of a grammar (`Definition.nests_iff`).

Where the tree is walked for an entry does not matter: an entry stands for the same definition whichever block shares it,
since what a path leads to depends on the path alone.
-/

namespace Delimited

variable {C : Type} {α : Type}

/-! ### Values put over others -/

/-- Values with others put over them: a name that is there keeps its place and gets its new value, and new names come
behind, in their order. -/
def override (base own : List (String × α)) : List (String × α) :=
  base.map (fun b => (b.1, (own.lookup b.1).getD b.2)) ++ own.filter fun b => b.1 ∉ base.map Prod.fst

@[simp] theorem override_nil (base : List (String × α)) : override base [] = base := by
  simp [override]

@[simp] theorem nil_override (own : List (String × α)) : override [] own = own := by
  simp [override]

/-- A name that is there is given its new value in its place. -/
private theorem assign_of_mem {name : String} {value : α} {l : List (String × α)} (h : name ∈ l.map Prod.fst)
    (hn : (l.map Prod.fst).Nodup) :
    assign name value l = l.map fun b => (b.1, if b.1 = name then value else b.2) := by
  induction l with
  | nil => simp at h
  | cons e l ih =>
    rw [List.map_cons, List.nodup_cons] at hn
    unfold assign
    split
    · rename_i he
      have hrest : l.map (fun b => (b.1, if b.1 = name then value else b.2)) = l.map id := by
        refine List.map_congr_left fun b hb => ?_
        have hne : b.1 ≠ name := fun hbn => hn.1 (he ▸ hbn ▸ List.mem_map_of_mem hb)
        rw [if_neg hne]
        rfl
      rw [List.map_cons, hrest, List.map_id, if_pos he, he]
    · rename_i he
      rw [List.map_cons, List.mem_cons] at h
      rw [ih (h.resolve_left (Ne.symm he)) hn.2, List.map_cons, if_neg he]

/-- A new name comes behind the others. -/
private theorem assign_of_not_mem {name : String} {value : α} {l : List (String × α)} (h : name ∉ l.map Prod.fst) :
    assign name value l = l ++ [(name, value)] := by
  induction l with
  | nil => rfl
  | cons e l ih =>
    rw [List.map_cons, List.mem_cons, not_or] at h
    rw [assign, if_neg (Ne.symm h.1), ih h.2, List.cons_append]

/-- One value after the other is assigned. -/
private theorem override_cons {base own : List (String × α)} {name : String} {value : α}
    (hb : (base.map Prod.fst).Nodup) (ho : name ∉ own.map Prod.fst) :
    override (assign name value base) own = override base ((name, value) :: own) := by
  have hlookup : own.lookup name = none := by
    rw [List.lookup_eq_none_iff]
    intro b hb
    have hne : name ≠ b.1 := fun h => ho (h ▸ List.mem_map_of_mem hb)
    simpa using hne
  by_cases hm : name ∈ base.map Prod.fst
  · rw [assign_of_mem hm hb]
    unfold override
    congr 1
    · rw [List.map_map]
      refine List.map_congr_left fun b _ => ?_
      by_cases hn : b.1 = name
      · simp [hn, hlookup]
      · have hne : (b.1 == name) = false := by simpa using hn
        simp [hn, List.lookup_cons, hne]
    · rw [List.map_map]
      simp [hm, Function.comp_def]
  · rw [assign_of_not_mem hm]
    unfold override
    have hbase : base.map (fun b => (b.1, (((name, value) :: own).lookup b.1).getD b.2)) =
        base.map fun b => (b.1, (own.lookup b.1).getD b.2) := by
      refine List.map_congr_left fun b hb => ?_
      have hne : (b.1 == name) = false := by
        simpa using fun h : b.1 = name => hm (h ▸ List.mem_map_of_mem hb)
      rw [List.lookup_cons, hne]
    have hown : own.filter (fun b => b.1 ∉ (base ++ [(name, value)]).map Prod.fst) =
        own.filter fun b => b.1 ∉ base.map Prod.fst := by
      refine List.filter_congr fun b hb => ?_
      have hne : b.1 ≠ name := fun h => ho (h ▸ List.mem_map_of_mem hb)
      simp [hne]
    rw [hbase, hown, List.map_append, List.map_cons, List.map_nil, hlookup, List.filter_cons_of_pos (by simpa using hm),
      List.append_assoc]
    rfl

/-- Entries that are added one after the other are put over those that are there. -/
theorem assignAll_eq_override {n : Nat} {own base : List (String × Fin n)} (hb : (base.map Prod.fst).Nodup)
    (ho : (own.map Prod.fst).Nodup) : assignAll own base = override base own := by
  induction own generalizing base with
  | nil => exact (override_nil base).symm
  | cons b own ih =>
    rw [List.map_cons, List.nodup_cons] at ho
    exact (ih (nodup_assign hb) ho.2).trans (override_cons hb ho.1)

namespace Definition

variable {d : Definition C}

/-! ### What is written -/

/-- What an entry of the definition with a path stands for: the definition that it is, or the one that its reference
leads to. -/
inductive StandsFor (d : Definition C) (path : String) : String × Entry C → String × Fin d.size → Prop
  | inline {name : String} {e : Definition C} {k : Fin d.size} (h : d.At k (childPath path name) e) :
    StandsFor d path (name, .inline e) (name, k)
  | ref {name target : String} {k : Fin d.size} (h : d.Leads target k) : StandsFor d path (name, .ref target) (name, k)

/-- The nested blocks of a definition as they are written: its own entries, put over the nested blocks of the definition
that it shares with, if there is one. -/
inductive Nests (d : Definition C) : Fin d.size → List (String × Fin d.size) → Prop
  | own {slot : Fin d.size} {path : String} {e : Definition C} {own : List (String × Fin d.size)}
    (h : d.At slot path e) (hs : e.shared = none) (ho : List.Forall₂ (d.StandsFor path) e.entries own) :
    Nests d slot own
  | shares {slot m : Fin d.size} {path : String} {e : Definition C} {base own : List (String × Fin d.size)}
    (h : d.At slot path e) (hs : d.Shares slot m) (hb : Nests d m base)
    (ho : List.Forall₂ (d.StandsFor path) e.entries own) : Nests d slot (override base own)

private theorem StandsFor.name_eq {path : String} {entry : String × Entry C} {link : String × Fin d.size}
    (h : d.StandsFor path entry link) : link.1 = entry.1 := by
  cases h <;> rfl

private theorem names_of_standsFor {path : String} {entries : List (String × Entry C)}
    {own : List (String × Fin d.size)}
    (h : List.Forall₂ (d.StandsFor path) entries own) : own.map Prod.fst = entries.map Prod.fst := by
  induction h with
  | nil => rfl
  | cons h _ ih => rw [List.map_cons, List.map_cons, h.name_eq, ih]

section

variable (hd : d.WellNamed)

include hd

/-- An entry stands for one nested block only. -/
theorem StandsFor.unique {path : String} {entry : String × Entry C} {link link' : String × Fin d.size}
    (h : d.StandsFor path entry link) (h' : d.StandsFor path entry link') : link = link' := by
  cases h with
  | inline h =>
    cases h' with
    | inline h' => rw [Fin.ext (h.unique hd h')]
  | ref h =>
    cases h' with
    | ref h' => rw [Fin.ext (h.unique hd h')]

/-- The entries of a definition stand for definitions with names of their own. -/
private theorem nodup_of_standsFor {slot : Nat} {path : String} {e : Definition C} {own : List (String × Fin d.size)}
    (h : d.At slot path e) (ho : List.Forall₂ (d.StandsFor path) e.entries own) : (own.map Prod.fst).Nodup := by
  rw [names_of_standsFor ho]
  exact hd.distinct _ h.mem

/-- A definition has its nested blocks in one way only. -/
theorem Nests.unique {slot : Fin d.size} {blocks blocks' : List (String × Fin d.size)} (h : d.Nests slot blocks)
    (h' : d.Nests slot blocks') : blocks = blocks' := by
  have hunique : ∀ {path entries own own'}, List.Forall₂ (d.StandsFor path) entries own →
      List.Forall₂ (d.StandsFor path) entries own' → own = own' :=
    fun ho ho' => List.right_unique_forall₂' (fun _ _ _ h h' => h.unique hd h') ho ho'
  have hshared : ∀ {slot m : Fin d.size} {path e}, d.At slot path e → d.Shares slot m → e.shared ≠ none := by
    rintro slot m path e h ⟨_, _, _, _, h', hs, -⟩
    obtain ⟨-, rfl⟩ := h.eq_of_slot h'
    rw [hs]
    exact Option.some_ne_none _
  induction h generalizing blocks' with
  | own h hs ho =>
    cases h' with
    | own h' _ ho' =>
      obtain ⟨rfl, rfl⟩ := h.eq_of_slot h'
      exact hunique ho ho'
    | shares _ hs' => exact absurd hs (hshared h hs')
  | shares h hs _ ho ih =>
    cases h' with
    | own h' hs' => exact absurd hs' (hshared h' hs)
    | shares h' hs' hb' ho' =>
      obtain ⟨rfl, rfl⟩ := h.eq_of_slot h'
      obtain rfl := hs.unique hd hs'
      rw [ih hb', hunique ho ho']

/-! ### What is resolved -/

/-- Targets are looked up with success just when the entries stand for what is found. -/
private theorem forall₂_link_iff {k : Fin d.size} {path : String} {a : Attributes (Handler C)} {shared : Option String}
    {before es : List (String × Entry C)} (h : d.At k path (.mk a shared (before ++ es))) {next : Nat}
    (hnext : next = k + 1 + entriesSize before) (hs : next + entriesSize es ≤ d.size)
    {own : List (String × Fin d.size)} :
    List.Forall₂ (fun t link => d.index.link (k, t) = .ok link) (targetsOf d.size next es hs) own ↔
      List.Forall₂ (d.StandsFor path) es own := by
  induction es generalizing before next own with
  | nil => simp [targetsOf]
  | cons entry es ih =>
    have hrest : d.At k path (.mk a shared ((before ++ [entry]) ++ es)) := by simpa using h
    obtain ⟨name, e | target⟩ := entry
    · simp only [targetsOf, List.forall₂_cons_left_iff]
      refine exists₂_congr fun link own => and_congr ?_ (and_congr (ih hrest ?_ _) Iff.rfl)
      · constructor
        · intro hl
          obtain rfl := Except.ok.inj hl
          exact .inline (hnext ▸ h.entry)
        · intro hl
          cases hl with
          | inline hk => exact congrArg (fun k => Except.ok (name, k)) (Fin.ext (hnext.trans (h.entry.unique hd hk)))
      · simp only [entriesSize_append, entriesSize]
        omega
    · simp only [targetsOf, List.forall₂_cons_left_iff]
      refine exists₂_congr fun link own => and_congr ?_ (and_congr (ih hrest ?_ _) Iff.rfl)
      · constructor
        · intro hl
          obtain ⟨m, hm, hl⟩ := bind_eq_ok hl
          obtain rfl := Except.ok.inj hl
          exact .ref ((lookup_eq_ok_iff hd).1 hm)
        · intro hl
          cases hl with
          | ref hm => rw [Index.link, (lookup_eq_ok_iff hd).2 hm]; rfl
      · simp only [entriesSize_append, entriesSize]
        omega

/-- The own entries of a definition are added when all of them stand for definitions. -/
private theorem addEntriesOf_eq_ok_iff {k : Fin d.size} {path : String} {e : Definition C} (h : d.At k path e)
    {base blocks : List (String × Fin d.size)} :
    d.index.addEntriesOf [k] base = .ok blocks ↔
      ∃ own, List.Forall₂ (d.StandsFor path) e.entries own ∧ blocks = assignAll own base := by
  obtain ⟨hs, hf⟩ := flat_at h
  have hlinks : ∀ own, (d.index.entriesOf [k]).mapM d.index.link = .ok own ↔
      List.Forall₂ (d.StandsFor path) e.entries own := by
    intro own
    obtain ⟨a, shared, es⟩ := e
    rw [Index.entriesOf, List.flatMap_singleton, hf, list_mapM_eq_ok_iff, List.forall₂_map_left_iff]
    have hat : d.At k path (.mk a shared ([] ++ es)) := h
    exact forall₂_link_iff hd hat rfl hs
  unfold Index.addEntriesOf
  constructor
  · intro hb
    obtain ⟨own, ho, hb⟩ := bind_eq_ok hb
    exact ⟨own, (hlinks own).1 ho, (Except.ok.inj hb).symm⟩
  · rintro ⟨own, ho, rfl⟩
    rw [(hlinks own).2 ho]
    rfl

/-- The nested blocks that are found are those that are written. -/
private theorem nests_of_nestedBlocks {unused : List (Fin d.size)} {slot : Fin d.size}
    {blocks : List (String × Fin d.size)} (h : d.index.nestedBlocks unused slot = .ok blocks) :
    d.Nests slot blocks ∧ (blocks.map Prod.fst).Nodup := by
  obtain ⟨path, e, hat⟩ := exists_at slot.2
  cases hs : e.shared with
  | none =>
    rw [nestedBlocks_of_not_shared hat hs] at h
    obtain ⟨own, ho, rfl⟩ := (addEntriesOf_eq_ok_iff hd hat).1 h
    have hn := nodup_of_standsFor hd hat ho
    rw [assignAll_eq_override (by simp) hn, nil_override]
    exact ⟨.own hat hs ho, hn⟩
  | some shared =>
    have ho : Owner shared (Index.ownerPath shared) := ownerPath_eq_iff.1 rfl
    cases hx : d.index.lookup (Index.ownerPath shared) path with
    | error fault =>
      rw [nestedBlocks_of_fault hd hat hs ho ((lookup_eq_error_iff hd).1 hx)] at h
      cases h
    | ok m =>
      have hm : d.Shares slot m := ⟨path, e, shared, _, hat, hs, ho, (lookup_eq_ok_iff hd).1 hx⟩
      by_cases hu : slot ∈ unused
      · rw [nestedBlocks_of_shares hd hm hu] at h
        obtain ⟨base, hb, h⟩ := bind_eq_ok h
        obtain ⟨own, hown, rfl⟩ := (addEntriesOf_eq_ok_iff hd hat).1 h
        have := List.length_erase_of_mem hu
        have := List.length_pos_of_mem hu
        obtain ⟨hbase, hn⟩ := nests_of_nestedBlocks hb
        refine ⟨?_, nodup_assignAll hn⟩
        rw [assignAll_eq_override hn (nodup_of_standsFor hd hat hown)]
        exact .shares hat hm hbase hown
      · rw [nestedBlocks_of_circle hd hm hat hs hu] at h
        cases h
termination_by unused.length

/-- The specs of a grammar have the nested blocks of their definitions as they are written, and no others. -/
theorem nests_specs {g : Grammar C} (hg : d.resolve = .ok g) :
    ∃ specs, g = ⟨d.size, d.size_pos, specs⟩ ∧ ∀ slot, d.Nests slot (specs.get slot).blocks := by
  obtain ⟨specs, rfl, hs⟩ := specs_of_resolve hg
  exact ⟨specs, rfl, fun slot => (nests_of_nestedBlocks hd (hs slot).1).1⟩

/-- The nested blocks of each spec are those of its definition as they are written: the own entries of the last
definition that is come to by sharing, with the own entries of the definitions before it put over them one after the
other, in the order in which they are written. -/
theorem nests_iff {g : Grammar C} (hg : d.resolve = .ok g) :
    ∃ specs, g = ⟨d.size, d.size_pos, specs⟩ ∧
      ∀ slot blocks, d.Nests slot blocks ↔ blocks = (specs.get slot).blocks := by
  obtain ⟨specs, rfl, hs⟩ := nests_specs hd hg
  refine ⟨specs, rfl, fun slot blocks => ⟨fun h => h.unique hd (hs slot), ?_⟩⟩
  rintro rfl
  exact hs slot

end

/-- A root that shares the nested blocks of one of its blocks. References lead to blocks that are written behind them, one
of them over another reference. -/
private def layers : Definition Unit :=
  .mk {} (some "/blocks/a/blocks")
    [("a", .inline (.mk { start := some "(" } none [("b", .ref "/blocks/a"), ("c", .ref "/blocks/d")])),
     ("b", .inline (.mk { start := some "[" } none [])), ("d", .ref "/blocks/b")]

/-- The root's own entry `b` takes the place of the shared one, and its other entries come behind. -/
theorem nests_iff_layers :
    layers.WellNamed ∧ ∃ specs, layers.resolve = .ok ⟨layers.size, layers.size_pos, specs⟩ ∧
      (∀ slot blocks, layers.Nests slot blocks ↔ blocks = (specs.get slot).blocks) ∧
        (Grammar.root ⟨layers.size, layers.size_pos, specs⟩).blocks.map (fun b => (b.1, b.2.val)) =
          [("b", 2), ("c", 2), ("a", 1), ("d", 2)] := by
  have hd : layers.WellNamed := of_decide_eq_true (by cbv)
  have h : layers.resolvesTo (fun g => decide (g.root.blocks.map (fun b => (b.1, b.2.val)) =
      [("b", 2), ("c", 2), ("a", 1), ("d", 2)])) = true := by
    cbv
  obtain ⟨g, hg, h⟩ := exists_of_resolvesTo h
  obtain ⟨specs, rfl, hs⟩ := nests_iff hd hg
  exact ⟨hd, specs, hg, hs, of_decide_eq_true h⟩

end Definition

end Delimited
