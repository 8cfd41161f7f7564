import Mathlib.Data.List.Forall2
import Delimited.Proofs.Grammar.Nesting

/-!
# Two ways to write a shared path

The block whose nested blocks a definition shares is named by its path, or by its path followed by `/blocks`. Which block
is meant is found by looking at the end of the text, so both mean the same unless the path itself ends in `/blocks`, which
it does when the block has the name `blocks` (`owner_entry`, `owner_entry_blocks`). Apart from this case a definition
resolves to the same grammar whichever way is used, and a path that comes back is reported as it is written
(`Definition.resolve_of_respells`). A block with the name `blocks` cannot be shared by its path
(`Definition.resolve_ne_ok_of_shared_blocks`).

Resolution asks for the paths, the attributes and the entries of the definitions, and a shared path is only looked up;
so two indices are compared that differ in one shared path (`Index.grammar_respelled`).
-/

namespace Delimited

variable {C : Type} {n : Nat} {α β : Type} {s s' : String}

/-! ### Errors up to spelling -/

/-- The same comes of both, or both report that a path comes back, each in its own way to write it. -/
inductive Respelled (s s' : String) : Except GrammarError α → Except GrammarError α → Prop
  | same (x : Except GrammarError α) : Respelled s s' x x
  | cycle : Respelled s s' (.error (.referenceCycle s)) (.error (.referenceCycle s'))

namespace Respelled

private theorem bind {x y : Except GrammarError α} {f f' : α → Except GrammarError β} (h : Respelled s s' x y)
    (hf : ∀ a, Respelled s s' (f a) (f' a)) : Respelled s s' (x >>= f) (y >>= f') := by
  cases h with
  | cycle => exact .cycle
  | same x =>
    cases x with
    | error fault => exact .same _
    | ok a => exact hf a

private theorem eq_of_ok {x y : Except GrammarError α} {a : α} (h : Respelled s s' x y) (hx : x = .ok a) :
    y = .ok a := by
  subst hx
  cases h
  rfl

private theorem ok_iff {x y : Except GrammarError α} (h : Respelled s s' x y) (a : α) : x = .ok a ↔ y = .ok a := by
  cases h with
  | same x => exact Iff.rfl
  | cycle => simp

private theorem of_error {x y : Except GrammarError α} {fault : GrammarError} (h : Respelled s s' x y)
    (hx : x = .error fault) :
    y = .error fault ∨ fault = .referenceCycle s ∧ y = .error (.referenceCycle s') := by
  subst hx
  cases h with
  | same => exact .inl rfl
  | cycle => exact .inr ⟨rfl, rfl⟩

/-- A vector is made item by item. -/
theorem mapM {v : Vector α n} {f f' : α → Except GrammarError β} (hf : ∀ a, Respelled s s' (f a) (f' a)) :
    Respelled s s' (v.mapM f) (v.mapM f') := by
  cases hx : v.mapM f with
  | ok w =>
    rw [vector_mapM_of_eq_ok fun i hi => (hf v[i]).eq_of_ok (vector_mapM_eq_ok hx i hi)]
    exact .same _
  | error fault =>
    obtain ⟨i, hi, hfault, hbefore⟩ := vector_mapM_eq_error_iff.1 hx
    have hbefore' : ∀ (j : Nat) (hj : j < i), ∃ b, f' v[j] = .ok b := by
      intro j hj
      obtain ⟨b, hb⟩ := hbefore j hj
      exact ⟨b, (hf _).eq_of_ok hb⟩
    -- the first item that cannot be made is the same in both
    rcases (hf v[i]).of_error hfault with h | ⟨rfl, h⟩
    · rw [vector_mapM_eq_error_iff.2 ⟨i, hi, h, hbefore'⟩]
      exact .same _
    · rw [vector_mapM_eq_error_iff.2 ⟨i, hi, h, hbefore'⟩]
      exact .cycle

end Respelled

/-! ### Indices that differ in a shared path -/

/-- The definitions differ at most in how one shared path is written. -/
structure Flat.Respells (s s' : String) (f f' : Flat C n) : Prop where
  path : f'.path = f.path
  attributes : f'.attributes = f.attributes
  targets : f'.targets = f.targets
  shared : f'.shared = f.shared ∨ f.shared = some s ∧ f'.shared = some s'

private theorem Flat.Respells.refl (f : Flat C n) : f.Respells s s' f := ⟨rfl, rfl, rfl, .inl rfl⟩

namespace Index

variable {t t' : Index C n}

private theorem nestedBlocks_respelled (ho : ownerPath s' = ownerPath s) (hr : t'.references = t.references)
    (hf : ∀ k, (t.flat k).Respells s s' (t'.flat k)) (unused : List (Fin n)) (k : Fin n) :
    Respelled s s' (t.nestedBlocks unused k) (t'.nestedBlocks unused k) := by
  have hl := lookup_congr hr fun k => (hf k).path
  have ha := addTargets_congr hl
  fun_induction nestedBlocks t unused k with
  | case1 unused k flat hs =>
    have hs' : (t'.flat k).shared = none := by
      rcases (hf k).shared with h | ⟨h, -⟩
      · exact h.trans hs
      · cases h.symm.trans hs
    rw [nestedBlocks_of_not_shared hs', (hf k).path, (hf k).targets, ha]
    exact .same _
  | case2 unused k flat path hs ih =>
    obtain ⟨path', hs', howner, hcycle⟩ : ∃ path', (t'.flat k).shared = some path' ∧ ownerPath path' = ownerPath path ∧
        ∀ α, Respelled (α := α) s s' (.error (.referenceCycle path)) (.error (.referenceCycle path')) := by
      rcases (hf k).shared with h | ⟨h, h'⟩
      · exact ⟨path, h.trans hs, rfl, fun _ => .same _⟩
      · obtain rfl := Option.some.inj (h.symm.trans hs)
        exact ⟨s', h', ho, fun _ => .cycle⟩
    rw [nestedBlocks]
    simp only [hs', (hf k).path, (hf k).targets, howner, hl, ha]
    refine .bind (.same _) fun owner => ?_
    split
    · rename_i hk
      exact .bind (ih owner hk) fun blocks => .same _
    · exact hcycle _

/-- Specs hold nothing of shared paths but the blocks that are found by them. -/
theorem grammar_respelled (ho : ownerPath s' = ownerPath s) (hr : t'.references = t.references)
    (hf : ∀ k, (t.flat k).Respells s s' (t'.flat k)) (hn : 0 < n) : Respelled s s' (t.grammar hn) (t'.grammar hn) := by
  have hspec : ∀ k blocks, (t'.flat k).spec blocks = (t.flat k).spec blocks := by
    intro k blocks
    unfold Flat.spec
    rw [(hf k).path, (hf k).attributes]
  unfold grammar
  simp only [hspec]
  exact .bind (.mapM (nestedBlocks_respelled ho hr hf _)) fun blocks => .same _

end Index

/-! ### Definitions that differ in a shared path -/

namespace Definition

/-- The second definition is the first one, but one definition of the tree shares nested blocks by `s'` and not by `s`. -/
inductive Respells (s s' : String) : Definition C → Definition C → Prop
  | here (attributes : Attributes (Handler C)) (entries : List (String × Entry C)) :
    Respells s s' (.mk attributes (some s) entries) (.mk attributes (some s') entries)
  | inside (attributes : Attributes (Handler C)) (shared : Option String) (before after : List (String × Entry C))
      (name : String) {e e' : Definition C} (h : Respells s s' e e') :
    Respells s s' (.mk attributes shared (before ++ (name, .inline e) :: after))
      (.mk attributes shared (before ++ (name, .inline e') :: after))

variable {d d' : Definition C}

namespace Respells

private theorem size_eq (h : Respells s s' d d') : d'.size = d.size := by
  induction h with
  | here => rfl
  | inside _ _ _ _ _ _ ih => simp only [size, entriesSize_append, entriesSize, ih]

private theorem attributes_eq (h : Respells s s' d d') : d'.attributes = d.attributes := by
  cases h <;> rfl

private theorem references_eq (h : Respells s s' d d') (path : String) : d'.references path = d.references path := by
  induction h generalizing path with
  | here => rfl
  | inside attributes shared before after name _ ih =>
    simp only [references]
    induction before with
    | nil => simp only [List.nil_append, entriesReferences, ih]
    | cons entry before ihb =>
      obtain ⟨_, e | target⟩ := entry <;> simp only [List.cons_append, entriesReferences, ihb]

/-- Entries stand for the same when a definition among them has the same size. -/
private theorem targetsOf_eq {before after : List (String × Entry C)} {name : String} {e e' : Definition C}
    (he : e'.size = e.size) {next : Nat} (hs : next + entriesSize (before ++ (name, .inline e) :: after) ≤ n)
    (hs' : next + entriesSize (before ++ (name, .inline e') :: after) ≤ n) :
    targetsOf n next (before ++ (name, .inline e') :: after) hs' =
      targetsOf n next (before ++ (name, .inline e) :: after) hs := by
  induction before generalizing next with
  | nil => simp only [List.nil_append, targetsOf, he]
  | cons entry before ih =>
    obtain ⟨_, e | target⟩ := entry
    all_goals
      simp only [List.cons_append, targetsOf, List.cons.injEq, true_and]
      exact ih _ _

/-- The definitions of both trees are the same in their order, but for the shared path. -/
theorem flatten (h : Respells s s' d d') {next : Nat} {path : String} (hs : next + d.size ≤ n)
    (hs' : next + d'.size ≤ n) :
    List.Forall₂ (Flat.Respells s s') (d.flatten n next path hs) (d'.flatten n next path hs') := by
  have hrefl : ∀ l : List (Flat C n), List.Forall₂ (Flat.Respells s s') l l := fun l =>
    List.forall₂_same.2 fun f _ => .refl f
  induction h generalizing next path with
  | here attributes entries => exact .cons ⟨rfl, rfl, rfl, .inr ⟨rfl, rfl⟩⟩ (hrefl _)
  | @inside attributes shared before after name e e' h ih =>
    refine .cons ⟨rfl, rfl, targetsOf_eq h.size_eq .., .inl rfl⟩ ?_
    have hentries : ∀ (before : List (String × Entry C)) (next : Nat)
        (hs : next + entriesSize (before ++ (name, .inline e) :: after) ≤ n)
        (hs' : next + entriesSize (before ++ (name, .inline e') :: after) ≤ n),
        List.Forall₂ (Flat.Respells s s') (flattenEntries n next path (before ++ (name, .inline e) :: after) hs)
          (flattenEntries n next path (before ++ (name, .inline e') :: after) hs') := by
      intro before
      induction before with
      | nil =>
        intro next hs hs'
        simp only [List.nil_append, flattenEntries, h.size_eq]
        exact List.rel_append (ih ..) (hrefl _)
      | cons entry before ihb =>
        intro next hs hs'
        obtain ⟨_, x | target⟩ := entry
        · simp only [List.cons_append, flattenEntries]
          exact List.rel_append (hrefl _) (ihb ..)
        · simp only [List.cons_append, flattenEntries]
          exact ihb ..
    exact hentries before (next + 1) _ _

end Respells

/-- A definition resolves to the same, whichever of two ways to write the path of a block is used. -/
private theorem resolve_respelled (h : Respells s s' d d') (ho : Index.ownerPath s' = Index.ownerPath s) :
    Respelled s s' d.resolve d'.resolve := by
  rw [resolve_eq_grammar rfl, resolve_eq_grammar h.size_eq, h.attributes_eq]
  dsimp only
  split
  · exact .same (.error _)
  split
  · exact .same (.error _)
  refine Index.grammar_respelled ho (h.references_eq rootPath) (fun k => ?_) _
  have hflats : List.Forall₂ (Flat.Respells s s') (d.flatten d.size 0 rootPath (by omega))
      (d'.flatten d.size 0 rootPath (by rw [h.size_eq]; omega)) := h.flatten _ _
  have hk := (List.forall₂_iff_get.1 hflats).2 k (by simp [length_flatten]) (by simp [length_flatten, h.size_eq])
  simpa [Index.flat, indexOf] using hk

/-! ### The path of a block, and its path followed by `/blocks` -/

/-- The path of an entry means the block at this path, unless the entry has the name `blocks`. -/
theorem owner_entry {parent name : String} (hn : '/' ∉ name.toList) (hb : name ≠ "blocks") :
    Owner (childPath parent name) (childPath parent name) :=
  .whole fun h => hb (name_eq_of_blocks_suffix h hn)

/-- The path of an entry followed by `/blocks` means the block at this path. -/
theorem owner_entry_blocks (parent name : String) : Owner (childPath parent name ++ "/blocks") (childPath parent name) :=
  .front (childPath_ne_empty parent name)

/-- A definition that shares has its own entries put over the nested blocks of the block that is meant. -/
private theorem blocks_of_shared (hd : d.WellNamed) {specs : Vector (Spec C d.size) d.size}
    (hs : ∀ slot, d.Nests slot (specs.get slot).blocks) {slot : Fin d.size} {path shared owner : String}
    {e : Definition C} (hat : d.At slot path e) (he : e.shared = some shared) (ho : Owner shared owner) :
    ∃ (m : Fin d.size) (own : List (String × Fin d.size)), d.Leads owner m ∧
      List.Forall₂ (d.StandsFor path) e.entries own ∧ (specs.get slot).blocks = override (specs.get m).blocks own := by
  have h := hs slot
  generalize (specs.get slot).blocks = blocks at h
  cases h with
  | own hat' hnone =>
    obtain ⟨-, rfl⟩ := hat.eq_of_slot hat'
    cases he.symm.trans hnone
  | @shares _ m _ _ base own hat' hm hbase hown =>
    obtain ⟨rfl, rfl⟩ := hat.eq_of_slot hat'
    obtain ⟨_, _, shared', owner', hat', he', ho', hl⟩ := hm
    obtain ⟨-, rfl⟩ := hat.eq_of_slot hat'
    obtain rfl := Option.some.inj (he.symm.trans he')
    obtain rfl := (ownerPath_eq_iff.2 ho).symm.trans (ownerPath_eq_iff.2 ho')
    exact ⟨m, own, hl, hown, by rw [hbase.unique hd (hs m)]⟩

/-- Sharing by the path of an entry and by this path followed by `/blocks` is the same, unless the entry has the name
`blocks`. Both definitions resolve to the same grammar, in which the own entries are put over the nested blocks of the
block that the path leads to; or both have the same fault, in which a path that comes back is reported as it is
written. -/
theorem resolve_of_respells (hd : d.WellNamed) {k : Nat} {parent name : String} {e : Definition C} {entry : Entry C}
    (hat : d.At k parent e) (hentry : (name, entry) ∈ e.entries) (hname : name ≠ "blocks")
    (h : Respells (childPath parent name) (childPath parent name ++ "/blocks") d d') :
    (∀ g, d.resolve = .ok g ↔ d'.resolve = .ok g) ∧
      (∀ fault, d.resolve = .error fault →
        d'.resolve = .error fault ∨ fault = .referenceCycle (childPath parent name) ∧
          d'.resolve = .error (.referenceCycle (childPath parent name ++ "/blocks"))) ∧
        ∀ g, d.resolve = .ok g → ∃ specs, g = ⟨d.size, d.size_pos, specs⟩ ∧
          ∀ (slot : Fin d.size) path f, d.At slot path f → f.shared = some (childPath parent name) →
            ∃ (m : Fin d.size) (own : List (String × Fin d.size)), d.Leads (childPath parent name) m ∧
              List.Forall₂ (d.StandsFor path) f.entries own ∧
                (specs.get slot).blocks = override (specs.get m).blocks own := by
  have ho : Owner (childPath parent name) (childPath parent name) :=
    owner_entry (hd.plain _ hat.mem (name, entry) hentry) hname
  have hsame := resolve_respelled h
    ((ownerPath_eq_iff.2 (owner_entry_blocks parent name)).trans (ownerPath_eq_iff.2 ho).symm)
  refine ⟨hsame.ok_iff, fun fault => hsame.of_error, fun g hg => ?_⟩
  obtain ⟨specs, rfl, hs⟩ := nests_specs hd hg
  exact ⟨specs, rfl, fun slot path f hf hshared => blocks_of_shared hd hs hf hshared ho⟩

/-- What stands in front of `/blocks` at the end of a path names nothing when the path is that of an entry. -/
private theorem strays_front (hd : d.WellNamed) {k : Nat} {parent front : String} {e : Definition C}
    (hat : d.At k parent e) (hf : childPath parent "blocks" = front ++ "/blocks") : d.Strays front := by
  have hcount : (childPath parent "blocks").toList.count '/' % 2 = 0 := hat.count_childPath hd (by decide)
  have hblocks : ("/blocks".toList).count '/' = 1 := by decide
  rw [hf, String.toList_append, List.count_append, hblocks] at hcount
  -- a path has two `/` for each name, so one of them is missing here
  have hchild : ∀ {j q e₁ name}, d.At j q e₁ → '/' ∉ name.toList → front ≠ childPath q name := by
    rintro j q e₁ name hj hn rfl
    have := hj.count_childPath hd hn
    omega
  refine .here (fun j e₁ hj => ?_) fun target hr => ?_
  · rcases hj.cases with ⟨-, rfl, -⟩ | ⟨j, q, a, shared, before, name, after, hq, -, rfl⟩
    · have hlength : (childPath parent "blocks").toList.length = 8 := by rw [hf]; decide
      unfold childPath at hlength
      split at hlength
      · exact absurd hlength (by decide)
      · have hstep : ("/blocks/".toList ++ "blocks".toList).length = 14 := by decide
        rw [String.toList_append, String.toList_append, List.append_assoc, List.length_append, hstep] at hlength
        omega
    · exact hchild hq (hd.plain _ hq.mem (name, .inline e₁) (by simp [entries])) rfl
  · obtain ⟨j, q, e₁, name, hj, hm, rfl⟩ := hr
    exact hchild hj (hd.plain _ hj.mem _ hm) rfl

/-- A definition that shares by the path of a block with the name `blocks` does not resolve. -/
theorem resolve_ne_ok_of_shared_blocks (hd : d.WellNamed) {k : Nat} {slot : Fin d.size} {parent path : String}
    {e f : Definition C} (hat : d.At k parent e) (hf : d.At slot path f)
    (hs : f.shared = some (childPath parent "blocks")) (g : Grammar C) : d.resolve ≠ .ok g := by
  intro hg
  obtain ⟨front, hfront, hne⟩ : ∃ front, childPath parent "blocks" = front ++ "/blocks" ∧ front ≠ "" := by
    unfold childPath
    split
    · exact ⟨"/blocks", rfl, by decide⟩
    · exact ⟨parent ++ "/blocks", by rw [String.append_assoc, String.append_assoc]; rfl, by simp⟩
  obtain ⟨specs, -, hnests⟩ := nests_specs hd hg
  have ho : Owner (childPath parent "blocks") front := by
    rw [hfront]
    exact .front hne
  obtain ⟨m, -, hl, -⟩ := blocks_of_shared hd hnests hf hs ho
  exact hl.not_strays hd (strays_front hd hat hfront)

/-- Two blocks, of which the second one has the name, and the first one shares nested blocks by the path. -/
private def sharingWith (name path : String) : Definition Unit :=
  .mk {} none
    [("a", .inline (.mk { start := some "(", stop := some ")" } (some path) [])),
     (name, .inline (.mk { start := some "[", stop := some "]" } none [("c", .ref "/blocks/a")]))]

private theorem respells_sharingWith (name path path' : String) :
    Respells path path' (sharingWith name path) (sharingWith name path') :=
  .inside _ _ [] _ _ (.here _ _)

/-- Shared by its path or by its path followed by `/blocks`, a block `b` gives its nested block `c`. -/
theorem resolve_of_respells_b :
    ∃ g, (sharingWith "b" "/blocks/b").WellNamed ∧
      (sharingWith "b" "/blocks/b").resolve = .ok g ∧ (sharingWith "b" "/blocks/b/blocks").resolve = .ok g := by
  have hd : (sharingWith "b" "/blocks/b").WellNamed := of_decide_eq_true (by cbv)
  have hok : (sharingWith "b" "/blocks/b/blocks").resolvesTo (fun _ => true) = true := by cbv
  obtain ⟨g, hg, -⟩ := exists_of_resolvesTo hok
  have hsame := resolve_of_respells hd (sharingWith "b" "/blocks/b").at_zero
    (List.mem_cons_of_mem _ List.mem_cons_self) (by decide)
    (respells_sharingWith "b" "/blocks/b" "/blocks/b/blocks")
  exact ⟨g, hd, (hsame.1 g).2 hg, hg⟩

/-- A block with the name `blocks` cannot be shared by its path, although it can be by its path followed by `/blocks`. -/
theorem resolve_of_respells_blocks :
    (sharingWith "blocks" "/blocks/blocks").WellNamed ∧
      (∃ e, (sharingWith "blocks" "/blocks/blocks").At 2 "/blocks/blocks" e) ∧
        Respells "/blocks/blocks" "/blocks/blocks/blocks" (sharingWith "blocks" "/blocks/blocks")
          (sharingWith "blocks" "/blocks/blocks/blocks") ∧
          (∀ g, (sharingWith "blocks" "/blocks/blocks").resolve ≠ .ok g) ∧
            ∃ g, (sharingWith "blocks" "/blocks/blocks/blocks").resolve = .ok g := by
  have hd : (sharingWith "blocks" "/blocks/blocks").WellNamed := of_decide_eq_true (by cbv)
  have hok : (sharingWith "blocks" "/blocks/blocks/blocks").resolvesTo (fun _ => true) = true := by cbv
  obtain ⟨g, hg, -⟩ := exists_of_resolvesTo hok
  have hroot := (sharingWith "blocks" "/blocks/blocks").at_zero
  have hat : (sharingWith "blocks" "/blocks/blocks").At (1 : Fin 3) "/blocks/a" _ := rfl
  exact ⟨hd, ⟨_, rfl⟩, respells_sharingWith .., resolve_ne_ok_of_shared_blocks hd hroot hat rfl, g, hg⟩

end Definition

end Delimited
