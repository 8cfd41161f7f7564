import Mathlib
import Delimited.Proofs.Grammar.Block
import Delimited.Proofs.Grammar.Resolved
import Delimited.Proofs.Grammar.Sharing
import Delimited.Proofs.Scan.Translation

/-!
# Definitions in place of references

A reference may be replaced by a copy of the definition that it leads to (`Definition.Inlines`). All other definitions keep
their paths, so what led to a definition still does; a path that went through the reference now ends at the copy. The slots
behind the copy move up by its size, and those of the copy stand for those of the definition that it is a copy of
(`shift`).
-/

namespace Delimited

variable {C : Type}

/-- A list can be made item by item when another list can, whose items stand for those of the first one. -/
private theorem exists_mapM_of_forall₂ {ε α α' β β' : Type} {f : α → Except ε β} (f' : α' → Except ε β') (φ : β' → β)
    {R : α' → α → Prop} {l' : List α'} {l : List α} {bs : List β} (h : List.Forall₂ R l' l)
    (hf : ∀ a' a b, R a' a → f a = .ok b → ∃ b', f' a' = .ok b' ∧ φ b' = b) (hl : l.mapM f = .ok bs) :
    ∃ bs', l'.mapM f' = .ok bs' ∧ bs'.map φ = bs := by
  induction h generalizing bs with
  | nil =>
    obtain rfl := Except.ok.inj hl
    exact ⟨[], rfl, rfl⟩
  | cons ha _ ih =>
    rw [List.mapM_cons] at hl
    obtain ⟨b, hb, hl⟩ := bind_eq_ok hl
    obtain ⟨bs, hbs, hl⟩ := bind_eq_ok hl
    obtain rfl := Except.ok.inj hl
    obtain ⟨b', hb', rfl⟩ := hf _ _ _ ha hb
    obtain ⟨bs', hbs', rfl⟩ := ih hbs
    refine ⟨b' :: bs', ?_, rfl⟩
    rw [List.mapM_cons, hb', hbs']
    rfl

namespace Definition

/-- The second definition is the first one with a copy in place of a reference, and the copy gets the slot. -/
inductive Inlines (target : String) (copy : Definition C) : Nat → Definition C → Definition C → Prop
  | here (attributes : Attributes (Handler C)) (shared : Option String) (before after : List (String × Entry C))
      (name : String) :
    Inlines target copy (entriesSize before + 1) (.mk attributes shared (before ++ (name, .ref target) :: after))
      (.mk attributes shared (before ++ (name, .inline copy) :: after))
  | inside (attributes : Attributes (Handler C)) (shared : Option String) (before after : List (String × Entry C))
      (name : String) {slot : Nat} {e e' : Definition C} (h : Inlines target copy slot e e') :
    Inlines target copy (entriesSize before + 1 + slot) (.mk attributes shared (before ++ (name, .inline e) :: after))
      (.mk attributes shared (before ++ (name, .inline e') :: after))

variable {target : String} {copy d d' : Definition C} {slot : Nat}

namespace Inlines

private theorem size_eq (h : Inlines target copy slot d d') : d'.size = d.size + copy.size := by
  induction h with
  | here =>
    simp only [size, entriesSize_append, entriesSize]
    omega
  | inside _ _ _ _ _ _ ih =>
    simp only [size, entriesSize_append, entriesSize, ih]
    omega

private theorem slot_le (h : Inlines target copy slot d d') : slot ≤ d.size := by
  induction h with
  | here =>
    simp only [size, entriesSize_append, entriesSize]
    omega
  | inside _ _ _ _ _ _ ih =>
    simp only [size, entriesSize_append, entriesSize]
    omega

private theorem slot_pos (h : Inlines target copy slot d d') : 0 < slot := by
  cases h <;> omega

private theorem attributes_eq (h : Inlines target copy slot d d') : d'.attributes = d.attributes := by
  cases h <;> rfl

private theorem shared_eq (h : Inlines target copy slot d d') : d'.shared = d.shared := by
  cases h <;> rfl

/-! ### The definitions of both trees -/

/-- A definition in front of the copy is the same in both trees and ends in front of it, or the copy stands in it. -/
def Turned (target : String) (copy : Definition C) (slot i : Nat) (e e' : Definition C) : Prop :=
  (e' = e ∧ i + e.size ≤ slot) ∨ Inlines target copy (slot - i) e e'

/-- In front of the copy both trees have the same paths, and behind it the same definitions. -/
theorem preorder_split (h : Inlines target copy slot d d') (path : String) :
    ∃ front front' back q, d.preorder path = front ++ back ∧ d'.preorder path = front' ++ (copy.preorder q ++ back) ∧
      front.length = slot ∧ front'.length = slot ∧
        ∀ (i : Nat) p e, front[i]? = some (p, e) → ∃ e', front'[i]? = some (p, e') ∧ Turned target copy slot i e e' := by
  induction h generalizing path with
  | here attributes shared before after name =>
    refine ⟨(path, .mk attributes shared (before ++ (name, .ref target) :: after)) :: entriesPreorder path before,
      (path, .mk attributes shared (before ++ (name, .inline copy) :: after)) :: entriesPreorder path before,
      entriesPreorder path after, childPath path name, ?_, ?_, ?_, ?_, ?_⟩
    · simp [preorder, entriesPreorder_append, entriesPreorder]
    · simp [preorder, entriesPreorder_append, entriesPreorder]
    · simp [length_entriesPreorder]
    · simp [length_entriesPreorder]
    · intro i p e hi
      cases i with
      | zero =>
        obtain ⟨rfl, rfl⟩ := Prod.mk.inj (Option.some.inj hi)
        exact ⟨_, rfl, Or.inr (.here ..)⟩
      | succ i =>
        have := entriesPreorder_extent hi
        exact ⟨e, hi, Or.inl ⟨rfl, by omega⟩⟩
  | @inside attributes shared before after name slot e₁ e₁' h ih =>
    obtain ⟨front, front', back, q, hfront, hfront', hlen, hlen', hturned⟩ := ih (childPath path name)
    refine ⟨(path, .mk attributes shared (before ++ (name, .inline e₁) :: after)) :: (entriesPreorder path before ++ front),
      (path, .mk attributes shared (before ++ (name, .inline e₁') :: after)) :: (entriesPreorder path before ++ front'),
      back ++ entriesPreorder path after, q, ?_, ?_, ?_, ?_, ?_⟩
    · simp [preorder, entriesPreorder_append, entriesPreorder, hfront]
    · simp [preorder, entriesPreorder_append, entriesPreorder, hfront']
    · simp only [List.length_cons, List.length_append, length_entriesPreorder, hlen]
      omega
    · simp only [List.length_cons, List.length_append, length_entriesPreorder, hlen']
      omega
    · intro i p e hi
      cases i with
      | zero =>
        obtain ⟨rfl, rfl⟩ := Prod.mk.inj (Option.some.inj hi)
        exact ⟨_, rfl, Or.inr (.inside _ _ _ _ _ h)⟩
      | succ i =>
        rw [List.getElem?_cons_succ, List.getElem?_append, length_entriesPreorder] at hi
        rw [List.getElem?_cons_succ, List.getElem?_append, length_entriesPreorder]
        split at hi
        · rename_i hlt
          have := entriesPreorder_extent hi
          rw [if_pos hlt]
          exact ⟨e, hi, Or.inl ⟨rfl, by omega⟩⟩
        · rename_i hlt
          rw [if_neg hlt]
          obtain ⟨e', he', hturned⟩ := hturned _ p e hi
          refine ⟨e', he', hturned.imp (fun h => ⟨h.1, by omega⟩) fun h => ?_⟩
          rwa [show entriesSize before + 1 + slot - (i + 1) = slot - (i - entriesSize before) by omega]

/-! ### Slots -/

/-- The slot that a slot behind the copy, or in it, stands for: the copy has its slots from `slot` on, and it is a copy of the
definition in the slot `k`. -/
def shift (slot size k i : Nat) : Nat :=
  if i < slot then i else if i < slot + size then k + (i - slot) else i - size

/-- Nothing but the root stands for the root, unless the copy is one of the root. -/
theorem eq_zero_of_shift (h : Inlines target copy slot d d') {k i : Nat} (hk : 0 < k)
    (hi : shift slot copy.size k i = 0) : i = 0 := by
  have := h.slot_pos
  unfold shift at hi
  split at hi
  · exact hi
  · split at hi <;> omega

/-- What has a slot in front of the copy keeps it, and the other slots move up. -/
theorem at_of_at (h : Inlines target copy slot d d') {i : Nat} {p : String} {e : Definition C} (ha : d.At i p e) :
    (i < slot ∧ ∃ e', d'.At i p e' ∧ Turned target copy slot i e e') ∨ (slot ≤ i ∧ d'.At (i + copy.size) p e) := by
  obtain ⟨front, front', back, q, hfront, hfront', hlen, hlen', hturned⟩ := h.preorder_split rootPath
  unfold At at ha ⊢
  rw [hfront, List.getElem?_append, hlen] at ha
  rw [hfront']
  split at ha
  · rename_i hlt
    obtain ⟨e', he', ht⟩ := hturned i p e ha
    exact Or.inl ⟨hlt, e', by rw [List.getElem?_append_left (by omega)]; exact he', ht⟩
  · rename_i hlt
    refine Or.inr ⟨by omega, ?_⟩
    rw [List.getElem?_append_right (by omega), List.getElem?_append_right (by rw [length_preorder]; omega),
      length_preorder, hlen']
    rwa [show i + copy.size - slot - copy.size = i - slot by omega]

/-- The definitions of the second tree are those of the first, and those of the copy. -/
theorem at_cases (h : Inlines target copy slot d d') {i : Nat} {p : String} {e' : Definition C} (ha : d'.At i p e') :
    (i < slot ∧ ∃ e, d.At i p e ∧ Turned target copy slot i e e') ∨
      (slot ≤ i ∧ ∃ q, (copy.preorder q)[i - slot]? = some (p, e')) ∨
        (slot + copy.size ≤ i ∧ d.At (i - copy.size) p e') := by
  obtain ⟨front, front', back, q, hfront, hfront', hlen, hlen', hturned⟩ := h.preorder_split rootPath
  unfold At at ha ⊢
  rw [hfront', List.getElem?_append, hlen'] at ha
  rw [hfront]
  split at ha
  · rename_i hlt
    have hi : i < front.length := by omega
    obtain ⟨e'', he'', ht⟩ := hturned i _ _ (List.getElem?_eq_getElem hi)
    obtain ⟨rfl, rfl⟩ := Prod.mk.inj (Option.some.inj (ha.symm.trans he''))
    refine Or.inl ⟨hlt, front[i].2, ?_, ht⟩
    rw [List.getElem?_append_left hi]
    exact List.getElem?_eq_getElem hi
  · rename_i hlt
    rw [List.getElem?_append, length_preorder] at ha
    split at ha
    · exact Or.inr (Or.inl ⟨by omega, q, ha⟩)
    · rename_i hlt'
      refine Or.inr (Or.inr ⟨by omega, ?_⟩)
      rw [List.getElem?_append_right (by omega), hlen]
      rwa [show i - copy.size - slot = i - slot - copy.size by omega]

private theorem names_eq (h : Inlines target copy slot d d') : d'.entries.map Prod.fst = d.entries.map Prod.fst := by
  cases h <;> simp [entries]

section

variable {k : Nat} {pk : String} (h : Inlines target copy slot d d') (hk : d.At k pk copy)

include h hk

/-- What a definition of the second tree stands for in the first one. -/
theorem at_shift {i : Nat} {p : String} {e' : Definition C} (ha : d'.At i p e') :
    ∃ q e, d.At (shift slot copy.size k i) q e ∧
      ((e' = e ∧ ∀ j < e.size, shift slot copy.size k (i + j) = shift slot copy.size k i + j) ∨
        (i < slot ∧ Inlines target copy (slot - i) e e')) := by
  unfold shift
  rcases h.at_cases ha with ⟨hlt, e, ha, ⟨rfl, hsize⟩ | hi⟩ | ⟨hle, q, hq⟩ | ⟨hle, ha⟩
  · refine ⟨p, e', by rwa [if_pos hlt], Or.inl ⟨rfl, fun j hj => ?_⟩⟩
    rw [if_pos (by omega), if_pos hlt]
  · exact ⟨p, e, by rwa [if_pos hlt], Or.inr ⟨hlt, hi⟩⟩
  · have hextent := preorder_extent hq
    have hpos := e'.size_pos
    obtain ⟨l, l', hl, hlen⟩ := preorder_segment hk
    obtain ⟨hlt, hq⟩ := List.getElem?_eq_some_iff.1 hq
    -- the copy has the same definitions under other paths
    have hsnd : ((copy.preorder pk).map Prod.snd)[i - slot]? = some e' := by
      rw [preorder_snd pk q, List.getElem?_map, List.getElem?_eq_getElem hlt, hq]
      rfl
    rw [List.getElem?_map, Option.map_eq_some_iff] at hsnd
    obtain ⟨⟨p', e⟩, hp', he⟩ := hsnd
    obtain rfl : e = e' := he
    refine ⟨p', e, ?_, Or.inl ⟨rfl, fun j hj => ?_⟩⟩
    · rw [if_neg (by omega), if_pos (by omega), At, hl, List.append_assoc, List.getElem?_append_right (by omega), hlen,
        Nat.add_sub_cancel_left, List.getElem?_append_left (by
          rw [length_preorder] at hlt ⊢
          exact hlt)]
      exact hp'
    · rw [if_neg (by omega), if_pos (by omega), if_neg (by omega), if_pos (by omega)]
      omega
  · have hpos := e'.size_pos
    refine ⟨p, e', by rwa [if_neg (by omega), if_neg (by omega)], Or.inl ⟨rfl, fun j hj => ?_⟩⟩
    rw [if_neg (by omega), if_neg (by omega), if_neg (by omega), if_neg (by omega)]
    omega

private theorem wellNamed (hd : d.WellNamed) : d'.WellNamed := by
  have hnames : ∀ b ∈ d'.preorder rootPath, ∃ c ∈ d.preorder rootPath,
      b.2.entries.map Prod.fst = c.2.entries.map Prod.fst := by
    rintro ⟨p, e'⟩ hb
    obtain ⟨i, hi⟩ := exists_at_of_mem hb
    obtain ⟨q, e, ha, ⟨rfl, -⟩ | ⟨-, hi⟩⟩ := h.at_shift hk hi
    · exact ⟨_, ha.mem, rfl⟩
    · exact ⟨_, ha.mem, hi.names_eq⟩
  constructor
  · intro b hb
    obtain ⟨c, hc, hn⟩ := hnames b hb
    rw [hn]
    exact hd.distinct c hc
  · intro b hb entry hentry
    obtain ⟨c, hc, hn⟩ := hnames b hb
    have hm : entry.1 ∈ c.2.entries.map Prod.fst := hn ▸ List.mem_map_of_mem hentry
    obtain ⟨entry', hentry', he⟩ := List.mem_map.1 hm
    exact he ▸ hd.plain c hc entry' hentry'

end

/-! ### Paths -/

/-- A reference is still there, or it is the one that the copy has replaced. -/
theorem refers_cases (h : Inlines target copy slot d d') {path t : String} (hr : d.Refers path t) :
    d'.Refers path t ∨ (t = target ∧ d'.At slot path copy) := by
  obtain ⟨i, parent, e, name, ha, hm, rfl⟩ := hr
  rcases h.at_of_at ha with ⟨hlt, e', ha', ⟨rfl, -⟩ | hi⟩ | ⟨-, ha'⟩
  · exact Or.inl ⟨i, parent, e', name, ha', hm, rfl⟩
  · generalize hs : slot - i = s at hi
    cases hi with
    | here _ _ before after name' =>
      rcases List.mem_append.1 hm with hm | hm
      · exact Or.inl ⟨i, parent, _, name, ha', List.mem_append_left _ hm, rfl⟩
      · rcases List.mem_cons.1 hm with hm | hm
        · cases hm
          have hentry := ha'.entry
          rw [show i + 1 + entriesSize before = slot by omega] at hentry
          exact Or.inr ⟨rfl, hentry⟩
        · exact Or.inl ⟨i, parent, _, name, ha', List.mem_append_right _ (List.mem_cons_of_mem _ hm), rfl⟩
    | inside _ _ _ _ _ hi =>
      rcases List.mem_append.1 hm with hm | hm
      · exact Or.inl ⟨i, parent, _, name, ha', List.mem_append_left _ hm, rfl⟩
      · rcases List.mem_cons.1 hm with hm | hm
        · cases hm
        · exact Or.inl ⟨i, parent, _, name, ha', List.mem_append_right _ (List.mem_cons_of_mem _ hm), rfl⟩
  · exact Or.inl ⟨_, parent, e, name, ha', hm, rfl⟩

/-- A path that leads to a definition leads to one that stands for it. -/
theorem leads (h : Inlines target copy slot d d') (hd : d.WellNamed) {k : Nat} (hk : d.Leads target k) {path : String}
    {j : Nat} (hl : d.Leads path j) : ∃ j', d'.Leads path j' ∧ shift slot copy.size k j' = j := by
  induction hl with
  | here ha =>
    rcases h.at_of_at ha with ⟨hlt, e', ha', -⟩ | ⟨hle, ha'⟩
    · exact ⟨_, .here ha', if_pos hlt⟩
    · refine ⟨_, .here ha', ?_⟩
      rw [shift, if_neg (by omega), if_neg (by omega), Nat.add_sub_cancel]
  | next hr hl ih =>
    rcases h.refers_cases hr with hr' | ⟨rfl, ha⟩
    · obtain ⟨j', hl', hj⟩ := ih
      exact ⟨j', .next hr' hl', hj⟩
    · obtain rfl := hk.unique hd hl
      have := copy.size_pos
      refine ⟨slot, .here ha, ?_⟩
      rw [shift, if_neg (Nat.lt_irrefl _), if_pos (by omega), Nat.sub_self, Nat.add_zero]

/-! ### Entries -/

/-- Entries of two trees stand for the same: for slots that belong together, for the same path, or for the copy and for the
path that leads to what it is a copy of. -/
inductive Twin {n' n : Nat} (f : Fin n' → Fin n) (target : String) (k : Nat) : String × Target n' → String × Target n → Prop
  | slot (name : String) (j : Fin n') : Twin f target k (name, .slot j) (name, .slot (f j))
  | ref (name path : String) : Twin f target k (name, .ref path) (name, .ref path)
  | copy (name : String) {j : Fin n'} (hj : (f j : Nat) = k) : Twin f target k (name, .slot j) (name, .ref target)

/-- Entries that are the same in both trees. -/
theorem twin_targetsOf {n' n k : Nat} {f : Fin n' → Fin n} {next' next : Nat} {es : List (String × Entry C)}
    (h' : next' + entriesSize es ≤ n') (h : next + entriesSize es ≤ n)
    (hf : ∀ j (hj : j < entriesSize es), (f ⟨next' + j, by omega⟩ : Nat) = next + j) :
    List.Forall₂ (Twin f target k) (targetsOf n' next' es h') (targetsOf n next es h) := by
  induction es generalizing next' next with
  | nil => exact .nil
  | cons entry es ih =>
    obtain ⟨name, e | path⟩ := entry
    · have hpos := e.size_pos
      simp only [entriesSize] at h' h hf
      refine .cons ?_ (ih _ _ fun j hj => ?_)
      · have hslot : f ⟨next', by omega⟩ = ⟨next, by omega⟩ := Fin.ext (hf 0 (by omega))
        rw [← hslot]
        exact .slot name _
      · have := hf (e.size + j) (by omega)
        simpa only [Nat.add_assoc] using this
    · simp only [entriesSize] at h' h hf
      exact .cons (.ref name path) (ih h' h hf)

/-- The entries of a definition that the copy stands in. -/
theorem twin_targetsOf_of_inlines {n' n k sub i : Nat} {f : Fin n' → Fin n} {e e' : Definition C}
    (hi : Inlines target copy sub e e') (hf : ∀ j hj, (f ⟨j, hj⟩ : Nat) = shift (i + sub) copy.size k j)
    (h' : i + 1 + entriesSize e'.entries ≤ n') (h : i + 1 + entriesSize e.entries ≤ n) :
    List.Forall₂ (Twin f target k) (targetsOf n' (i + 1) e'.entries h') (targetsOf n (i + 1) e.entries h) := by
  cases hi with
  | here attributes shared before after name =>
    simp only [entries, entriesSize_append, entriesSize] at h' h
    have hpos := copy.size_pos
    simp only [entries, targetsOf_append, targetsOf]
    refine List.rel_append (twin_targetsOf _ _ fun j hj => ?_) (.cons (.copy name ?_) (twin_targetsOf _ _ fun j hj => ?_))
    · rw [hf, shift, if_pos (by omega)]
    · rw [hf, shift, if_neg (by omega), if_pos (by omega)]
      omega
    · rw [hf, shift, if_neg (by omega), if_neg (by omega)]
      omega
  | @inside attributes shared before after name slot e₁ e₁' hi =>
    have hsize := hi.size_eq
    have hle := hi.slot_le
    have hpos := hi.slot_pos
    simp only [entries, entriesSize_append, entriesSize] at h' h
    simp only [entries, targetsOf_append, targetsOf]
    refine List.rel_append (twin_targetsOf _ _ fun j hj => ?_) (.cons ?_ (twin_targetsOf _ _ fun j hj => ?_))
    · rw [hf, shift, if_pos (by omega)]
    · have hslot : f ⟨i + 1 + entriesSize before, by have := e₁'.size_pos; omega⟩ =
          ⟨i + 1 + entriesSize before, by have := e₁.size_pos; omega⟩ :=
        Fin.ext (by rw [hf, shift, if_pos (by omega)])
      rw [← hslot]
      exact .slot name _
    · rw [hf, shift, if_neg (by omega), if_neg (by omega)]
      omega

section

variable {k : Nat} {pk : String} (h : Inlines target copy slot d d') (hk : d.At k pk copy)

include h hk

private theorem shift_lt {i : Nat} (hi : i < d'.size) : shift slot copy.size k i < d.size := by
  obtain ⟨p, e', ha⟩ := exists_at hi
  obtain ⟨q, e, ha, -⟩ := h.at_shift hk ha
  exact ha.lt

/-- The slot of the first tree that a slot of the second one stands for. -/
def original (i : Fin d'.size) : Fin d.size := ⟨shift slot copy.size k i, h.shift_lt hk i.2⟩

/-- What a definition of the second tree stands for says the same about its block and has entries that stand for the same. -/
theorem at_original {i : Fin d'.size} {p : String} {e' : Definition C} (ha : d'.At i p e') :
    ∃ q e, d.At (h.original hk i) q e ∧ e'.attributes = e.attributes ∧ e'.shared = e.shared ∧
      List.Forall₂ (Twin (h.original hk) target k) (d'.index.flat i).targets
        (d.index.flat (h.original hk i)).targets := by
  obtain ⟨q, e, hq, hturned⟩ := h.at_shift hk ha
  have hq : d.At (h.original hk i) q e := hq
  obtain ⟨hs', hf'⟩ := flat_at ha
  obtain ⟨hs, hf⟩ := flat_at hq
  rw [hf', hf]
  dsimp only
  rcases hturned with ⟨rfl, hshift⟩ | ⟨hlt, hi⟩
  · refine ⟨q, e', hq, rfl, rfl, twin_targetsOf _ _ fun j hj => ?_⟩
    have := hshift (j + 1) (by cases e'; simp only [size, entries] at hj ⊢; omega)
    show shift slot copy.size k (i + 1 + j) = shift slot copy.size k i + 1 + j
    rw [Nat.add_assoc, Nat.add_comm 1 j, this]
    omega
  · refine ⟨q, e, hq, hi.attributes_eq, hi.shared_eq, ?_⟩
    have hsame : (h.original hk i : Nat) = i := if_pos hlt
    have hshift : ∀ j hj, (h.original hk ⟨j, hj⟩ : Nat) = shift (i + (slot - i)) copy.size k j := by
      intro j hj
      rw [Nat.add_sub_cancel' (Nat.le_of_lt hlt)]
      rfl
    simp only [hsame] at hs ⊢
    exact twin_targetsOf_of_inlines hi hshift hs' hs

/-- If a slot stands for one with a spec, it has a spec with any nested blocks. When these stand for the nested blocks of
that one, the specs differ in their paths and slots only. -/
theorem exists_made (hk₀ : 0 < k) {i : Fin d'.size} {blocks : List (String × Fin d.size)} {s : Spec C d.size}
    (hm : (d.index.flat (h.original hk i)).Made blocks s) (blocks' : List (String × Fin d'.size)) :
    ∃ s' : Spec C d'.size, (d'.index.flat i).Made blocks' s' ∧
      (blocks'.map (fun b => (b.1, h.original hk b.2)) = blocks →
        Scan.relabel (h.original hk) s' = Scan.relabel id s) := by
  obtain ⟨p, e', ha⟩ := exists_at i.2
  obtain ⟨q, e, hq, hattributes, -, -⟩ := h.at_original hk ha
  obtain ⟨_, hf'⟩ := flat_at ha
  obtain ⟨_, hf⟩ := flat_at hq
  have hroot : (d'.index.flat i).path ≠ rootPath → (d.index.flat (h.original hk i)).path ≠ rootPath := by
    rw [hf', hf, Ne, Ne, ha.path_eq_rootPath_iff, hq.path_eq_rootPath_iff]
    exact fun hi hi' => hi (h.eq_zero_of_shift hk₀ hi')
  refine ⟨_, hm.transfer (by rw [hf', hattributes]; exact congrArg Flat.attributes hf.symm) hroot blocks', ?_⟩
  intro hmap
  have hids : s.blocks.map (fun b => (b.1, id b.2)) = blocks := by simpa using hm.blocks
  unfold Scan.relabel
  dsimp only
  rw [hmap, hids]

/-! ### Nested blocks -/

variable (hd : d.WellNamed) (hl : d.Leads target k)

include hd hl

private theorem shares {i : Fin d'.size} {m : Fin d.size} (hs : d.Shares (h.original hk i) m) :
    ∃ m', d'.Shares i m' ∧ h.original hk m' = m := by
  obtain ⟨source, e, path, owner, hat, hs, ho, hm⟩ := hs
  obtain ⟨p, e', ha⟩ := exists_at i.2
  obtain ⟨q, e₁, hq, -, hshared, -⟩ := h.at_original hk ha
  obtain ⟨-, rfl⟩ := hat.eq_of_slot hq
  obtain ⟨m', hm', hm⟩ := h.leads hd hl hm
  exact ⟨⟨m', hm'.lt⟩, ⟨p, e', path, owner, ha, hshared.trans hs, ho, hm'⟩, Fin.ext hm⟩

/-- A walk in the first tree is one in the second. -/
theorem walk {i : Fin d'.size} {l : Fin d.size} {passed : List (Fin d.size)}
    (hw : d.Walk (h.original hk i) passed l) :
    ∃ passed' l', d'.Walk i passed' l' ∧ passed'.map (h.original hk) = passed ∧ h.original hk l' = l := by
  generalize hx : h.original hk i = x at hw
  induction hw generalizing i with
  | refl => exact ⟨[], i, .refl i, rfl, hx⟩
  | step hs hn _ ih =>
    subst hx
    obtain ⟨m', hs', hm⟩ := h.shares hk hd hl hs
    obtain ⟨passed', l', hw', hpassed, hl'⟩ := ih hm
    refine ⟨i :: passed', l', .step hs' (fun hi => hn ?_) hw', by rw [List.map_cons, hpassed], hl'⟩
    exact hpassed ▸ List.mem_map_of_mem hi

/-- Entries that stand for the same are looked up alike. -/
theorem link {m' : Fin d'.size} {m : Fin d.size} {entry' : String × Target d'.size} {entry : String × Target d.size}
    {link : String × Fin d.size} (ht : Twin (h.original hk) target k entry' entry)
    (hlink : d.index.link (m, entry) = .ok link) :
    ∃ link', d'.index.link (m', entry') = .ok link' ∧ (link'.1, h.original hk link'.2) = link := by
  have hd' := h.wellNamed hk hd
  have href : ∀ name path, d.index.link (m, name, .ref path) = .ok link →
      d.Leads path link.2 ∧ name = link.1 := by
    intro name path hlink
    obtain ⟨j, hj, hlink⟩ := bind_eq_ok hlink
    obtain rfl := Except.ok.inj hlink
    exact ⟨(lookup_eq_ok_iff hd).1 hj, rfl⟩
  cases ht with
  | slot name j =>
    obtain rfl := Except.ok.inj hlink
    exact ⟨(name, j), rfl, rfl⟩
  | ref name path =>
    obtain ⟨hj, rfl⟩ := href name path hlink
    obtain ⟨j', hj', hshift⟩ := h.leads hd hl hj
    have hlook : d'.index.lookup path (d'.index.flat m').path = .ok ⟨j', hj'.lt⟩ := (lookup_eq_ok_iff hd').2 hj'
    refine ⟨(link.1, ⟨j', hj'.lt⟩), ?_, Prod.ext rfl (Fin.ext hshift)⟩
    rw [Index.link, hlook]
    rfl
  | copy name hj =>
    rename_i j'
    obtain ⟨hj', rfl⟩ := href name target hlink
    exact ⟨(link.1, j'), rfl, Prod.ext rfl (Fin.ext (hj.trans (hl.unique hd hj')))⟩

omit hd hl in
/-- The entries of definitions, with what they stand for. -/
theorem twin_entriesOf (slots : List (Fin d'.size)) :
    List.Forall₂ (fun x' x => Twin (h.original hk) target k x'.2 x.2) (d'.index.entriesOf slots)
      (d.index.entriesOf (slots.map (h.original hk))) := by
  induction slots with
  | nil => exact .nil
  | cons i slots ih =>
    obtain ⟨p, e', ha⟩ := exists_at i.2
    obtain ⟨q, e, -, -, -, ht⟩ := h.at_original hk ha
    refine List.rel_append ?_ ih
    rw [List.forall₂_map_left_iff, List.forall₂_map_right_iff]
    exact ht

/-- The nested blocks of a definition are those of what it stands for. -/
theorem nestedBlocks {i : Fin d'.size} {blocks : List (String × Fin d.size)}
    (hb : d.index.nestedBlocks (List.finRange d.size) (h.original hk i) = .ok blocks) :
    ∃ blocks', d'.index.nestedBlocks (List.finRange d'.size) i = .ok blocks' ∧
      blocks'.map (fun b => (b.1, h.original hk b.2)) = blocks := by
  have hd' := h.wellNamed hk hd
  obtain ⟨passed, l, source, e, hw, hat, hs, hadd⟩ := exists_walk_of_nestedBlocks hd hb
  obtain ⟨passed', l', hw', rfl, rfl⟩ := h.walk hk hd hl hw
  obtain ⟨p, e', ha⟩ := exists_at l'.2
  obtain ⟨q, e₁, hq, -, hshared, -⟩ := h.at_original hk ha
  obtain ⟨-, rfl⟩ := hat.eq_of_slot hq
  rw [hw'.nestedBlocks_of_not_shared hd' ha (hshared.trans hs)]
  have htwin := h.twin_entriesOf hk (l' :: passed'.reverse)
  rw [List.map_cons, List.map_reverse] at htwin
  obtain ⟨links, hlinks, hadd⟩ := bind_eq_ok hadd
  obtain rfl := Except.ok.inj hadd
  obtain ⟨links', hlinks', rfl⟩ := exists_mapM_of_forall₂ d'.index.link (fun b => (b.1, h.original hk b.2)) htwin
    (fun _ _ _ ht hx => h.link hk hd hl ht hx) hlinks
  refine ⟨assignAll links' [], ?_, map_assignAll _ links' []⟩
  rw [Index.addEntriesOf, hlinks']
  rfl

/-! ### Resolution -/

/-- The second definition resolves as well, and to the same specs but for their paths and slots. -/
theorem resolve {g : Grammar C} (hk₀ : 0 < k) (hg : d.resolve = .ok g) :
    ∃ g' : Grammar C, d'.resolve = .ok g' ∧ ∃ f : Fin g'.size → Fin g.size, f g'.rootSlot = g.rootSlot ∧
      ∀ i, Scan.relabel f (g'.spec i) = Scan.relabel id (g.spec (f i)) := by
  obtain ⟨hstart, hstop, -⟩ := resolve_eq_ok hg
  obtain ⟨specs, rfl, hs⟩ := specs_of_resolve hg
  have hblocks : ∀ i : Fin d'.size, ∃ blocks', d'.index.nestedBlocks (List.finRange d'.size) i = .ok blocks' ∧
      blocks'.map (fun b => (b.1, h.original hk b.2)) = (specs.get (h.original hk i)).blocks := fun i =>
    h.nestedBlocks hk hd hl (hs (h.original hk i)).1
  have hmade := fun (i : Fin d'.size) (blocks' : List (String × Fin d'.size)) =>
    h.exists_made hk hk₀ (hs (h.original hk i)).2 blocks'
  obtain ⟨blocks', hb'⟩ : ∃ blocks', d'.nestedBlocks = .ok blocks' :=
    exists_vector_mapM_eq_ok fun i hi => by
      obtain ⟨b, hb, -⟩ := hblocks ⟨i, hi⟩
      exact ⟨b, by simpa using hb⟩
  have hattributes := h.attributes_eq
  obtain ⟨g', hg'⟩ := exists_resolve (hattributes ▸ hstart) (hattributes ▸ hstop) hb' fun i hi => by
    obtain ⟨s', hs', -⟩ := hmade ⟨i, hi⟩ blocks'[i]
    exact ⟨s', Flat.spec_eq_ok_iff.2 hs'⟩
  refine ⟨g', hg', ?_⟩
  obtain ⟨specs', rfl, hs'⟩ := specs_of_resolve hg'
  refine ⟨h.original hk, Fin.ext (if_pos h.slot_pos), fun i => ?_⟩
  obtain ⟨b, hi, hmap⟩ := hblocks i
  obtain rfl := Except.ok.inj ((hs' i).1.symm.trans hi)
  obtain ⟨s', hmade, hrelabel⟩ := hmade i (specs'.get i).blocks
  show Scan.relabel (h.original hk) (specs'.get i) = Scan.relabel id (specs.get (h.original hk i))
  rw [(hs' i).2.unique hmade]
  exact hrelabel hmap

end

end Inlines

/-- With a copy of what it leads to in place of a reference, a definition still resolves, and texts are scanned alike. -/
theorem scan_of_inlines {g : Grammar C} {k : Nat} {p : String} (hd : d.WellNamed) (hg : d.resolve = .ok g)
    (hl : d.Leads target k) (hk : d.At k p copy) (hk₀ : 0 < k) (h : Inlines target copy slot d d') :
    ∃ g' : Grammar C, d'.resolve = .ok g' ∧
      ∀ o text context, Scan.scan g' o text context = Scan.scan g o text context := by
  obtain ⟨g', hg', f, hroot, hspec⟩ := h.resolve hk hd hl hk₀ hg
  exact ⟨g', hg', Scan.scan_eq_of_relabel f hroot hspec⟩

/-- A block that an entry is nested in. -/
private def parens (e : Entry Unit) : Definition Unit := .mk { start := some "(", stop := some ")" } none [("nest", e)]

/-- A root with a block that may be nested in itself, and the same with one more level. -/
private def nest : Definition Unit := .mk {} none [("nest", .inline (parens (.ref "/blocks/nest")))]

@[inherit_doc nest]
private def nestTwice : Definition Unit :=
  .mk {} none [("nest", .inline (parens (.inline (parens (.ref "/blocks/nest")))))]

/-- With one level more in the definition, three levels of a text are found as before. -/
theorem scan_of_inlines_nest :
    ∃ g g' : Grammar Unit, nest.resolve = .ok g ∧ nestTwice.resolve = .ok g' ∧
      (∀ o text context, Scan.scan g' o text context = Scan.scan g o text context) ∧
      (Scan.scan g' {} "a(b(c(d)e))" ()).result =
        .ok (.group [.text "a", .group [.text "b", .group [.text "c", .text "d", .text "e"]]]) := by
  have hd : nest.WellNamed := of_decide_eq_true (by cbv)
  have hok : nest.resolvesTo (fun g => decide ((Scan.scan g {} "a(b(c(d)e))" ()).result =
      .ok (.group [.text "a", .group [.text "b", .group [.text "c", .text "d", .text "e"]]]))) = true := by
    cbv
  obtain ⟨g, hg, hscanned⟩ := exists_of_resolvesTo hok
  have hk : nest.At 1 "/blocks/nest" (parens (.ref "/blocks/nest")) := rfl
  have h : Inlines "/blocks/nest" (parens (.ref "/blocks/nest")) 2 nest nestTwice :=
    .inside _ _ [] [] _ (.here _ _ [] [] _)
  obtain ⟨g', hg', hscan⟩ := scan_of_inlines hd hg (.here hk) hk (by decide) h
  exact ⟨g, g', hg, hg', hscan, (congrArg Scan.Outcome.result (hscan _ _ _)).trans (of_decide_eq_true hscanned)⟩

end Definition

end Delimited
