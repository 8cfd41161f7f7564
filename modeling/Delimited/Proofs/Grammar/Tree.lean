import Delimited.Grammar.Resolve

/-!
# The definitions of a tree

`Definition.preorder` lists the definitions of a tree with their paths, each one before those nested in it. The place in
this list is the slot of a definition (`Definition.At`). Every definition but the root stands among the entries of
another one, which comes before it (`At.cases`); and the slot of an entry's definition is found by counting the
definitions below the entries in front of it (`At.entry`).

When the names of the entries of each definition are distinct, and none of them looks like a way through several blocks
(`Definition.Unambiguous`), a path names at most one definition or one reference (`At.unique`, `Refers.unique`,
`not_at_of_refers`). Names without a `/` are such names (`WellNamed.unambiguous`). Adding entries one after the other keeps
the names distinct (`DistinctNames.addEntry`).
-/

namespace Delimited

variable {C : Type}

/-- The path of the block whose nested blocks come before those of the definition. -/
def Definition.shared : Definition C → Option String
  | .mk _ shared _ => shared

mutual

/-- The definitions of a tree with their paths, each one before those nested in it. -/
def Definition.preorder (path : String) : Definition C → List (String × Definition C)
  | .mk attributes shared entries => (path, .mk attributes shared entries) :: entriesPreorder path entries

/-- The definitions below entries, with their paths. -/
def entriesPreorder (path : String) : List (String × Entry C) → List (String × Definition C)
  | [] => []
  | (name, .inline d) :: es => d.preorder (childPath path name) ++ entriesPreorder path es
  | (_, .ref _) :: es => entriesPreorder path es

end

/-- The definition in a slot of a tree, with its path. Slots count the definitions in the order in which they are met. -/
def Definition.At (d : Definition C) (slot : Nat) (path : String) (e : Definition C) : Prop :=
  (d.preorder rootPath)[slot]? = some (path, e)

/-- A path names an entry of the tree that refers to `target`. -/
def Definition.Refers (d : Definition C) (path target : String) : Prop :=
  ∃ slot parent e name, d.At slot parent e ∧ (name, .ref target) ∈ e.entries ∧ path = childPath parent name

/-- The entries of each definition have names of their own. -/
def Definition.DistinctNames (d : Definition C) : Prop :=
  ∀ b ∈ d.preorder rootPath, (b.2.entries.map Prod.fst).Nodup

/-- The names hold no `/`, and the entries of each definition have names of their own. -/
structure Definition.WellNamed (d : Definition C) : Prop where
  distinct : d.DistinctNames
  plain : ∀ b ∈ d.preorder rootPath, ∀ entry ∈ b.2.entries, '/' ∉ entry.1.toList

/-- Behind the `/` in front of it, the name does not hold the `/blocks/` that stands in front of a name in a path. -/
def UnambiguousName (name : String) : Prop := ¬ "/blocks/".toList <:+: '/' :: name.toList

/-- No name can be taken for a way through several blocks, and the entries of each definition have names of their own. -/
structure Definition.Unambiguous (d : Definition C) : Prop where
  distinct : d.DistinctNames
  names : ∀ b ∈ d.preorder rootPath, ∀ entry ∈ b.2.entries, UnambiguousName entry.1

instance : DecidablePred UnambiguousName :=
  fun _ => @instDecidableNot _ (List.instDecidableIsInfixOfDecidableEq _ _)

instance {d : Definition C} : Decidable d.DistinctNames :=
  inferInstanceAs (Decidable (∀ b ∈ d.preorder rootPath, (b.2.entries.map Prod.fst).Nodup))

instance {d : Definition C} : Decidable d.WellNamed :=
  decidable_of_iff (d.DistinctNames ∧ ∀ b ∈ d.preorder rootPath, ∀ entry ∈ b.2.entries, '/' ∉ entry.1.toList)
    ⟨fun h => ⟨h.1, h.2⟩, fun h => ⟨h.distinct, h.plain⟩⟩

instance {d : Definition C} : Decidable d.Unambiguous :=
  decidable_of_iff (d.DistinctNames ∧ ∀ b ∈ d.preorder rootPath, ∀ entry ∈ b.2.entries, UnambiguousName entry.1)
    ⟨fun h => ⟨h.1, h.2⟩, fun h => ⟨h.distinct, h.names⟩⟩

/-- A name without a `/` holds no `/blocks/` behind the `/` in front of it, since that would be a second `/`. -/
theorem unambiguousName_of_plain {name : String} (h : '/' ∉ name.toList) : UnambiguousName name := by
  intro hi
  have hcount := hi.sublist.count_le '/'
  rw [List.count_cons_self, List.count_eq_zero_of_not_mem h] at hcount
  exact absurd hcount (by decide)

/-- Names without a `/` are unambiguous. -/
theorem Definition.WellNamed.unambiguous {d : Definition C} (hd : d.WellNamed) : d.Unambiguous :=
  ⟨hd.distinct, fun b hb entry he => unambiguousName_of_plain (hd.plain b hb entry he)⟩

/-- Names without a `/` may stand where unambiguous ones are asked for. -/
instance {d : Definition C} : Coe d.WellNamed d.Unambiguous := ⟨Definition.WellNamed.unambiguous⟩

/-! ### Lengths -/

mutual

/-- There is one slot for every definition of the tree. -/
theorem Definition.length_preorder {path : String} : ∀ {d : Definition C}, (d.preorder path).length = d.size
  | .mk _ _ entries => by simp [Definition.preorder, Definition.size, length_entriesPreorder]

theorem length_entriesPreorder {path : String} :
    ∀ {es : List (String × Entry C)}, (entriesPreorder path es).length = entriesSize es
  | [] => by simp [entriesPreorder, entriesSize]
  | (_, .inline d) :: es => by
    simp [entriesPreorder, entriesSize, Definition.length_preorder, length_entriesPreorder]
  | (_, .ref _) :: es => by
    simp only [entriesPreorder, entriesSize]
    exact length_entriesPreorder

end

theorem entriesSize_append (es es' : List (String × Entry C)) :
    entriesSize (es ++ es') = entriesSize es + entriesSize es' := by
  induction es with
  | nil => simp [entriesSize]
  | cons entry es ih =>
    obtain ⟨name, d | target⟩ := entry
    · simp [entriesSize, ih, Nat.add_assoc]
    · simpa [entriesSize] using ih

theorem entriesPreorder_append (path : String) (es es' : List (String × Entry C)) :
    entriesPreorder path (es ++ es') = entriesPreorder path es ++ entriesPreorder path es' := by
  induction es with
  | nil => simp [entriesPreorder]
  | cons entry es ih =>
    obtain ⟨name, d | target⟩ := entry
    · simp [entriesPreorder, ih]
    · simpa [entriesPreorder] using ih

/-! ### Subtrees -/

mutual

/-- The definitions of a subtree stand together. -/
theorem Definition.preorder_segment {path p : String} {e : Definition C} : ∀ {d : Definition C} {i : Nat},
    (d.preorder path)[i]? = some (p, e) → ∃ l l', d.preorder path = l ++ e.preorder p ++ l' ∧ l.length = i
  | .mk attributes shared entries, 0, h => by
    simp only [Definition.preorder, List.getElem?_cons_zero, Option.some.injEq, Prod.mk.injEq] at h
    obtain ⟨rfl, rfl⟩ := h
    exact ⟨[], [], by simp, rfl⟩
  | .mk attributes shared entries, i + 1, h => by
    simp only [Definition.preorder, List.getElem?_cons_succ] at h
    obtain ⟨l, l', hl, hi⟩ := entriesPreorder_segment h
    exact ⟨(path, .mk attributes shared entries) :: l, l', by simp [Definition.preorder, hl], by simp [hi]⟩

private theorem entriesPreorder_segment {path p : String} {e : Definition C} :
    ∀ {es : List (String × Entry C)} {i : Nat}, (entriesPreorder path es)[i]? = some (p, e) →
      ∃ l l', entriesPreorder path es = l ++ e.preorder p ++ l' ∧ l.length = i
  | [], i, h => by simp [entriesPreorder] at h
  | (name, .inline d) :: es, i, h => by
    simp only [entriesPreorder, List.getElem?_append] at h
    split at h
    · obtain ⟨l, l', hl, hi⟩ := Definition.preorder_segment h
      exact ⟨l, l' ++ entriesPreorder path es, by simp [entriesPreorder, hl], hi⟩
    · rename_i hlt
      obtain ⟨l, l', hl, hi⟩ := entriesPreorder_segment h
      exact ⟨d.preorder (childPath path name) ++ l, l', by simp [entriesPreorder, hl],
        by rw [List.length_append]; omega⟩
  | (_, .ref _) :: es, i, h => by
    simp only [entriesPreorder] at h ⊢
    exact entriesPreorder_segment h

end

/-- A subtree ends where the tree does, at the latest. -/
theorem Definition.preorder_extent {path p : String} {d e : Definition C} {i : Nat}
    (h : (d.preorder path)[i]? = some (p, e)) : i + e.size ≤ d.size := by
  obtain ⟨l, l', hl, rfl⟩ := preorder_segment h
  have := congrArg List.length hl
  simp only [List.length_append, length_preorder] at this
  omega

theorem entriesPreorder_extent {path p : String} {es : List (String × Entry C)} {i : Nat} {e : Definition C}
    (h : (entriesPreorder path es)[i]? = some (p, e)) : i + e.size ≤ entriesSize es := by
  obtain ⟨l, l', hl, rfl⟩ := entriesPreorder_segment h
  have := congrArg List.length hl
  simp only [length_entriesPreorder, List.length_append, Definition.length_preorder] at this
  omega

private theorem Definition.preorder_zero (path : String) (d : Definition C) :
    (d.preorder path)[0]? = some (path, d) := by
  cases d
  simp [Definition.preorder]

private theorem Definition.mem_preorder_self (d : Definition C) : (rootPath, d) ∈ d.preorder rootPath :=
  List.mem_of_getElem? (Definition.preorder_zero rootPath d)

/-! ### Adding entries -/

/-- A definition below entries stands below one of them. -/
theorem mem_entriesPreorder {path : String} {b : String × Definition C} {es : List (String × Entry C)} :
    b ∈ entriesPreorder path es ↔ ∃ name d, (name, .inline d) ∈ es ∧ b ∈ d.preorder (childPath path name) := by
  induction es with
  | nil => simp [entriesPreorder]
  | cons entry es ih =>
    obtain ⟨name, d | target⟩ := entry
    · simp only [entriesPreorder, List.mem_append, ih, List.mem_cons, Prod.mk.injEq, Entry.inline.injEq]
      constructor
      · rintro (h | ⟨name', d', hm, h⟩)
        · exact ⟨name, d, Or.inl ⟨rfl, rfl⟩, h⟩
        · exact ⟨name', d', Or.inr hm, h⟩
      · rintro ⟨name', d', ⟨rfl, rfl⟩ | hm, h⟩
        · exact Or.inl h
        · exact Or.inr ⟨name', d', hm, h⟩
    · simp [entriesPreorder, ih]

mutual

/-- Which definitions there are does not hang on the path of the root. -/
theorem Definition.preorder_snd (path path' : String) :
    ∀ d : Definition C, (d.preorder path).map Prod.snd = (d.preorder path').map Prod.snd
  | .mk attributes shared entries => by
    simp [Definition.preorder, entriesPreorder_snd path path' entries]

private theorem entriesPreorder_snd (path path' : String) :
    ∀ es : List (String × Entry C), (entriesPreorder path es).map Prod.snd = (entriesPreorder path' es).map Prod.snd
  | [] => rfl
  | (name, .inline d) :: es => by
    simp [entriesPreorder, Definition.preorder_snd (childPath path name) (childPath path' name) d,
      entriesPreorder_snd path path' es]
  | (_, .ref _) :: es => by
    simp only [entriesPreorder]
    exact entriesPreorder_snd path path' es

end

/-- What holds of the entries of each definition still does when it holds of the new entries. -/
private theorem forall_preorder_addEntry {P : List (String × Entry C) → Prop} {d : Definition C} {name : String}
    {entry : Entry C} (hd : ∀ b ∈ d.preorder rootPath, P b.2.entries)
    (he : ∀ e, entry = .inline e → ∀ b ∈ e.preorder rootPath, P b.2.entries) (h : P (assign name entry d.entries)) :
    ∀ b ∈ (d.addEntry name entry).preorder rootPath, P b.2.entries := by
  obtain ⟨attributes, shared, entries⟩ := d
  intro b hb
  rw [Definition.addEntry, Definition.preorder, List.mem_cons] at hb
  rcases hb with rfl | hb
  · exact h
  · obtain ⟨name', e, hm, hbe⟩ := mem_entriesPreorder.1 hb
    rcases eq_or_mem_of_mem_assign hm with hm | hm
    · obtain ⟨rfl, rfl⟩ := Prod.mk.inj hm
      have hsnd : b.2 ∈ (e.preorder rootPath).map Prod.snd :=
        Definition.preorder_snd (childPath rootPath name') rootPath e ▸ List.mem_map_of_mem hbe
      obtain ⟨b', hb', hsnd⟩ := List.mem_map.1 hsnd
      exact hsnd ▸ he e rfl b' hb'
    · refine hd b ?_
      rw [Definition.preorder, List.mem_cons]
      exact Or.inr (mem_entriesPreorder.2 ⟨name', e, hm, hbe⟩)

/-- A definition that is put together by adding entries has distinct names. -/
theorem Definition.DistinctNames.addEntry {d : Definition C} (hd : d.DistinctNames) {name : String} {entry : Entry C}
    (he : ∀ e, entry = .inline e → e.DistinctNames) : (d.addEntry name entry).DistinctNames :=
  forall_preorder_addEntry (P := fun es => (es.map Prod.fst).Nodup) hd he (nodup_assign (hd _ d.mem_preorder_self))

/-- A definition that is put together by adding entries with plain names is well named. -/
theorem Definition.WellNamed.addEntry {d : Definition C} (hd : d.WellNamed) {name : String} {entry : Entry C}
    (hname : '/' ∉ name.toList) (he : ∀ e, entry = .inline e → e.WellNamed) : (d.addEntry name entry).WellNamed := by
  refine ⟨hd.distinct.addEntry fun e h => (he e h).distinct, ?_⟩
  refine forall_preorder_addEntry (P := fun es => ∀ x ∈ es, '/' ∉ x.1.toList) hd.plain (fun e h => (he e h).plain) ?_
  intro x hx
  rcases eq_or_mem_of_mem_assign hx with rfl | hx
  · exact hname
  · exact hd.plain _ d.mem_preorder_self x hx

/-! ### Places among entries -/

/-- A definition with this place and path in a list stands there among the entries of another one. -/
private def NestedIn (l : List (String × Definition C)) (i : Nat) (p : String) (e : Definition C) : Prop :=
  ∃ j q attributes shared before name after,
    l[j]? = some (q, .mk attributes shared (before ++ (name, .inline e) :: after)) ∧
      i = j + 1 + entriesSize before ∧ p = childPath q name

private theorem NestedIn.append {l : List (String × Definition C)} {i : Nat} {p : String} {e : Definition C}
    (h : NestedIn l i p e) (l₁ l₂ : List (String × Definition C)) : NestedIn (l₁ ++ l ++ l₂) (l₁.length + i) p e := by
  obtain ⟨j, q, a, shared, before, name, after, hj, rfl, rfl⟩ := h
  refine ⟨l₁.length + j, q, a, shared, before, name, after, ?_, by omega, rfl⟩
  obtain ⟨hlt, hj⟩ := List.getElem?_eq_some_iff.1 hj
  rw [List.append_assoc, List.getElem?_append_right (by omega), List.getElem?_append_left (by omega),
    Nat.add_sub_cancel_left, List.getElem?_eq_getElem hlt, hj]

mutual

private theorem Definition.nestedIn_of_getElem? {path p : String} {e : Definition C} :
    ∀ {d : Definition C} {i : Nat}, (d.preorder path)[i]? = some (p, e) →
      (i = 0 ∧ p = path ∧ e = d) ∨ NestedIn (d.preorder path) i p e
  | .mk attributes shared entries, 0, h => by
    simp only [Definition.preorder, List.getElem?_cons_zero, Option.some.injEq, Prod.mk.injEq] at h
    exact Or.inl ⟨rfl, h.1.symm, h.2.symm⟩
  | .mk attributes shared entries, i + 1, h => by
    simp only [Definition.preorder, List.getElem?_cons_succ] at h
    right
    rcases nestedIn_of_getElem?_entries h with ⟨before, name, after, rfl, rfl, rfl⟩ | hn
    · exact ⟨0, path, attributes, shared, before, name, after, by simp [Definition.preorder], by omega, rfl⟩
    · have := hn.append [(path, .mk attributes shared entries)] []
      simpa [Definition.preorder, Nat.add_comm] using this

private theorem nestedIn_of_getElem?_entries {path p : String} {e : Definition C} :
    ∀ {es : List (String × Entry C)} {i : Nat}, (entriesPreorder path es)[i]? = some (p, e) →
      (∃ before name after, es = before ++ (name, .inline e) :: after ∧ i = entriesSize before ∧
        p = childPath path name) ∨ NestedIn (entriesPreorder path es) i p e
  | [], i, h => by simp [entriesPreorder] at h
  | (name, .inline d) :: es, i, h => by
    simp only [entriesPreorder, List.getElem?_append] at h ⊢
    split at h
    · rcases Definition.nestedIn_of_getElem? h with ⟨rfl, rfl, rfl⟩ | hn
      · exact Or.inl ⟨[], name, es, rfl, rfl, rfl⟩
      · exact Or.inr (by simpa using hn.append [] (entriesPreorder path es))
    · rename_i hlt
      rw [Definition.length_preorder] at h hlt
      rcases nestedIn_of_getElem?_entries h with ⟨before, name', after, rfl, hi, rfl⟩ | hn
      · exact Or.inl ⟨(name, .inline d) :: before, name', after, rfl, by simp only [entriesSize]; omega, rfl⟩
      · have := hn.append (d.preorder (childPath path name)) []
        rw [Definition.length_preorder, Nat.add_sub_cancel' (by omega)] at this
        exact Or.inr (by simpa using this)
  | (name, .ref target) :: es, i, h => by
    simp only [entriesPreorder] at h ⊢
    rcases nestedIn_of_getElem?_entries h with ⟨before, name', after, rfl, rfl, rfl⟩ | hn
    · exact Or.inl ⟨(name, .ref target) :: before, name', after, rfl, by simp [entriesSize], rfl⟩
    · exact Or.inr hn

end

namespace Definition

variable {d e : Definition C} {k : Nat} {p : String}

/-- The root has the first slot. -/
theorem at_zero (d : Definition C) : d.At 0 rootPath d := preorder_zero rootPath d

theorem At.lt (h : d.At k p e) : k < d.size := by
  obtain ⟨hlt, -⟩ := List.getElem?_eq_some_iff.1 h
  rwa [length_preorder] at hlt

/-- There is a definition in every slot. -/
theorem exists_at (h : k < d.size) : ∃ p e, d.At k p e := by
  have hlen : (d.preorder rootPath).length = d.size := length_preorder
  rw [← hlen] at h
  exact ⟨_, _, List.getElem?_eq_getElem h⟩

theorem At.mem (h : d.At k p e) : (p, e) ∈ d.preorder rootPath := List.mem_of_getElem? h

theorem exists_at_of_mem (h : (p, e) ∈ d.preorder rootPath) : ∃ k, d.At k p e := List.mem_iff_getElem?.1 h

theorem At.eq_of_slot {p' : String} {e' : Definition C} (h : d.At k p e) (h' : d.At k p' e') : p = p' ∧ e = e' := by
  have := h.symm.trans h'
  simpa using this

/-- A definition is the root, or it stands among the entries of another one. -/
theorem At.cases (h : d.At k p e) :
    (k = 0 ∧ p = rootPath ∧ e = d) ∨
      ∃ j q attributes shared before name after,
        d.At j q (.mk attributes shared (before ++ (name, .inline e) :: after)) ∧
          k = j + 1 + entriesSize before ∧ p = childPath q name := nestedIn_of_getElem? h

/-- The definition of an entry has its slot behind those of the definitions below the entries in front of it. -/
theorem At.entry {attributes : Attributes (Handler C)} {shared : Option String} {before after : List (String × Entry C)}
    {name : String} (h : d.At k p (.mk attributes shared (before ++ (name, .inline e) :: after))) :
    d.At (k + 1 + entriesSize before) (childPath p name) e := by
  obtain ⟨l, l', hl, rfl⟩ := preorder_segment h
  unfold At
  rw [hl, preorder, entriesPreorder_append, entriesPreorder]
  have hlen : (entriesPreorder p before).length = entriesSize before := length_entriesPreorder
  simp only [List.cons_append, List.append_assoc]
  rw [List.getElem?_append_right (by omega)]
  rw [show l.length + 1 + entriesSize before - l.length = entriesSize before + 1 by omega, List.getElem?_cons_succ,
    List.getElem?_append_right (by omega), hlen, Nat.sub_self,
    List.getElem?_append_left (by rw [length_preorder]; exact e.size_pos)]
  exact preorder_zero _ e

end Definition

/-! ### Paths -/

/-- What stands in front of `/blocks/` in the paths of the entries below a path. -/
private def stem (p : String) : List Char := if p = rootPath then [] else p.toList

private theorem toList_childPath (p name : String) :
    (childPath p name).toList = (stem p ++ "/blocks".toList) ++ '/' :: name.toList := by
  unfold childPath stem
  split <;> simp

theorem childPath_ne_rootPath (p name : String) : childPath p name ≠ rootPath := by
  intro h
  have := congrArg (fun s => s.toList.length) h
  simp only [toList_childPath, rootPath] at this
  simp at this
  omega

theorem childPath_ne_empty (p name : String) : childPath p name ≠ "" := by
  intro h
  have := congrArg String.toList h
  rw [toList_childPath] at this
  simp at this

/-- A text is cut at its last `/` in one way only. -/
private theorem cut_unique {l l' n n' : List Char} (h : l ++ '/' :: n = l' ++ '/' :: n') (hn : '/' ∉ n)
    (hn' : '/' ∉ n') : l = l' ∧ n = n' := by
  rcases List.append_eq_append_iff.1 h with ⟨m, hm, hr⟩ | ⟨m, hm, hr⟩
  · cases m with
    | nil => exact ⟨by simpa using hm.symm, by simpa using hr⟩
    | cons c m =>
      simp only [List.cons_append, List.cons.injEq] at hr
      exact absurd (by rw [hr.2]; simp) hn
  · cases m with
    | nil => exact ⟨by simpa using hm, by simpa using hr.symm⟩
    | cons c m =>
      simp only [List.cons_append, List.cons.injEq] at hr
      exact absurd (by rw [hr.2]; simp) hn'

/-- A `/blocks/` that starts further behind lies in what stands behind the first one: two of them share one `/` at most. -/
private theorem infix_of_later {t n n' : List Char}
    (h : "/blocks".toList ++ '/' :: n = t ++ ("/blocks".toList ++ '/' :: n'))
    (ht : t ≠ []) : "/blocks/".toList <:+: '/' :: n := by
  rcases List.append_eq_append_iff.1 h with ⟨s, rfl, hs⟩ | ⟨s, hm, hs⟩
  · exact ⟨s, n', by rw [hs]; simp⟩
  · cases t with
    | nil => exact absurd rfl ht
    | cons c t =>
      cases s with
      | nil => exact ⟨[], n', by simpa using hs⟩
      | cons c' s =>
        -- the later one would start within `blocks`
        have hs : '/' :: ("blocks".toList ++ '/' :: n') = c' :: (s ++ '/' :: n) := hs
        obtain rfl := (List.cons.inj hs).1
        have hb : "blocks".toList = t ++ '/' :: s := (List.cons.inj hm).2
        have hmem : '/' ∈ "blocks".toList := by rw [hb]; simp
        exact absurd hmem (by decide)

/-- A text is cut at its last `/blocks/` in one way only. -/
private theorem cut_blocks_unique {l l' n n' : List Char}
    (h : l ++ ("/blocks".toList ++ '/' :: n) = l' ++ ("/blocks".toList ++ '/' :: n'))
    (hn : ¬ "/blocks/".toList <:+: '/' :: n) (hn' : ¬ "/blocks/".toList <:+: '/' :: n') : l = l' ∧ n = n' := by
  rcases List.append_eq_append_iff.1 h with ⟨t, rfl, ht⟩ | ⟨t, rfl, ht⟩
  · by_cases hnil : t = []
    · subst hnil
      simpa using ht
    · exact absurd (infix_of_later ht hnil) hn
  · by_cases hnil : t = []
    · subst hnil
      simpa using ht.symm
    · exact absurd (infix_of_later ht hnil) hn'

/-- The path of an entry tells the path that it is below, and the name of the entry. -/
theorem childPath_injective {p p' name name' : String} (h : childPath p name = childPath p' name') (hp : p ≠ "")
    (hp' : p' ≠ "") (hn : UnambiguousName name) (hn' : UnambiguousName name') : p = p' ∧ name = name' := by
  have h := congrArg String.toList h
  rw [toList_childPath, toList_childPath, List.append_assoc, List.append_assoc] at h
  obtain ⟨hstem, hname⟩ := cut_blocks_unique h hn hn'
  refine ⟨?_, String.toList_inj.1 hname⟩
  unfold stem at hstem
  split at hstem <;> split at hstem
  · exact ‹p = rootPath›.trans ‹p' = rootPath›.symm
  · exact absurd (String.toList_eq_nil_iff.1 hstem.symm) hp'
  · exact absurd (String.toList_eq_nil_iff.1 hstem) hp
  · exact String.toList_inj.1 hstem

/-- The path of an entry ends in `/blocks` only if this is the name of the entry. -/
theorem name_eq_of_blocks_suffix {p name : String} (h : "/blocks".toList <:+ (childPath p name).toList)
    (hn : '/' ∉ name.toList) : name = "blocks" := by
  obtain ⟨l, hl⟩ := h
  have hcut : l ++ '/' :: "blocks".toList = (stem p ++ "/blocks".toList) ++ '/' :: name.toList :=
    hl.trans (toList_childPath p name)
  exact String.toList_inj.1 (cut_unique hcut (by decide) hn).2.symm

/-- Where names are distinct, an entry is told by its name. -/
private theorem split_unique {before before' after after' : List (String × Entry C)} {name : String} {x y : Entry C}
    (h : before ++ (name, x) :: after = before' ++ (name, y) :: after')
    (hn : ((before ++ (name, x) :: after).map Prod.fst).Nodup) : before = before' ∧ x = y := by
  induction before generalizing before' with
  | nil =>
    cases before' with
    | nil =>
      simp only [List.nil_append, List.cons.injEq, Prod.mk.injEq] at h
      exact ⟨rfl, h.1.2⟩
    | cons b before' =>
      simp only [List.nil_append, List.cons_append, List.cons.injEq] at h
      obtain ⟨rfl, rfl⟩ := h
      simp at hn
  | cons b before ih =>
    cases before' with
    | nil =>
      simp only [List.nil_append, List.cons_append, List.cons.injEq] at h
      obtain ⟨rfl, rfl⟩ := h
      simp at hn
    | cons b' before' =>
      simp only [List.cons_append, List.cons.injEq] at h
      obtain ⟨rfl, h⟩ := h
      rw [List.cons_append, List.map_cons, List.nodup_cons] at hn
      obtain ⟨rfl, rfl⟩ := ih h hn.2
      exact ⟨rfl, rfl⟩

namespace Definition

variable {d e e' : Definition C} {k k' : Nat} {p t t' : String}

private theorem At.path_ne_empty (h : d.At k p e) : p ≠ "" := by
  rcases h.cases with ⟨-, rfl, -⟩ | ⟨_, q, _, _, _, name, _, -, -, rfl⟩
  · decide
  · exact childPath_ne_empty q name

/-- Only the root has the path of the root. -/
theorem At.path_eq_rootPath_iff (h : d.At k p e) : p = rootPath ↔ k = 0 := by
  rcases h.cases with ⟨rfl, rfl, -⟩ | ⟨j, q, _, _, before, name, _, -, rfl, rfl⟩
  · simp
  · simp only [childPath_ne_rootPath, false_iff]
    omega

/-- In the path of an entry there are two `/` for each name. -/
theorem At.count_childPath (hd : d.WellNamed) {name : String} (h : d.At k p e) (hn : '/' ∉ name.toList) :
    (childPath p name).toList.count '/' % 2 = 0 := by
  induction k using Nat.strongRecOn generalizing p e name with
  | _ k ih =>
  have hstem : (stem p).count '/' % 2 = 0 := by
    rcases h.cases with ⟨-, rfl, -⟩ | ⟨j, q, a, shared, before, name', after, hj, rfl, rfl⟩
    · simp [stem]
    · rw [stem, if_neg (childPath_ne_rootPath q name')]
      exact ih j (by omega) hj (hd.plain _ hj.mem (name', .inline e) (by simp [entries]))
  have hblocks : ("/blocks".toList).count '/' = 1 := by decide
  rw [toList_childPath, List.count_append, List.count_append, List.count_cons_self, List.count_eq_zero_of_not_mem hn]
  omega

section

variable (hd : d.Unambiguous)

include hd

/-- Entries of the same path are entries of the same definition, and the same there. -/
private theorem entry_unique (ih : ∀ {q e₁ e₂ j j'}, d.At j q e₁ → d.At j' q e₂ → j < k → j = j')
    {q q' name name' : String} {e₁ e₂ : Definition C} {j j' : Nat} {before after before' after' : List (String × Entry C)}
    {x y : Entry C} (h : d.At j q e₁) (h' : d.At j' q' e₂) (hj : j < k)
    (hx : e₁.entries = before ++ (name, x) :: after) (hy : e₂.entries = before' ++ (name', y) :: after')
    (hp : childPath q name = childPath q' name') : j = j' ∧ before = before' ∧ x = y := by
  have hname : UnambiguousName name := hd.names _ h.mem (name, x) (by rw [hx]; simp)
  have hname' : UnambiguousName name' := hd.names _ h'.mem (name', y) (by rw [hy]; simp)
  obtain ⟨rfl, rfl⟩ := childPath_injective hp h.path_ne_empty h'.path_ne_empty hname hname'
  obtain rfl := ih h h' hj
  obtain ⟨-, rfl⟩ := h.eq_of_slot h'
  have hn := hd.distinct _ h.mem
  rw [hx] at hn
  exact ⟨rfl, split_unique (hx.symm.trans hy) hn⟩

/-- A path names at most one definition. -/
theorem At.unique (h : d.At k p e) (h' : d.At k' p e') : k = k' := by
  induction k using Nat.strongRecOn generalizing p e k' e' with
  | _ k ih =>
  rcases h.cases with ⟨rfl, rfl, -⟩ | ⟨j, q, a, shared, before, name, after, hj, rfl, rfl⟩
  · exact (h'.path_eq_rootPath_iff.1 rfl).symm
  · rcases h'.cases with ⟨-, hroot, -⟩ | ⟨j', q', a', shared', before', name', after', hj', rfl, hp⟩
    · exact absurd hroot (childPath_ne_rootPath q name)
    · obtain ⟨rfl, rfl, -⟩ := entry_unique hd (fun h h' hlt => ih _ hlt h h') hj hj' (by omega) rfl rfl hp
      rfl

/-- A path that names a reference names no definition. -/
theorem not_at_of_refers (h : d.Refers p t) : ¬ d.At k p e := by
  intro ha
  obtain ⟨j, q, e₁, name, hj, hm, rfl⟩ := h
  rcases ha.cases with ⟨-, hroot, -⟩ | ⟨j', q', a', shared', before', name', after', hj', -, hp⟩
  · exact childPath_ne_rootPath q name hroot
  · obtain ⟨before, after, hx⟩ := List.append_of_mem hm
    obtain ⟨-, -, hxy⟩ := entry_unique hd (k := j + 1) (fun h h' _ => h.unique hd h') hj hj' (by omega) hx rfl hp
    cases hxy

/-- A path names at most one reference. -/
theorem Refers.unique (h : d.Refers p t) (h' : d.Refers p t') : t = t' := by
  obtain ⟨j, q, e₁, name, hj, hm, rfl⟩ := h
  obtain ⟨j', q', e₂, name', hj', hm', hp⟩ := h'
  obtain ⟨before, after, hx⟩ := List.append_of_mem hm
  obtain ⟨before', after', hx'⟩ := List.append_of_mem hm'
  obtain ⟨-, -, hxy⟩ := entry_unique hd (k := j + 1) (fun h h' _ => h.unique hd h') hj hj' (by omega) hx hx' hp
  cases hxy
  rfl

end

end Definition

end Delimited
