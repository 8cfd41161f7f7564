import Mathlib
import Delimited.Handler.Registry

/-!
# Regrouping parts

However parts are grouped, their text stays the same (`Registry.text_of_regrouped`). The leaves of a part are known by the
paths that lead to them: at each group a path says which of its members it goes on to (`Part.at?`). Depth first means that
these paths ascend (`Part.LeavesAt`), which leaves only one order (`Part.HasLeaves.unique`). The builtin handler `flatten`
makes a group of the leaves in this order; so to flatten again changes nothing, and to join before or after is the same.
-/

namespace Delimited

variable {C : Type}

namespace Part

/-! ### Paths into a part -/

/-- What a path leads to. At each group the path goes on to the member with the index. -/
def at? : Part → List Nat → Option Part
  | p, [] => some p
  | .text _, _ :: _ => none
  | .group ps, i :: path => ps[i]?.bind fun p => p.at? path

/-- The texts at the leaves of a part, each of them behind its path, in depth-first order: where two paths part, the one
to the earlier member comes first. -/
structure LeavesAt (p : Part) (leaves : List (List Nat × String)) : Prop where
  ascending : leaves.Pairwise fun x y => x.1 < y.1
  mem_iff : ∀ path s, (path, s) ∈ leaves ↔ p.at? path = some (.text s)

/-- The texts are those at the leaves of the part, in depth-first order. -/
def HasLeaves (p : Part) (texts : List String) : Prop := ∃ leaves, p.LeavesAt leaves ∧ leaves.map Prod.snd = texts

/-- A part has one list of leaves with their places. -/
theorem LeavesAt.unique {p : Part} {xs ys : List (List Nat × String)} (hx : p.LeavesAt xs) (hy : p.LeavesAt ys) :
    xs = ys := by
  have : Std.Irrefl fun x y : List Nat × String => x.1 < y.1 := ⟨fun x => List.lt_irrefl x.1⟩
  have : Std.Antisymm fun x y : List Nat × String => x.1 < y.1 := ⟨fun _ _ h h' => absurd h' (lt_asymm h)⟩
  refine hx.ascending.eq_of_mem_iff hy.ascending ?_
  rintro ⟨path, s⟩
  exact (hx.mem_iff path s).trans (hy.mem_iff path s).symm

/-- A part has its leaves in one order only. -/
theorem HasLeaves.unique {p : Part} {xs ys : List String} (hx : p.HasLeaves xs) (hy : p.HasLeaves ys) : xs = ys := by
  obtain ⟨_, hx, rfl⟩ := hx
  obtain ⟨_, hy, rfl⟩ := hy
  rw [hx.unique hy]

/-! ### The leaves by their paths -/

mutual

/-- The texts at the leaves behind their paths, depth first. -/
def located : Part → List (List Nat × String)
  | .text s => [([], s)]
  | .group ps => locatedAll 0 ps

/-- The texts at the leaves of the members of a group from the one with this index on, behind their paths. -/
def locatedAll (k : Nat) : List Part → List (List Nat × String)
  | [] => []
  | p :: ps => p.located.map (fun x => (k :: x.1, x.2)) ++ locatedAll (k + 1) ps

end

/-- A path to a leaf of a member begins with the index of this member. -/
theorem mem_locatedAll {k : Nat} {ps : List Part} {path : List Nat} {s : String} :
    (path, s) ∈ locatedAll k ps ↔ ∃ i rest p, path = (k + i) :: rest ∧ ps[i]? = some p ∧ (rest, s) ∈ p.located := by
  induction ps generalizing k with
  | nil => simp [locatedAll]
  | cons p ps ih =>
    rw [locatedAll, List.mem_append, List.mem_map, ih]
    constructor
    · rintro (⟨⟨rest, t⟩, hx, h⟩ | ⟨i, rest, q, rfl, hq, hx⟩)
      · cases h
        exact ⟨0, rest, p, rfl, rfl, hx⟩
      · exact ⟨i + 1, rest, q, by rw [Nat.add_right_comm, Nat.add_assoc], hq, hx⟩
    · rintro ⟨_ | i, rest, q, rfl, hq, hx⟩
      · cases hq
        exact .inl ⟨_, hx, rfl⟩
      · exact .inr ⟨i, rest, q, by rw [Nat.add_right_comm, Nat.add_assoc], hq, hx⟩

/-- The paths to leaves are those that lead to texts. -/
theorem mem_located {p : Part} {path : List Nat} {s : String} :
    (path, s) ∈ p.located ↔ p.at? path = some (.text s) := by
  induction path generalizing p with
  | nil =>
    match p with
    | .text t => simp [located, at?, eq_comm]
    | .group ps => simp [located, at?, mem_locatedAll]
  | cons i path ih =>
    match p with
    | .text t => simp [located, at?]
    | .group ps =>
      rw [located, mem_locatedAll, at?, Option.bind_eq_some_iff]
      constructor
      · rintro ⟨j, rest, p, h, hp, hx⟩
        rw [Nat.zero_add] at h
        cases h
        exact ⟨p, hp, ih.1 hx⟩
      · rintro ⟨p, hp, h⟩
        exact ⟨i, path, p, by rw [Nat.zero_add], hp, ih.2 h⟩

mutual

private theorem ascending_located : ∀ p : Part, p.located.Pairwise fun x y => x.1 < y.1
  | .text _ => List.pairwise_singleton _ _
  | .group ps => ascending_locatedAll 0 ps

private theorem ascending_locatedAll (k : Nat) : ∀ ps : List Part, (locatedAll k ps).Pairwise fun x y => x.1 < y.1
  | [] => .nil
  | p :: ps => by
    rw [locatedAll, List.pairwise_append, List.pairwise_map]
    refine ⟨(ascending_located p).imp fun h => List.cons_lt_cons_iff.2 (.inr ⟨rfl, h⟩),
      ascending_locatedAll (k + 1) ps, ?_⟩
    -- a later member has the greater index
    rintro x hx ⟨path, s⟩ hy
    obtain ⟨_, -, rfl⟩ := List.mem_map.1 hx
    obtain ⟨i, rest, -, rfl, -⟩ := mem_locatedAll.1 hy
    exact List.cons_lt_cons_iff.2 (.inl (by omega))

end

private theorem leavesAt_located (p : Part) : p.LeavesAt p.located := ⟨ascending_located p, fun _ _ => mem_located⟩

mutual

/-- Without the paths, the leaves are left in their order. -/
theorem map_text_located : ∀ p : Part, (p.located.map Prod.snd).map text = p.leaves
  | .text _ => rfl
  | .group ps => map_text_locatedAll 0 ps

private theorem map_text_locatedAll (k : Nat) :
    ∀ ps : List Part, ((locatedAll k ps).map Prod.snd).map text = leavesAll ps
  | [] => rfl
  | p :: ps => by
    have hhead : (p.located.map fun x => (k :: x.1, x.2)).map Prod.snd = p.located.map Prod.snd := by simp
    rw [locatedAll, List.map_append, List.map_append, hhead, map_text_located p, map_text_locatedAll (k + 1) ps, leavesAll]

end

/-- Every part has leaves, which may be none. -/
theorem exists_hasLeaves (p : Part) : ∃ texts, p.HasLeaves texts :=
  ⟨p.located.map Prod.snd, p.located, leavesAt_located p, rfl⟩

private theorem HasLeaves.map_text {p : Part} {texts : List String} (h : p.HasLeaves texts) :
    texts.map text = p.leaves := by
  obtain ⟨leaves, hl, rfl⟩ := h
  rw [hl.unique (leavesAt_located p), map_text_located]

example : (group [.text "a", .group [], .group [.group [.text "b"], .text ""]]).located =
    [([0], "a"), ([2, 0, 0], "b"), ([2, 1], "")] := by decide

/-! ### Text and leaves -/

private theorem flattenTextAll_eq_join (ps : List Part) : flattenTextAll ps = String.join (ps.map flattenText) := by
  induction ps with
  | nil => rfl
  | cons p ps ih => rw [flattenTextAll, List.map_cons, String.join_cons, ih]

/-- The items of a part have its text. -/
theorem flattenTextAll_items (p : Part) : flattenTextAll p.items = p.flattenText := by
  match p with
  | .text s => exact flattenTextAll_singleton _
  | .group ps => rfl

mutual

/-- The leaves of a part have its text. -/
theorem flattenTextAll_leaves : ∀ p : Part, flattenTextAll p.leaves = p.flattenText
  | .text _ => flattenTextAll_singleton _
  | .group ps => flattenTextAll_leavesAll ps

private theorem flattenTextAll_leavesAll : ∀ ps : List Part, flattenTextAll (leavesAll ps) = flattenTextAll ps
  | [] => rfl
  | p :: ps => by
    rw [leavesAll, flattenTextAll_append, flattenTextAll_leaves p, flattenTextAll_leavesAll ps, flattenTextAll]

end

/-- Texts are their own leaves. -/
theorem leavesAll_map_text (texts : List String) : leavesAll (texts.map text) = texts.map text := by
  induction texts with
  | nil => rfl
  | cons s texts ih => rw [List.map_cons, leavesAll, leaves, ih, List.singleton_append]

namespace HasLeaves

variable {p : Part} {texts : List String}

private theorem flattened_eq (h : p.HasLeaves texts) : p.flattened = .group (texts.map text) := by
  rw [flattened, h.map_text]

private theorem join_eq (h : p.HasLeaves texts) : String.join texts = p.flattenText := by
  have htexts : (texts.map text).map flattenText = texts := by simp [Function.comp_def, flattenText]
  calc String.join texts
    _ = flattenTextAll (texts.map text) := by rw [flattenTextAll_eq_join, htexts]
    _ = flattenTextAll p.leaves := by rw [h.map_text]
    _ = p.flattenText := flattenTextAll_leaves p

end HasLeaves

end Part

/-! ### The builtin handlers -/

namespace Registry

open Delimited.Part

/-- What the handler with this name makes of a part, and the context afterwards. -/
def answer? (r : Registry C) (name : String) (p : Part) (context : C) : Option (Except String Part × C) :=
  (r.get? name).map fun h => h p context

private theorem answer?_flatten (p : Part) (context : C) :
    builtins.answer? "flatten" p context = some (.ok p.flattened, context) := by
  simp [answer?, builtins, get?_register, Handler.ofFunction]

private theorem answer?_join (p : Part) (context : C) :
    builtins.answer? "join" p context = some (.ok (.text p.flattenText), context) := by
  simp [answer?, builtins, get?_register, Handler.ofFunction, joined]

/-- Regrouping keeps text. The builtin `flatten` makes a group of the texts at the leaves of a part, in depth-first order;
it makes the same of this group again, `join` makes of it what it makes of the part, and the texts are those of the part
one after the other. So are the texts of its items; and parts that are taken together as one, or as a group, have the
texts of them all one after the other. -/
theorem text_of_regrouped (p : Part) (ps : List Part) (context : C) :
    (∃ texts, p.HasLeaves texts ∧
      builtins.answer? "flatten" p context = some (.ok (.group (texts.map text)), context) ∧
      builtins.answer? "flatten" (.group (texts.map text)) context = builtins.answer? "flatten" p context ∧
      String.join texts = p.flattenText ∧
      builtins.answer? "join" p context = some (.ok (.text p.flattenText), context) ∧
      builtins.answer? "join" (.group (texts.map text)) context = builtins.answer? "join" p context) ∧
    String.join (p.items.map flattenText) = p.flattenText ∧
    (assemble ps).flattenText = String.join (ps.map flattenText) ∧
    (group ps).flattenText = String.join (ps.map flattenText) := by
  obtain ⟨texts, ht⟩ := exists_hasLeaves p
  have hflat : p.flattened = .group (texts.map text) := ht.flattened_eq
  have hagain : flattened (.group (texts.map text)) = p.flattened := by
    rw [hflat, flattened, leaves, leavesAll_map_text]
  have htext : (group (texts.map text)).flattenText = p.flattenText := by
    rw [flattenText, ht.map_text, flattenTextAll_leaves]
  refine ⟨⟨texts, ht, ?_, ?_, ht.join_eq, answer?_join p context, ?_⟩, ?_, ?_, ?_⟩
  · rw [answer?_flatten, hflat]
  · rw [answer?_flatten, answer?_flatten, hagain]
  · rw [answer?_join, answer?_join, htext]
  · rw [← flattenTextAll_eq_join, flattenTextAll_items]
  · rw [flattenText_assemble, flattenTextAll_eq_join]
  · rw [flattenText, flattenTextAll_eq_join]

end Registry

end Delimited
