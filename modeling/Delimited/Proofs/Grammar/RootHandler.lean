import Delimited.Proofs.Grammar.Edit

/-!
# Another handler for the root

A grammar and a definition with another handler for the root. The handler has no part in resolution: the definition with
another handler resolves to the grammar with this handler (`Definition.resolve_withHandler`).
-/

namespace Delimited

variable {C : Type} {n : Nat}

/-- The spec with another handler, which may be asked for all values. -/
def Spec.withHandler (h : Option (Handler C)) (all : Bool) (s : Spec C n) : Spec C n :=
  { s with handler := h, handleAll := all }

namespace Grammar

variable {h : Option (Handler C)} {all : Bool} {g : Grammar C}

/-- The grammar with another handler for its root. -/
abbrev withRootHandler (h : Option (Handler C)) (all : Bool) (g : Grammar C) : Grammar C :=
  ⟨g.size, g.size_pos, g.specs.set 0 (g.root.withHandler h all) g.size_pos⟩

theorem root_withRootHandler : (g.withRootHandler h all).root = g.root.withHandler h all :=
  Vector.getElem_set_self g.size_pos

theorem spec_withRootHandler {k : Fin g.size} (hk : k ≠ g.rootSlot) : (g.withRootHandler h all).spec k = g.spec k :=
  Vector.getElem_set_ne g.size_pos k.2 fun h0 => hk (Fin.ext h0.symm)

end Grammar

/-! ### Resolution -/

namespace Definition

/-- The definition with another handler for its block. -/
def withHandler (h : Option (Handler C)) (all : Bool) : Definition C → Definition C
  | .mk a shared entries => .mk { a with handler := h, handleAll := all } shared entries

/-- With another handler for its block a definition resolves to the grammar with another handler for its root. -/
theorem resolve_withHandler {d : Definition C} {g : Grammar C} (hg : d.resolve = .ok g) (h : Option (Handler C))
    (all : Bool) : (d.withHandler h all).resolve = .ok (g.withRootHandler h all) := by
  let f (a : Attributes (Handler C)) : Attributes (Handler C) := { a with handler := h, handleAll := all }
  have hd : d.withHandler h all = d.edit f 0 := by
    cases d
    rfl
  rw [hd]
  refine resolve_edit (f := f) (fun _ => rfl) (fun _ => rfl) hg g.rootSlot fun x hx => ?_
  exact { hx with handler := rfl, handleAll := rfl }

end Definition

end Delimited
