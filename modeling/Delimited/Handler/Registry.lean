import Delimited.Handler.Builtin

/-!
# Registries

A `Registry` gives names to handlers. Its names are in ascending order, and each is there once.
-/

namespace Delimited

/-- Handlers by name, in the order of the names. -/
structure Registry (C : Type) where
  entries : List (String × Handler C)

namespace Registry

variable {C : Type}

/-- The registry without handlers. -/
def empty : Registry C := ⟨[]⟩

/-- Puts a named handler into its place, where an earlier one of this name gives way. -/
private def insertEntry (name : String) (h : Handler C) : List (String × Handler C) → List (String × Handler C)
  | [] => [(name, h)]
  | (k, v) :: rest =>
    if name < k then (name, h) :: (k, v) :: rest
    else if name = k then (name, h) :: rest
    else (k, v) :: insertEntry name h rest

/-- Gives a name to a handler; an earlier one of this name gives way. -/
def register (name : String) (h : Handler C) (r : Registry C) : Registry C := ⟨insertEntry name h r.entries⟩

/-- The handler with a name. -/
def get? (r : Registry C) (name : String) : Option (Handler C) := r.entries.lookup name

/-- All names, in ascending order. -/
def names (r : Registry C) : List String := r.entries.map (·.1)

/-- The builtin handlers. -/
def builtins : Registry C :=
  (empty.register "first" (.ofFunction Part.firstOrEmpty)
    |>.register "join" (.ofFunction Part.joined)
    |>.register "trim" (.ofFunction Part.trimmed)
    |>.register "upper" (.ofFunction Part.uppered)
    |>.register "lower" (.ofFunction Part.lowered)
    |>.register "flatten" (.ofFunction Part.flattened))

/-! ### Laws -/

private theorem lookup_cons {k x : String} {v : Handler C} {l : List (String × Handler C)} :
    ((x, v) :: l).lookup k = if k = x then some v else l.lookup k := by
  rw [List.lookup_cons]
  by_cases h : k = x
  · rw [if_pos h, beq_iff_eq.2 h]
  · rw [if_neg h, beq_eq_false_iff_ne.2 h]

private theorem lookup_insertEntry (name k : String) (h : Handler C) (l : List (String × Handler C)) :
    (insertEntry name h l).lookup k = if k = name then some h else l.lookup k := by
  induction l with
  | nil => simp [insertEntry, lookup_cons]
  | cons e rest ih =>
    obtain ⟨x, v⟩ := e
    unfold insertEntry
    split
    · exact lookup_cons
    · split
      · rename_i hx
        subst hx
        simp only [lookup_cons]
        split <;> rfl
      · rename_i hx
        simp only [lookup_cons, ih]
        split
        · rename_i hk
          rw [if_neg fun h => hx (h.symm.trans hk)]
        · rfl

/-- A registered handler is found under its name, and the others are found as before. -/
theorem get?_register (r : Registry C) (name k : String) (h : Handler C) :
    (r.register name h).get? k = if k = name then some h else r.get? k := lookup_insertEntry name k h r.entries

end Registry

end Delimited
