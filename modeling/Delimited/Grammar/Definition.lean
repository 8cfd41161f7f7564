import Delimited.Grammar.Spec
import Delimited.Named

/-!
# Definitions

A `Definition` is a grammar as it is written: a tree of blocks, in which an entry is either another definition or a
reference to one by its path, and a block may take over the nested blocks of another. Paths name definitions: the
root is `/`, its block `a` is `/blocks/a`, and the block `b` of that is `/blocks/a/blocks/b`.
-/

namespace Delimited

/-- All that is said about a block but for its nested blocks. Its handler may be given in any form. -/
structure Attributes (H : Type) where
  start : Option String := none
  stop : Option String := none
  escapedStart : Option String := none
  escapedStop : Option String := none
  keepDelimiters : Bool := false
  replaceEscapes : Bool := false
  split : Option RuleText := none
  storeSplit : StoreSplit := .no
  strip : List RuleText := []
  ignoreEmpty : Bool := false
  handler : Option H := none
  reparse : Bool := false
  handleAll : Bool := false

mutual

/-- A block with its nested blocks; `shared` is the path of the block whose nested blocks come before its own. -/
inductive Definition (C : Type) where
  | mk (attributes : Attributes (Handler C)) (shared : Option String) (entries : List (String × Entry C))

/-- A nested block: a definition of its own, or a reference to one. -/
inductive Entry (C : Type) where
  | inline (d : Definition C)
  | ref (path : String)

end

instance {C : Type} : Inhabited (Definition C) := ⟨.mk {} none []⟩

instance {C : Type} : Inhabited (Entry C) := ⟨.inline default⟩

namespace Definition

variable {C : Type}

/-- What the definition says about its own block. -/
def attributes : Definition C → Attributes (Handler C)
  | .mk a _ _ => a

/-- The nested blocks, in order. -/
def entries : Definition C → List (String × Entry C)
  | .mk _ _ es => es

end Definition

/-- Adds a nested block; a name used before keeps its place. -/
def Definition.addEntry {C : Type} (name : String) (e : Entry C) : Definition C → Definition C
  | .mk a shared entries => .mk a shared (assign name e entries)

/-! ### Paths -/

/-- The path of the root. -/
def rootPath : String := "/"

/-- The path of a nested block. -/
def childPath (parent name : String) : String :=
  if parent = rootPath then "/blocks/" ++ name else parent ++ "/blocks/" ++ name

/-! ### Size -/

mutual

/-- The number of definitions in the tree. -/
def Definition.size {C : Type} : Definition C → Nat
  | .mk _ _ entries => entriesSize entries + 1

/-- The number of definitions below the entries. -/
def entriesSize {C : Type} : List (String × Entry C) → Nat
  | [] => 0
  | (_, .inline d) :: es => d.size + entriesSize es
  | (_, .ref _) :: es => entriesSize es

end

theorem Definition.size_pos {C : Type} (d : Definition C) : 0 < d.size := by
  cases d; simp [Definition.size]

end Delimited
