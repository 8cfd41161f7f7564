import Delimited.GrammarFile.Block
import Delimited.GrammarFile.Error
import Delimited.Handler.Registry

/-!
# Definitions in grammar files

Turns a block of a file into a definition: handlers are looked up by their names, and the nested blocks are read in
order. The first mistake is reported with the path of its block.
-/

namespace Delimited

variable {C : Type}

/-- The path under which a nested block of a file is reported. -/
def reportedPath (parent name : String) : String :=
  String.ofList (parent.toList.reverse.dropWhile (· = '/')).reverse ++ "/blocks/" ++ name

/-- The attributes of the block at a path, with its handler found by name. -/
def Attributes.findHandler (registry : Registry C) (path : String) (a : Attributes String) :
    Except FileError (Attributes (Handler C)) :=
  match a.handler with
  | none => .ok { a with handler := none }
  | some name =>
    match registry.get? name with
    | some h => .ok { a with handler := some h }
    | none => .error (.unknownHandler path name)

private theorem sizeOf_entries_lt (entries : List (String × Toml.Value)) :
    sizeOf entries < sizeOf (NestedBlocks.own entries) := by
  simp only [NestedBlocks.own.sizeOf_spec]
  omega

private theorem sizeOf_rest_lt (name : String) (v : Toml.Value) (rest : List (String × Toml.Value)) :
    sizeOf rest < sizeOf ((name, v) :: rest) := by
  simp only [List.cons.sizeOf_spec]
  omega

private theorem sizeOf_nested_lt {v : Toml.Value} {b : FileBlock} (h : readItem v = some (.block b)) (name : String)
    (rest : List (String × Toml.Value)) : sizeOf b.nested < sizeOf ((name, v) :: rest) := by
  have := sizeOf_nested_le_of_readItem h
  simp only [List.cons.sizeOf_spec, Prod.mk.sizeOf_spec]
  omega

mutual

/-- The definition of the block at a path. -/
def FileBlock.toDefinition (registry : Registry C) (path : String) : FileBlock → Except FileError (Definition C)
  | ⟨a, .shared target⟩ => (a.findHandler registry path).map fun a => .mk a (some target) []
  | ⟨a, .own entries⟩ =>
    match a.findHandler registry path with
    | .error e => .error e
    | .ok a => (toEntries registry path entries).map fun es => .mk a none es
termination_by b => sizeOf b.nested
decreasing_by exact sizeOf_entries_lt entries

/-- The nested blocks of the block at a path. -/
def toEntries (registry : Registry C) (path : String) :
    List (String × Toml.Value) → Except FileError (List (String × Entry C))
  | [] => .ok []
  | (name, v) :: rest =>
    match _ : readItem v with
    | none => .error (.invalidBlock (reportedPath path name))
    | some (.ref target) => (toEntries registry path rest).map fun es => (name, .ref target) :: es
    | some (.block b) =>
      match b.toDefinition registry (reportedPath path name) with
      | .error e => .error e
      | .ok d => (toEntries registry path rest).map fun es => (name, .inline d) :: es
termination_by entries => sizeOf entries
decreasing_by
  · exact sizeOf_rest_lt name v rest
  · exact sizeOf_nested_lt ‹readItem v = _› name rest
  · exact sizeOf_rest_lt name v rest

end

/-- Nested blocks are read one by one. -/
theorem toEntries_cons (registry : Registry C) (path name : String) (v : Toml.Value) (rest : List (String × Toml.Value)) :
    toEntries registry path ((name, v) :: rest) =
      match readItem v with
      | none => .error (.invalidBlock (reportedPath path name))
      | some (.ref target) => (toEntries registry path rest).map fun es => (name, .ref target) :: es
      | some (.block b) =>
        match b.toDefinition registry (reportedPath path name) with
        | .error e => .error e
        | .ok d => (toEntries registry path rest).map fun es => (name, .inline d) :: es := by
  rw [toEntries]
  split <;> rename_i hv <;> rw [hv]

/-- A nested block is read before those behind it. -/
theorem toEntries_block {registry : Registry C} {path name : String} {v : Toml.Value} {b : FileBlock}
    (hv : readItem v = some (.block b)) (rest : List (String × Toml.Value)) :
    toEntries registry path ((name, v) :: rest) = do
      let d ← b.toDefinition registry (reportedPath path name)
      let es ← toEntries registry path rest
      return (name, .inline d) :: es := by
  rw [toEntries_cons, hv]
  dsimp only
  cases b.toDefinition registry (reportedPath path name) with
  | error e => rfl
  | ok d => cases toEntries registry path rest <;> rfl

/-- Beside a path to share with nothing but the handler is looked for. -/
theorem FileBlock.toDefinition_shared (registry : Registry C) (path : String) (a : Attributes String) (target : String) :
    FileBlock.toDefinition registry path ⟨a, .shared target⟩ = do
      let a ← a.findHandler registry path
      return .mk a (some target) [] := by
  rw [toDefinition]
  cases a.findHandler registry path <;> rfl

/-- The handler is found before the nested blocks are read. -/
theorem FileBlock.toDefinition_own (registry : Registry C) (path : String) (a : Attributes String)
    (entries : List (String × Toml.Value)) :
    FileBlock.toDefinition registry path ⟨a, .own entries⟩ = do
      let a ← a.findHandler registry path
      let es ← toEntries registry path entries
      return .mk a none es := by
  rw [toDefinition]
  cases a.findHandler registry path with
  | error e => rfl
  | ok a => cases toEntries registry path entries <;> rfl

end Delimited
