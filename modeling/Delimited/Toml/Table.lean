import Delimited.Named
import Delimited.Toml.Value

/-!
# Tables under construction

A table of a TOML file may be written in several places. While it is read, `Node` remembers how each table came to be,
since that decides what may still be added to it. A value, and so a table between braces, is complete.
-/

namespace Delimited.Toml

/-- How a table came to be. -/
inductive Origin where
  /-- By a header of its own. -/
  | header
  /-- By the header of a table inside it. -/
  | implied
  /-- By a key with dots. -/
  | dotted
deriving DecidableEq, Repr

/-- What a key stands for while the file is read. The elements of an array of tables are held last first. -/
inductive Node where
  | value (v : Value)
  | table (origin : Origin) (entries : List (String × Node))
  | tables (elements : List (List (String × Node)))

instance : Inhabited Node := ⟨.value default⟩

/-! ### The finished value -/

mutual

/-- What the node has become. -/
def Node.toValue : Node → Value
  | .value v => v
  | .table _ entries => .table (entryValues entries)
  | .tables elements => .array (elementValues elements).reverse

/-- What the entries of a table have become. -/
def entryValues : List (String × Node) → List (String × Value)
  | [] => []
  | (key, node) :: rest => (key, node.toValue) :: entryValues rest

/-- What the elements of an array of tables have become. -/
def elementValues : List (List (String × Node)) → List Value
  | [] => []
  | entries :: rest => .table (entryValues entries) :: elementValues rest

end

/-! ### Changes -/

/-- Changes the table to which a path leads, and gives what the change gives. Tables that are missing on the way are
made: as the keys of an entry are `dotted`, or as those of a header. The keys of an entry do not lead into tables
that have headers; a path through an array of tables leads into its last element. -/
def update {α : Type} (dotted : Bool) (f : Origin → List (String × Node) → Option (List (String × Node) × α)) :
    List String → Origin → List (String × Node) → Option (List (String × Node) × α)
  | [], origin, entries => f origin entries
  | key :: path, _, entries =>
    match entries.lookup key with
    | none =>
      let origin := if dotted then .dotted else .implied
      (update dotted f path origin []).map fun (inner, x) => (assign key (.table origin inner) entries, x)
    | some (.table origin inner) =>
      if dotted ∧ origin = .header then none
      else (update dotted f path origin inner).map fun (inner, x) => (assign key (.table origin inner) entries, x)
    | some (.tables (last :: before)) =>
      (update dotted f path .header last).map fun (last, x) => (assign key (.tables (last :: before)) entries, x)
    | some _ => none

/-- Adds an entry to a table. A key with dots may only add to tables that such keys have made, one without dots only to
others, and no key is used twice. -/
def addValue? (path : List String) (key : String) (v : Value) (entries : List (String × Node)) :
    Option (List (String × Node)) :=
  let dotted := !path.isEmpty
  let add := fun origin inner =>
    if (origin = .dotted ↔ dotted) ∧ (inner.lookup key).isNone then some (inner ++ [(key, .value v)], ()) else none
  (update dotted add path .header entries).map (·.1)

/-- Takes the table with a header out of the entries, and gives what it holds already. It must be new, or made by the
headers of tables inside it. -/
def openTable? (path : List String) (key : String) (entries : List (String × Node)) :
    Option (List (String × Node) × List (String × Node)) :=
  let take := fun _ inner =>
    match inner.lookup key with
    | none => some (inner, [])
    | some (.table .implied held) => some (inner.filter (·.1 ≠ key), held)
    | some _ => none
  update false take path .header entries

/-- Puts a table with a header back into the entries. -/
def closeTable? (path : List String) (key : String) (table : List (String × Node)) (entries : List (String × Node)) :
    Option (List (String × Node)) :=
  (update false (fun _ inner => some (assign key (.table .header table) inner, ())) path .header entries).map (·.1)

/-- Adds an element to an array of tables. -/
def addElement? (path : List String) (key : String) (table : List (String × Node)) (entries : List (String × Node)) :
    Option (List (String × Node)) :=
  let add := fun _ inner =>
    match inner.lookup key with
    | none => some (assign key (.tables [table]) inner, ())
    | some (.tables before) => some (assign key (.tables (table :: before)) inner, ())
    | some _ => none
  (update false add path .header entries).map (·.1)

end Delimited.Toml
