import Delimited.Toml.Reader

/-!
# Configuration files

`read` reads a whole TOML file as a table. The table whose header was met last is kept apart until the next header,
so that it comes after all tables that were complete before it.
-/

namespace Delimited.Toml

/-- The place of a table that is being filled. -/
inductive Place where
  | root
  | table (path : List String) (key : String)
  | element (path : List String) (key : String)

/-- A file that is read in part: the tables that are complete, and the entries of the one that is being filled. -/
structure Draft where
  complete : List (String × Node)
  current : List (String × Node)
  place : Place

/-- The draft of an empty file. -/
def Draft.start : Draft := ⟨[], [], .root⟩

/-- All tables, with the current one in its place. -/
def Draft.finish? (d : Draft) : Option (List (String × Node)) :=
  match d.place with
  | .root => some d.current
  | .table path key => closeTable? path key d.current d.complete
  | .element path key => addElement? path key d.current d.complete

/-- The draft after one more statement. -/
def Draft.extend (d : Draft) : Statement → Except ReadError Draft
  | .entry path key w => do
    checkKey path
    return { d with current := ← orMalformed (addValue? path key (← w.value) d.current) }
  | .table path key => do
    checkKey path
    let (complete, held) ← orMalformed (d.finish?.bind (openTable? path key))
    return ⟨complete, held, .table path key⟩
  | .element path key => do
    checkKey path
    return ⟨← orMalformed d.finish?, [], .element path key⟩

/-- The table that a TOML file writes, if the file is well formed. -/
def read (text : String) : Except ReadError (List (String × Value)) := do
  let chars := text.toList
  let statements ← orMalformed (readStatements (if chars.head? = some '\uFEFF' then chars.tail else chars))
  let draft ← statements.foldlM Draft.extend Draft.start
  return entryValues (← orMalformed draft.finish?)

end Delimited.Toml
