import Delimited.Toml.Scalar
import Delimited.Toml.Table

/-!
# Values as written

A file is read in two steps. The first one finds its statements: there a value is `Written`, its words are not yet
values, and tables between braces are still lists of entries. The second one, of which `Written.value` is a part, makes
values and tables, and stops at the first fault.
-/

namespace Delimited.Toml

/-- Why a file cannot be read. -/
inductive ReadError where
  /-- Something in it is wrong; what that is, is left to the reader of the file. -/
  | malformed
  /-- A key has too many parts. -/
  | longKey
deriving DecidableEq, Repr

/-- The text of a fault. -/
def ReadError.text : ReadError → String
  | .malformed => ""
  | .longKey => "recursion limit\n"

/-- A value, where its absence means that the file is malformed. -/
def orMalformed {α : Type} : Option α → Except ReadError α
  | some x => .ok x
  | none => .error .malformed

/-! ### Keys -/

/-- How many parts a key may have. -/
def maxKeyParts : Nat := 80

/-- Refuses a key with too many parts, of which all but the last one are its path. -/
def checkKey (path : List String) : Except ReadError Unit :=
  if path.length < maxKeyParts then .ok () else .error .longKey

/-! ### Values -/

/-- A value as written. -/
inductive Written where
  | word (w : List Char)
  | text (s : String)
  | array (items : List Written)
  | table (entries : List (List String × String × Written))

instance : Inhabited Written := ⟨.word []⟩

mutual

/-- The value that is written. -/
def Written.value : Written → Except ReadError Value
  | .word w => orMalformed (wordValue? w)
  | .text s => .ok (.string s)
  | .array items => (writtenItems items).map .array
  | .table entries => (writtenEntries [] entries).map fun table => .table (entryValues table)

/-- The items of an array. -/
def writtenItems : List Written → Except ReadError (List Value)
  | [] => .ok []
  | w :: rest => do
    let v ← w.value
    return v :: (← writtenItems rest)

/-- A table, and the entries that are added to it. -/
def writtenEntries (table : List (String × Node)) :
    List (List String × String × Written) → Except ReadError (List (String × Node))
  | [] => .ok table
  | (path, key, w) :: rest => do
    checkKey path
    let table ← orMalformed (addValue? path key (← w.value) table)
    writtenEntries table rest

end

end Delimited.Toml
