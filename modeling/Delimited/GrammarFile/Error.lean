import Delimited.Grammar.Error
import Delimited.Toml.Written

/-!
# Errors in grammar files

What can be wrong with a grammar file, and the text that says so.
-/

namespace Delimited

/-- A fault of a grammar file, or of the grammar in it. -/
inductive FileError where
  /-- The file cannot be read. -/
  | unreadable (path reason : String)
  /-- The file at a path is not a grammar file. -/
  | malformedFile (path : String) (e : Toml.ReadError)
  /-- A text is not that of a grammar file. -/
  | malformed (e : Toml.ReadError)
  | invalidBlock (block : String)
  | unknownHandler (block name : String)
  | invalidDebugLevel (level : Int)
  | grammar (e : GrammarError)
deriving DecidableEq, Repr

namespace FileError

/-- Why a block is invalid. -/
def blockReason : String := "data did not match any variant of untagged enum BlockItem\n"

/-- The text of a fault. -/
def message : FileError → String
  | .unreadable path reason => "Failed to read grammar file at " ++ path ++ ": " ++ reason
  | .malformedFile path e => "Failed to parse grammar file at " ++ path ++ ": " ++ e.text
  | .malformed e => "Failed to parse grammar: " ++ e.text
  | .invalidBlock block => "Invalid block definition at " ++ block ++ ": " ++ blockReason
  | .unknownHandler block name => "Unknown handler `" ++ name ++ "` for block " ++ block
  | .invalidDebugLevel level => "Invalid debug level " ++ toString level ++ ", expected true, false or 1"
  | .grammar e => e.message

end FileError

end Delimited
