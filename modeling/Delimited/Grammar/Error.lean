import Delimited.Pattern

/-!
# Errors in definitions

What can be wrong with a definition, and the text that says so.
-/

namespace Delimited

/-- A fault of a definition. -/
inductive GrammarError where
  | unresolvedReference (path source : String)
  | referenceCycle (path : String)
  | invalidPattern (pattern block : String) (fault : Pattern.Fault)
  | missingStart (block : String)
  | emptyDelimiter (field block : String)
  | rootDelimiter (field : String)
deriving DecidableEq, Repr

/-- The text of a fault. -/
def GrammarError.message : GrammarError → String
  | .unresolvedReference path source => "unresolved block reference `" ++ path ++ "` in " ++ source
  | .referenceCycle path => "block reference `" ++ path ++ "` refers back to itself"
  | .invalidPattern pattern block fault => "invalid pattern `" ++ pattern ++ "` in " ++ block ++ ": " ++ fault.text
  | .missingStart block => "block " ++ block ++ " has no start delimiter"
  | .emptyDelimiter field block => "empty `" ++ field ++ "` in " ++ block
  | .rootDelimiter field => "the root block cannot have a `" ++ field ++ "` delimiter"

end Delimited
