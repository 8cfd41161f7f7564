/-!
# Options and errors of a scan
-/

namespace Delimited.Scan

/-- What happens to blocks that are open when the input ends. -/
inductive Unterminated where
  /-- The scan fails. -/
  | error
  /-- They are closed as if their stops had been found. -/
  | close
deriving DecidableEq, Repr, Inhabited

/-- How a scan is carried out. -/
structure Options where
  /-- How many texts may be suspended at a time. -/
  maxReparseDepth : Nat := 64
  unterminated : Unterminated := .error
deriving DecidableEq, Repr, Inhabited

/-- Why a scan has failed. -/
inductive Error where
  | handler (block text : String)
  | unterminated (block : String) (offset : Nat)
  | reparseLimit (block : String) (limit : Nat)
deriving DecidableEq, Repr

/-- The text of an error. -/
def Error.message : Error → String
  | .handler block text => "handler for block " ++ block ++ " failed: " ++ text
  | .unterminated block offset => "unterminated block " ++ block ++ " opened at offset " ++ toString offset
  | .reparseLimit block limit =>
    "reparse of block " ++ block ++ " exceeded the maximum depth of " ++ toString limit

end Delimited.Scan
