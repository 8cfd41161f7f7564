import Delimited.GrammarFile.Error
import Delimited.Scan.Basic

/-!
# Failures

How the command reports that it has failed: what it could not do, and the causes of that. Where the last of the
texts would go on with the diagnostic of a reader of files or patterns, the report ends.
-/

namespace Delimited.Command

/-- Why the command has failed. -/
structure Failure where
  text : String
  /-- The causes, from the nearest on. -/
  causes : List String := []
  /-- Whether the last text ends where a diagnostic would begin. -/
  cut : Bool := false
deriving DecidableEq, Repr

namespace Failure

/-- A failure that is the cause of another. -/
def within (text : String) (f : Failure) : Failure := ⟨text, f.text :: f.causes, f.cut⟩

/-- A failure for a reason. -/
def because (text reason : String) : Failure := ⟨text, [reason], false⟩

/-- The failure that comes from a fault of a definition. -/
def ofGrammarError (e : GrammarError) : Failure :=
  match e with
  | .invalidPattern _ _ .malformed => ⟨e.message, [], true⟩
  | .invalidPattern _ _ .tooLarge => ⟨e.message, [Pattern.Fault.text .tooLarge], false⟩
  | _ => ⟨e.message, [], false⟩

/-- The failure that comes from a file that cannot be read. -/
def ofReadError (text : String) (e : Toml.ReadError) : Failure :=
  match e with
  | .malformed => ⟨text, [], true⟩
  | .longKey => ⟨text, [e.text], false⟩

/-- The failure that comes from a fault of a grammar file. -/
def ofFileError (e : FileError) : Failure :=
  match e with
  | .unreadable _ reason => ⟨e.message, [reason], false⟩
  | .malformedFile _ cause => ofReadError e.message cause
  | .malformed cause => ofReadError e.message cause
  | .invalidBlock _ => ⟨e.message, [FileError.blockReason], false⟩
  | .unknownHandler .. => ⟨e.message, [], false⟩
  | .invalidDebugLevel _ => ⟨e.message, [], false⟩
  | .grammar e => ofGrammarError e

/-- The failure that comes from an error of a scan. -/
def ofScanError (e : Scan.Error) : Failure :=
  match e with
  | .handler _ reason => ⟨e.message, [reason], false⟩
  | _ => ⟨e.message, [], false⟩

/-! ### Reports -/

/-- A text whose lines after the first are indented by a margin. -/
def indented (margin text : String) : String := text.replace "\n" ("\n" ++ margin)

/-- A cause in a report; if there are others, with its number. -/
private def causeText (numbered : Bool) (number : Nat) (cause : String) : String :=
  if numbered then
    let digits := toString number
    "".pushn ' ' (5 - digits.length) ++ digits ++ ": " ++ indented "       " cause
  else "    " ++ indented "    " cause

/-- The report of a failure. -/
def report (f : Failure) : String :=
  let numbered := f.causes.length + (if f.cut then 1 else 0) > 1
  let causes := f.causes.mapIdx fun i cause => causeText numbered i cause
  "Error: " ++ f.text ++ if causes.isEmpty then "" else "\n\nCaused by:\n" ++ "\n".intercalate causes

end Failure

end Delimited.Command
