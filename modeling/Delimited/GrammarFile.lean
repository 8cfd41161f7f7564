import Delimited.GrammarFile.Definition
import Delimited.Grammar.Resolve
import Delimited.Scan.Basic
import Delimited.Toml.Document

/-!
# Grammar files

A grammar file is a TOML file. Its top table holds the fields of the root block, the options of scans under
`options`, and under `debug` whether scans are traced. Nested blocks stand under `blocks`, in the order in which
they are tried.
-/

namespace Delimited

open Toml (Value)

/-- What a file says about traces: whether there is one, or its level. -/
inductive DebugSetting where
  | flag (b : Bool)
  | level (n : Int)
deriving DecidableEq, Repr

/-- What a file says about scans. -/
structure FileOptions where
  maxReparseDepth : Option Nat := none
  unterminated : Option Scan.Unterminated := none
deriving DecidableEq, Repr, Inhabited

/-- The contents of a grammar file. -/
structure GrammarFile where
  debug : Option DebugSetting
  options : FileOptions
  root : FileBlock

/-- The file in which nothing is written. -/
instance : Inhabited GrammarFile := ⟨none, {}, default⟩

/-! ### Reading -/

private def readDebug : Value → Option DebugSetting
  | .boolean b => some (.flag b)
  | .integer n => if -Int.pow 2 63 ≤ n ∧ n < Int.pow 2 63 then some (.level n) else none
  | _ => none

private def policyNamed? (name : String) : Option Scan.Unterminated :=
  if name = "error" then some .error else if name = "close" then some .close else none

/-- A policy by its name; or a table with the name as its only key, and nothing under it. -/
private def readPolicy : Value → Option Scan.Unterminated
  | .string name => policyNamed? name
  | .table [(name, .array [])] => policyNamed? name
  | .table [(name, .table [])] => policyNamed? name
  | _ => none

private def readDepth (v : Value) : Option Nat := (readNatural v).filter (· < Nat.pow 2 64)

private def readFileOptions : Value → Option FileOptions
  | .table entries => do
    let known := ["max_reparse_depth", "unterminated"]
    if Toml.entriesWithin (-Int.pow 2 127) (Int.pow 2 128) (entries.filter fun e => !known.contains e.1) then
      return {
        maxReparseDepth := ← optionalField readDepth (entries.lookup "max_reparse_depth")
        unterminated := ← optionalField readPolicy (entries.lookup "unterminated") }
    else none
  | .array (depth :: policy :: _) => do
    return { maxReparseDepth := ← (readDepth depth).map some, unterminated := ← (readPolicy policy).map some }
  | .datetime _ => some {}
  | _ => none

namespace GrammarFile

/-- The contents of a file with the given top table. Integers have 64 bits; those of blocks have a sign. -/
def ofTable? (entries : List (String × Value)) : Option GrammarFile := do
  let inRange := entries.all fun (key, v) =>
    key = "options" || v.numbersWithin (-Int.pow 2 63) (if key = "blocks" then Int.pow 2 63 else Int.pow 2 64)
  if inRange then
    let debug ← optionalField readDebug (entries.lookup "debug")
    let options ← fieldOr {} readFileOptions (entries.lookup "options")
    let root ← readBlock false entries
    return ⟨debug, options, root⟩
  else none

/-- The contents of the file that has the given text. -/
def ofText (text : String) : Except Toml.ReadError GrammarFile := do Toml.orMalformed (ofTable? (← Toml.read text))

/-- Checks what can be written but is not allowed: there is only one level of traces. -/
def validate (f : GrammarFile) : Except FileError GrammarFile :=
  match f.debug with
  | some (.level n) => if n = 1 then .ok f else .error (.invalidDebugLevel n)
  | _ => .ok f

/-- The contents of the grammar file that has the given text. -/
def parse (text : String) : Except FileError GrammarFile :=
  match ofText text with
  | .ok f => f.validate
  | .error e => .error (.malformed e)

/-! ### Use -/

/-- The options of scans. -/
def scanOptions (f : GrammarFile) : Scan.Options :=
  let missing : Scan.Options := {}
  { maxReparseDepth := f.options.maxReparseDepth.getD missing.maxReparseDepth
    unterminated := f.options.unterminated.getD missing.unterminated }

/-- The trace that the file asks for, if any, and whether it is to tell of every character. -/
def trace? (f : GrammarFile) : Option Bool :=
  match f.debug with
  | some (.flag true) => some false
  | some (.level _) => some true
  | _ => none

/-- The definition of the grammar, with handlers from a registry. -/
def toDefinition {C : Type} (registry : Registry C) (f : GrammarFile) : Except FileError (Definition C) :=
  f.root.toDefinition registry rootPath

/-- The grammar, with handlers from a registry. -/
def toGrammar {C : Type} (registry : Registry C) (f : GrammarFile) : Except FileError (Grammar C) :=
  match f.toDefinition registry with
  | .error e => .error e
  | .ok d =>
    match d.resolve with
    | .error e => .error (.grammar e)
    | .ok g => .ok g

/-- A file with a definition has the grammar that this resolves to. -/
theorem toGrammar_of_toDefinition {C : Type} {registry : Registry C} {f : GrammarFile} {d : Definition C}
    (hd : f.toDefinition registry = .ok d) : f.toGrammar registry = d.resolve.mapError .grammar := by
  rw [toGrammar, hd]
  dsimp only
  cases d.resolve <;> rfl

/-- A file without a definition has no grammar. -/
theorem toGrammar_of_error {C : Type} {registry : Registry C} {f : GrammarFile} {e : FileError}
    (he : f.toDefinition registry = .error e) : f.toGrammar registry = .error e := by
  rw [toGrammar, he]

end GrammarFile

end Delimited
