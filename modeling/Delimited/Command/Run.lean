import Delimited.Command.Arguments
import Delimited.Command.Failure
import Delimited.GrammarFile.Load
import Delimited.Part.Json
import Delimited.Scan.Run
import Delimited.Text.ByteLength
import Delimited.Trace.Log

/-!
# The command

What the command does with its arguments: it loads a grammar file, makes the grammar, reads the input, scans it and
prints the parts as JSON. It works over any host that gives it files, so that a host may also be a value.
-/

namespace Delimited.Command

/-- What the command needs of its surroundings. -/
structure Host (m : Type → Type) where
  /-- The home of the user. -/
  home : m String
  /-- What is at a path. -/
  find : String → m Found
  /-- What is on the standard input. -/
  input : m Found

/-- What the command leaves behind: its exit code, and what it has written. -/
structure Report where
  code : Nat
  output : String := ""
  messages : List String := []
deriving DecidableEq, Repr, Inhabited

/-! ### Parts of a run -/

/-- A line of the log as it is written. -/
def logText (line : LogLine) : String :=
  "[" ++ line.level.name ++ " blockscan] " ++ Failure.indented "    " line.text

/-- The report of a failed run, after what has been logged. -/
def failed (log : List LogLine) (f : Failure) : Report := ⟨1, "", log.map logText ++ [f.report]⟩

/-- A grammar that is ready for scans. -/
structure Plan where
  grammar : Grammar Unit
  options : Scan.Options
  /-- Whether scans are traced, and then whether every character is. -/
  trace : Option Bool

/-- The grammar file, which may be missing if no path to it is given. -/
def chooseFile (given : Option String) (path : String) (found : Found) : Except Failure GrammarFile :=
  match GrammarFile.load path found with
  | .error e => .error (.ofFileError e)
  | .ok (some f) => .ok f
  | .ok none => if given.isSome then .error ⟨"grammar file not found: " ++ path, [], false⟩ else .ok default

/-- What the arguments and the grammar file ask for. -/
def plan (a : Arguments) (f : GrammarFile) : Except Failure Plan :=
  let attributes := f.root.attributes
  let split := (a.split.map RuleText.literal).or attributes.split
  let f := { f with root := { f.root with attributes := { attributes with split := split } } }
  match f.toGrammar Registry.builtins with
  | .error e => .error (.within "invalid grammar" (.ofFileError e))
  | .ok g => .ok ⟨g, f.scanOptions, f.trace?.or (if a.trace then some false else none)⟩

/-- The text of the input. -/
def inputText (path : Option String) (found : Found) : Except Failure String :=
  match found.text with
  | .ok text => .ok text
  | .error reason =>
    .error (.because (match path with
      | some path => "failed to read input " ++ path
      | none => "failed to read stdin") reason)

/-- Scans a text, and reports the parts. -/
def scanText (pretty : Bool) (p : Plan) (text : String) : Report :=
  let out := Scan.scan p.grammar p.options text ()
  let log := match p.trace with
    | none => []
    | some verbose =>
      ⟨.debug, "scanning " ++ toString (byteLength text.toList) ++ " bytes"⟩ :: logged verbose out.events.toList
  match out.result with
  | .ok part => ⟨0, (if pretty then part.prettyJson else part.json) ++ "\n", log.map logText⟩
  | .error e => failed log (.ofScanError e)

/-! ### Runs -/

/-- The part of a run that needs the host, once the arguments are known. -/
def runWith {m : Type → Type} [Monad m] (host : Host m) (a : Arguments) : m Report := do
  let path ← match a.grammar with
    | some path => pure path
    | none => GrammarFile.defaultPath <$> host.home
  match chooseFile a.grammar path (← host.find path) with
  | .error f => return failed [] f
  | .ok file =>
    match plan a file with
    | .error f => return failed [] f
    | .ok p =>
      let found ← match a.input with
        | some path => host.find path
        | none => host.input
      match inputText a.input found with
      | .error f => return failed [] f
      | .ok text => return scanText a.pretty p text

/-- Runs the command with the given arguments. -/
def run {m : Type → Type} [Monad m] (host : Host m) (arguments : List String) : m Report :=
  match readArguments {} none arguments with
  | .ok a => runWith host a
  | .error .help => return ⟨0, help, []⟩
  | .error (.invalid e) => return ⟨2, "", [e.message]⟩

end Delimited.Command
