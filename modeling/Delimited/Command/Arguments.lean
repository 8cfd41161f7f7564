/-!
# Command lines

How the arguments of the command are read. An option may be written with one dash and a letter, also several in one
argument, or with two dashes and its name. The value of an option follows in the same argument or is the next one;
in the second case it must not look like an option, though a single dash does not. After an argument of two dashes
alone all others are inputs.
-/

namespace Delimited.Command

/-- The options that have a value. -/
inductive Setting where
  | grammar
  | split
deriving DecidableEq, Repr

/-- The options without a value. -/
inductive Switch where
  | pretty
  | trace
deriving DecidableEq, Repr

/-- How the command is to run. -/
structure Arguments where
  grammar : Option String := none
  split : Option String := none
  pretty : Bool := false
  trace : Bool := false
  input : Option String := none
deriving DecidableEq, Repr, Inhabited

/-- What is wrong with a command line. -/
inductive UsageError where
  | unknown (argument : String)
  | missingValue (option : String)
  | unexpectedValue (option value : String)
  | repeated (option : String)
deriving DecidableEq, Repr

/-- Why a command line does not say how to run. -/
inductive Stop where
  /-- It asks for help. -/
  | help
  | invalid (e : UsageError)
deriving DecidableEq, Repr

/-! ### Texts -/

/-- How an option is named in messages. -/
def Setting.label : Setting → String
  | .grammar => "--grammar <GRAMMAR>"
  | .split => "--split <SPLIT>"

/-- How an option is named in messages. -/
def Switch.label : Switch → String
  | .pretty => "--pretty"
  | .trace => "--trace"

/-- How the input is named in messages. -/
def inputLabel : String := "[INPUT]"

/-- How to use the command, in one line. -/
def usage : String := "Usage: blockscan [OPTIONS] [INPUT]"

/-- The text that explains the command. -/
def help : String := "Scan text with a block grammar and print the parts as JSON\n\n" ++ usage ++ "

Arguments:
  [INPUT]  File to scan; reads stdin when omitted

Options:
  -g, --grammar <GRAMMAR>  Grammar file (TOML). Falls back to ~/.config/blockscan/grammar.toml, then an empty grammar
  -s, --split <SPLIT>      Literal split for the root block, overriding the grammar's
  -p, --pretty             Pretty-print the JSON output
  -t, --trace              Log block structure while scanning
  -h, --help               Print help
"

/-- The text of an error. -/
def UsageError.message (e : UsageError) : String :=
  let text := match e with
    | .unknown argument => "unexpected argument '" ++ argument ++ "' found\n\n" ++ usage
    | .missingValue option => "a value is required for '" ++ option ++ "' but none was supplied"
    | .unexpectedValue option value =>
      "unexpected value '" ++ value ++ "' for '" ++ option ++ "' found; no more were expected\n\n" ++ usage
    | .repeated option => "the argument '" ++ option ++ "' cannot be used multiple times\n\n" ++ usage
  "error: " ++ text ++ "\n\nFor more information, try '--help'."

/-! ### Single options -/

namespace Arguments

/-- The value of an option. A path must not be empty, and no option is given twice. -/
def set (a : Arguments) (option : Setting) (value : String) : Except Stop Arguments :=
  match option with
  | .grammar =>
    if value.isEmpty then .error (.invalid (.missingValue option.label))
    else if a.grammar.isSome then .error (.invalid (.repeated option.label))
    else .ok { a with grammar := some value }
  | .split =>
    if a.split.isSome then .error (.invalid (.repeated option.label)) else .ok { a with split := some value }

/-- Turns a switch on, which must be off. -/
def turnOn (a : Arguments) (option : Switch) : Except Stop Arguments :=
  match option with
  | .pretty => if a.pretty then .error (.invalid (.repeated option.label)) else .ok { a with pretty := true }
  | .trace => if a.trace then .error (.invalid (.repeated option.label)) else .ok { a with trace := true }

/-- The input, of which there is only one. -/
def addInput (a : Arguments) (path : String) : Except Stop Arguments :=
  if a.input.isSome then .error (.invalid (.unknown path))
  else if path.isEmpty then .error (.invalid (.missingValue inputLabel))
  else .ok { a with input := some path }

end Arguments

/-! ### Command lines -/

/-- What is read from an argument: the settings so far, and the option whose value is the next argument, if there is
one. -/
abbrev Reading := Except Stop (Arguments × Option Setting)

/-- Options with one dash, after the dash. The rest of the argument is the value of the first option that has one;
it may follow after an equals sign. -/
def readShort (a : Arguments) : List Char → Reading
  | [] => .ok (a, none)
  | c :: rest =>
    let valued := fun option =>
      match rest with
      | [] => .ok (a, some option)
      | '=' :: value => (a.set option (String.ofList value)).map (·, none)
      | value => (a.set option (String.ofList value)).map (·, none)
    match c with
    | 'g' => valued .grammar
    | 's' => valued .split
    | 'p' =>
      match a.turnOn .pretty with
      | .error e => .error e
      | .ok a => readShort a rest
    | 't' =>
      match a.turnOn .trace with
      | .error e => .error e
      | .ok a => readShort a rest
    | 'h' => .error .help
    | c => .error (.invalid (.unknown ("-" ++ String.singleton c)))

/-- An option with two dashes, after the dashes. Its value may follow after an equals sign. -/
def readLong (a : Arguments) (word : List Char) : Reading :=
  let name := word.takeWhile (· ≠ '=')
  let value : Option String :=
    match word.drop name.length with
    | [] => none
    | _ :: value => some (String.ofList value)
  let valued := fun option =>
    match value with
    | none => .ok (a, some option)
    | some value => (a.set option value).map (·, none)
  let plain := fun label (x : Except Stop Arguments) =>
    match value with
    | none => x.map (·, none)
    | some value => .error (.invalid (.unexpectedValue label value))
  match String.ofList name with
  | "grammar" => valued .grammar
  | "split" => valued .split
  | "pretty" => plain Switch.pretty.label (a.turnOn .pretty)
  | "trace" => plain Switch.trace.label (a.turnOn .trace)
  | "help" => plain "--help" (.error .help)
  | name => .error (.invalid (.unknown ("--" ++ name)))

/-- Whether an argument looks like an option. -/
def looksLikeOption (argument : String) : Bool :=
  match argument.toList with
  | '-' :: _ :: _ => true
  | _ => false

/-- An argument that is not two dashes alone. -/
def readArgument (a : Arguments) (argument : String) : Reading :=
  match argument.toList with
  | '-' :: '-' :: word => readLong a word
  | '-' :: c :: word => readShort a (c :: word)
  | _ => (a.addInput argument).map (·, none)

/-- All arguments, with the option whose value comes first. -/
def readArguments : Arguments → Option Setting → List String → Except Stop Arguments
  | a, none, [] => .ok a
  | _, some option, [] => .error (.invalid (.missingValue option.label))
  | a, some option, value :: rest =>
    if looksLikeOption value then .error (.invalid (.missingValue option.label))
    else
      match a.set option value with
      | .error e => .error e
      | .ok a => readArguments a none rest
  | a, none, argument :: rest =>
    if argument = "--" then rest.foldlM Arguments.addInput a
    else
      match readArgument a argument with
      | .error e => .error e
      | .ok (a, waiting) => readArguments a waiting rest

end Delimited.Command
