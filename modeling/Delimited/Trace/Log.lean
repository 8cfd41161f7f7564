import Delimited.Trace.Event

/-!
# Logs

The lines that a log gets for the events of a scan. Events about single characters are of a finer level and are logged
only when asked for.
-/

namespace Delimited

/-- The level of a line in a log. -/
inductive LogLevel where
  | debug
  | trace
deriving DecidableEq, Repr

/-- The name of a level. -/
def LogLevel.name : LogLevel → String
  | .debug => "DEBUG"
  | .trace => "TRACE"

/-- A line in a log. -/
structure LogLine where
  level : LogLevel
  text : String
deriving DecidableEq, Repr

namespace Event

/-- The level at which the event is logged. -/
def logLevel (e : Event) : LogLevel := if e.isChar then .trace else .debug

/-- The text that is logged for the event. -/
def logText : Event → String
  | .char offset c block => toString offset ++ ": " ++ quotedSingle c ++ " in " ++ block
  | .enter offset block start => toString offset ++ ": found a start for block " ++ block ++ ": " ++ quoted start
  | .exit offset block (some stop) => toString offset ++ ": found a stop for block " ++ block ++ ": " ++ quoted stop
  | .exit offset block none => toString offset ++ ": closing block " ++ block ++ " at end of input"
  | .escape offset block escaped => toString offset ++ ": escaped " ++ quoted escaped ++ " in block " ++ block
  | .split offset block matched => toString offset ++ ": split " ++ quoted matched ++ " in block " ++ block
  | .strip offset block matched => toString offset ++ ": strip " ++ quoted matched ++ " in block " ++ block
  | .reparse block text depth =>
    "reparsing output of " ++ block ++ " at depth " ++ toString depth ++ ": " ++ quoted text
  | .resume offset depth => "reset string at " ++ toString offset ++ ", depth " ++ toString depth

end Event

/-- The lines that a log gets for events. -/
def logged (verbose : Bool) (events : List Event) : List LogLine :=
  (recorded verbose events).map fun e => ⟨e.logLevel, e.logText⟩

end Delimited
