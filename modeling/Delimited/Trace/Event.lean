import Delimited.Text.Quoted

/-!
# Events

What a scan reports while it runs. Offsets count bytes in the text that is being scanned at the time. `render` describes
events, one on a line.
-/

namespace Delimited

/-- Something that a scan has done. -/
inductive Event where
  /-- A character became part of the text of a block. -/
  | char (offset : Nat) (c : Char) (block : String)
  /-- A block was opened. -/
  | enter (offset : Nat) (block start : String)
  /-- A block was closed; without a stop it was closed by the end of the input. -/
  | exit (offset : Nat) (block : String) (stop : Option String)
  /-- An escaped delimiter became text. -/
  | escape (offset : Nat) (block escaped : String)
  /-- A split rule matched. -/
  | split (offset : Nat) (block matched : String)
  /-- A strip rule matched. -/
  | strip (offset : Nat) (block matched : String)
  /-- The text that a block's handler gave is scanned next. -/
  | reparse (block text : String) (depth : Nat)
  /-- The scan went back to a suspended text. -/
  | resume (offset depth : Nat)
deriving DecidableEq, Repr

namespace Event

/-- Whether the event is about a single character. -/
def isChar : Event → Bool
  | .char .. => true
  | _ => false

/-- The event in words. -/
def describe : Event → String
  | .char offset c block => toString offset ++ " char " ++ quotedSingle c ++ " in " ++ block
  | .enter offset block start => toString offset ++ " enter " ++ block ++ " " ++ quoted start
  | .exit offset block (some stop) => toString offset ++ " exit " ++ block ++ " " ++ quoted stop
  | .exit offset block none => toString offset ++ " exit " ++ block ++ " at end of input"
  | .escape offset block escaped => toString offset ++ " escape " ++ quoted escaped ++ " in " ++ block
  | .split offset block matched => toString offset ++ " split " ++ quoted matched ++ " in " ++ block
  | .strip offset block matched => toString offset ++ " strip " ++ quoted matched ++ " in " ++ block
  | .reparse block text depth => "reparse " ++ quoted text ++ " from " ++ block ++ " (depth " ++ toString depth ++ ")"
  | .resume offset depth => "resume at " ++ toString offset ++ " (depth " ++ toString depth ++ ")"

end Event

/-- What a recorder keeps of events: all, or all but those about single characters. -/
def recorded (characters : Bool) (events : List Event) : List Event :=
  events.filter fun e => characters || !e.isChar

/-- The descriptions of events, one on a line. -/
def render (events : List Event) : String := "\n".intercalate (events.map Event.describe)

end Delimited
