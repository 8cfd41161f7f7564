import Delimited.Command.Run

/-!
# The program

Gives the command the files, the standard input and the home of its user, and writes what it reports.
-/

namespace Delimited.Command

/-- The number of an error of the system, which may come with its sign turned, and its text. -/
private def systemError? : IO.Error → Option (Nat × String)
  | .noFileOrDirectory _ code text => some (number code, text)
  | .inappropriateType _ code text => some (number code, text)
  | .permissionDenied _ code text => some (number code, text)
  | .noSuchThing _ code text => some (number code, text)
  | .invalidArgument _ code text => some (number code, text)
  | .illegalOperation code text => some (number code, text)
  | .otherError code text => some (number code, text)
  | _ => none
where
  number (code : UInt32) : Nat := if code.toNat < Nat.pow 2 31 then code.toNat else Nat.pow 2 32 - code.toNat

/-- The text of a failure of the system, with its number. -/
private def systemReason (e : IO.Error) : String :=
  match systemError? e with
  | some (number, text) =>
    let text := match number with
      | 2 => "No such file or directory"
      | 13 => "Permission denied"
      | 20 => "Not a directory"
      | 21 => "Is a directory"
      | _ => text
    text ++ " (os error " ++ toString number ++ ")"
  | none => toString e

/-- What is found by reading bytes. There is nothing if a name on the way is missing or is no directory. -/
private def foundBy (read : IO ByteArray) : IO Found := do
  try return .bytes (← read)
  catch e =>
    match systemError? e with
    | some (2, _) | some (20, _) => return .nothing (systemReason e)
    | _ => return .unreadable (systemReason e)

/-- The system that the program runs on. -/
def systemHost : Host IO where
  home := return (← IO.getEnv "HOME").getD ""
  find path := foundBy (IO.FS.readBinFile path)
  input := foundBy do (← IO.getStdin).readBinToEnd

end Delimited.Command

/-- Runs the command. -/
def main (arguments : List String) : IO UInt32 := do
  let report ← Delimited.Command.run Delimited.Command.systemHost arguments
  IO.print report.output
  for message in report.messages do
    IO.eprintln message
  return report.code.toUInt32
