import Delimited.GrammarFile

/-!
# Loading grammar files

What a path leads to is found by the host; `Found` is its answer. The text in a file is encoded in UTF-8.
-/

namespace Delimited

/-- What is found at a path. -/
inductive Found where
  /-- There is nothing, for the given reason. -/
  | nothing (reason : String)
  /-- There is something that cannot be read, for the given reason. -/
  | unreadable (reason : String)
  | bytes (b : ByteArray)

/-- The text in bytes, or the reason why there is none. -/
def textOfBytes (b : ByteArray) : Except String String :=
  match String.fromUTF8? b with
  | some s => .ok s
  | none => .error "stream did not contain valid UTF-8"

/-- The text in what is found, or the reason why there is none. -/
def Found.text : Found → Except String String
  | .nothing reason => .error reason
  | .unreadable reason => .error reason
  | .bytes b => textOfBytes b

namespace GrammarFile

/-- The grammar file at a path, from what is found there. -/
def load (path : String) (found : Found) : Except FileError (Option GrammarFile) :=
  match found with
  | .nothing _ => .ok none
  | _ =>
    match found.text with
    | .error reason => .error (.unreadable path reason)
    | .ok text =>
      match ofText text with
      | .error e => .error (.malformedFile path e)
      | .ok f => f.validate.map some

/-- The path at which the grammar file of a user is sought. -/
def defaultPath (home : String) : String := home ++ "/.config/blockscan/grammar.toml"

end GrammarFile

end Delimited
