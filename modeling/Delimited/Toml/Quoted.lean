import Delimited.Text.Digits
import Delimited.Text.Tail

/-!
# Strings of configuration files

The four forms of a TOML string. Between double quotes a backslash begins an escape, between single quotes it does not;
three quotes allow line breaks inside.
-/

namespace Delimited.Toml

/-- Control characters that may not stand in a file: all but the tab and those that end lines. -/
def isControl (c : Char) : Bool := (c < ' ' && c ≠ '\t' && c ≠ '\n') || c = '\x7f'

/-- Blanks within a line. -/
def isSpace (c : Char) : Bool := c = ' ' || c = '\t'

/-- Exactly `width` hexadecimal digits of a code point. -/
private def readCode (width : Nat) (s : List Char) : Option (Char × List Char) :=
  let ds := s.take width
  if ds.length = width ∧ ds.all fun c => (hexValue? c).isSome then
    (charOfCode? (numberInBase 16 ds)).map (·, s.drop width)
  else none

/-- An escape, after its backslash. -/
private def readEscape : List Char → Option (Char × List Char)
  | [] => none
  | c :: r =>
    match c with
    | 'b' => some ('\x08', r)
    | 't' => some ('\t', r)
    | 'n' => some ('\n', r)
    | 'f' => some ('\x0c', r)
    | 'r' => some ('\r', r)
    | 'e' => some ('\x1b', r)
    | '"' => some ('"', r)
    | '\\' => some ('\\', r)
    | 'x' => readCode 2 r
    | 'u' => readCode 4 r
    | 'U' => readCode 8 r
    | _ => none

/-- The inside of a string between double quotes, after the first one. -/
private def readBasic : List Char → Option (List Char × List Char)
  | [] => none
  | c :: r =>
    if c = '"' then some ([], r)
    else if c = '\\' then
      match readEscape r with
      | some (x, r') =>
        have := length_tailOf_le r r'
        (readBasic (tailOf r r')).map fun (s, rest) => (x :: s, rest)
      | none => none
    else if isControl c ∨ c = '\n' then none
    else (readBasic r).map fun (s, rest) => (c :: s, rest)
termination_by s => s.length

/-- The inside of a string between single quotes, after the first one. -/
private def readLiteral : List Char → Option (List Char × List Char)
  | [] => none
  | c :: r =>
    if c = '\'' then some ([], r)
    else if isControl c ∨ c = '\n' then none
    else (readLiteral r).map fun (s, rest) => (c :: s, rest)

/-- The end of a string between three quotes, if it is here: two more quotes may belong to the string. -/
private def closing? (quote : Char) (s : List Char) : Option (List Char × List Char) :=
  let run := (s.takeWhile (· = quote)).take 5
  if run.length < 3 then none else some (run.drop 3, s.drop run.length)

/-- What is left after a backslash at the end of a line, if it is one: blanks and line breaks are skipped. -/
private def continuation? (s : List Char) : Option (List Char) :=
  match s.dropWhile isSpace with
  | '\n' :: r => some (skipBreaks r)
  | '\r' :: '\n' :: r => some (skipBreaks r)
  | _ => none
where
  skipBreaks : List Char → List Char
    | '\r' :: '\n' :: r => skipBreaks r
    | c :: r => if isSpace c || c = '\n' then skipBreaks r else c :: r
    | [] => []

/-- The inside of a string between three double quotes. -/
private def readLongBasic : List Char → Option (List Char × List Char)
  | [] => none
  | c :: r =>
    match closing? '"' (c :: r) with
    | some found => some found
    | none =>
      if c = '\\' then
        match continuation? r with
        | some r' =>
          have := length_tailOf_le r r'
          readLongBasic (tailOf r r')
        | none =>
          match readEscape r with
          | some (x, r') =>
            have := length_tailOf_le r r'
            (readLongBasic (tailOf r r')).map fun (s, rest) => (x :: s, rest)
          | none => none
      else if isControl c ∧ ¬ (c = '\r' ∧ r.head? = some '\n') then none
      else (readLongBasic r).map fun (s, rest) => (c :: s, rest)
termination_by s => s.length

/-- The inside of a string between three single quotes. -/
private def readLongLiteral : List Char → Option (List Char × List Char)
  | [] => none
  | c :: r =>
    match closing? '\'' (c :: r) with
    | some found => some found
    | none =>
      if isControl c ∧ ¬ (c = '\r' ∧ r.head? = some '\n') then none
      else (readLongLiteral r).map fun (s, rest) => (c :: s, rest)

/-- The text without a line break at its start. -/
private def dropBreak : List Char → List Char
  | '\n' :: r => r
  | '\r' :: '\n' :: r => r
  | r => r

/-- A string on one line, as keys may be. -/
def readShortString : List Char → Option (String × List Char)
  | '"' :: r => (readBasic r).map fun (s, rest) => (String.ofList s, rest)
  | '\'' :: r => (readLiteral r).map fun (s, rest) => (String.ofList s, rest)
  | _ => none

/-- A string of any form. A line break right after three quotes does not belong to it. -/
def readString : List Char → Option (String × List Char)
  | '"' :: '"' :: '"' :: r => (readLongBasic (dropBreak r)).map fun (s, rest) => (String.ofList s, rest)
  | '\'' :: '\'' :: '\'' :: r => (readLongLiteral (dropBreak r)).map fun (s, rest) => (String.ofList s, rest)
  | s => readShortString s

end Delimited.Toml
