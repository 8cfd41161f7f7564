import Delimited.Toml.Quoted
import Delimited.Toml.Written

/-!
# Statements of configuration files

A TOML file is read as a list of statements: entries, headers of tables, and headers of elements of arrays of
tables. A value may be nested to a fixed depth only.
-/

namespace Delimited.Toml

/-- A statement of a file. Each names a key in the table to which its path leads. -/
inductive Statement where
  | entry (path : List String) (key : String) (w : Written)
  | table (path : List String) (key : String)
  | element (path : List String) (key : String)

/-! ### Gaps -/

/-- What is left after a comment; its line break is kept. -/
private def skipComment? : List Char → Option (List Char)
  | [] => some []
  | c :: r =>
    if c = '\n' ∨ (c = '\r' ∧ r.head? = some '\n') then some (c :: r)
    else if isControl c then none
    else skipComment? r

/-- What is left after blanks, line breaks and comments. -/
private def skipGaps? : List Char → Option (List Char)
  | [] => some []
  | c :: r =>
    if isSpace c ∨ c = '\n' ∨ (c = '\r' ∧ r.head? = some '\n') then skipGaps? r
    else if c = '#' then
      match skipComment? r with
      | some r' =>
        have := length_tailOf_le r r'
        skipGaps? (tailOf r r')
      | none => none
    else some (c :: r)
termination_by s => s.length

/-- What is left after the end of a statement's line. -/
private def skipLineEnd? (s : List Char) : Option (List Char) :=
  match s.dropWhile isSpace with
  | [] => some []
  | '\n' :: r => some r
  | '\r' :: '\n' :: r => some r
  | '#' :: r => skipComment? r
  | _ => none

/-! ### Keys -/

/-- Whether a character may stand in a key without quotes. -/
private def isBare (c : Char) : Bool := c.isAlphanum || c = '_' || c = '-'

/-- A key without dots. -/
private def readSimpleKey (s : List Char) : Option (String × List Char) :=
  let bare := s.takeWhile isBare
  if bare.isEmpty then readShortString s else some (String.ofList bare, s.drop bare.length)

/-- A key: the path before its last dot, and what stands after it. Blanks after the key are skipped. -/
private def readKey : List Char → Option ((List String × String) × List Char)
  | [] => none
  | c :: s =>
    match readSimpleKey (c :: s) with
    | none => none
    | some (key, r) =>
      match r.dropWhile isSpace with
      | '.' :: r =>
        have := length_tailOf_le s (r.dropWhile isSpace)
        (readKey (tailOf s (r.dropWhile isSpace))).map fun ((path, last), rest) => ((key :: path, last), rest)
      | r => some (([], key), r)
termination_by s => s.length

/-! ### Values -/

/-- The items of an array, after its bracket. -/
private def readItems (readItem : List Char → Option (Written × List Char)) :
    List Char → Option (List Written × List Char)
  | [] => none
  | c :: s =>
    match skipGaps? (c :: s) with
    | some (']' :: r) => some ([], r)
    | some r =>
      match readItem r with
      | none => none
      | some (w, r) =>
        match skipGaps? r with
        | some (']' :: r) => some ([w], r)
        | some (',' :: r) =>
          have := length_tailOf_le s r
          (readItems readItem (tailOf s r)).map fun (ws, rest) => (w :: ws, rest)
        | _ => none
    | none => none
termination_by s => s.length

/-- The entries of a table between braces, after the first one. -/
private def readEntries (readItem : List Char → Option (Written × List Char)) :
    List Char → Option (List (List String × String × Written) × List Char)
  | [] => none
  | c :: s =>
    match skipGaps? (c :: s) with
    | some ('\x7d' :: r) => some ([], r)
    | some r =>
      match readKey r with
      | none => none
      | some ((path, key), r) =>
        match skipGaps? r with
        | some ('=' :: r) =>
          match (skipGaps? r).bind readItem with
          | none => none
          | some (w, r) =>
            match skipGaps? r with
            | some ('\x7d' :: r) => some ([(path, key, w)], r)
            | some (',' :: r) =>
              have := length_tailOf_le s r
              (readEntries readItem (tailOf s r)).map fun (es, rest) => ((path, key, w) :: es, rest)
            | _ => none
        | _ => none
    | none => none
termination_by s => s.length

/-- A value in which brackets and braces are nested up to a depth. -/
def readValue (depth : Nat) (s : List Char) : Option (Written × List Char) :=
  match s, depth with
  | '[' :: r, d + 1 => (readItems (readValue d) r).map fun (ws, rest) => (.array ws, rest)
  | '\x7b' :: r, d + 1 => (readEntries (readValue d) r).map fun (es, rest) => (.table es, rest)
  | '[' :: _, 0 => none
  | '\x7b' :: _, 0 => none
  | '"' :: r, _ => (readString ('"' :: r)).map fun (text, rest) => (.text text, rest)
  | '\'' :: r, _ => (readString ('\'' :: r)).map fun (text, rest) => (.text text, rest)
  | s, _ =>
    let (word, rest) := readWord s
    some (.word word, rest)

/-- The depth to which values may be nested. -/
def maxNesting : Nat := 80

/-! ### Statements -/

/-- The key of a header, in its brackets. -/
private def readHeader (closing : List Char) (s : List Char) : Option ((List String × String) × List Char) :=
  match readKey (s.dropWhile isSpace) with
  | some (key, r) => if closing.isPrefixOf r then some (key, r.drop closing.length) else none
  | none => none

/-- A statement, without the end of its line. -/
private def readStatement (s : List Char) : Option (Statement × List Char) :=
  match s with
  | '[' :: '[' :: r => (readHeader [']', ']'] r).map fun ((path, key), rest) => (.element path key, rest)
  | '[' :: r => (readHeader [']'] r).map fun ((path, key), rest) => (.table path key, rest)
  | s =>
    match readKey s with
    | some ((path, key), '=' :: r) =>
      (readValue maxNesting (r.dropWhile isSpace)).map fun (w, rest) => (.entry path key w, rest)
    | _ => none

/-- All statements of a text. -/
def readStatements : List Char → Option (List Statement)
  | [] => some []
  | c :: s =>
    match skipGaps? (c :: s) with
    | none => none
    | some [] => some []
    | some r =>
      match readStatement r with
      | none => none
      | some (st, r) =>
        match skipLineEnd? r with
        | none => none
        | some r =>
          have := length_tailOf_le s r
          (readStatements (tailOf s r)).map (st :: ·)
termination_by s => s.length

end Delimited.Toml
