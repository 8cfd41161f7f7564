import Delimited.Unicode.Recent

/-!
# Case of texts

`upper` and `lower` change the case of a whole text. A character may become several; and the capital sigma has two lower
cases: the final form where a word ends, the plain one elsewhere.
-/

namespace Delimited

/-- The text in upper case. -/
def upper (s : String) : String := String.ofList (s.toList.flatMap Unicode.upperCase)

/-- Whether the first character that does not belong to the inside of a word is a cased one. -/
private def meetsCased (l : List Char) : Bool :=
  match l.dropWhile fun c => Unicode.Recent.caseIgnorable.contains c.toNat with
  | [] => false
  | c :: _ => Unicode.Recent.cased.contains c.toNat

/-- The lower case of a text, whose characters before, last first, are `before`. A sigma is final when a cased character
comes before it and none after it. -/
private def lowerFrom (before : List Char) : List Char → List Char
  | [] => []
  | c :: rest =>
    let low := if c = 'Σ' then [if meetsCased before && !meetsCased rest then 'ς' else 'σ'] else Unicode.lowerCase c
    low ++ lowerFrom (c :: before) rest

/-- The text in lower case. -/
def lower (s : String) : String := String.ofList (lowerFrom [] s.toList)

end Delimited
