import Delimited.Unicode.Recent

/-!
# Quoted texts

The form in which traces and listings show texts and characters: between quotes, on one line, with every character that
cannot be seen written as an escape.
-/

namespace Delimited

open Unicode in
/-- Characters that cannot be shown: controls, format characters, unassigned and private code points, fillers, and all
separators but the space. -/
def hiddenChars : CharSet := .unions
  [Category.control, Category.format, Category.privateUse, Category.surrogate, Recent.unassigned,
   Property.defaultIgnorableCodePoint, Category.separator \ .singleton 0x20]

/-- Lower-case hexadecimal digits of a number, without leading zeros. -/
def hexText (n : Nat) : List Char := Nat.toDigits 16 n

/-- A character inside quotes of the kind `quote`. A mark that is drawn together with the character before it is escaped
as well, since it cannot be shown on its own. -/
def quotedChar (quote c : Char) : List Char :=
  if c = '\x00' then ['\\', '0']
  else if c = '\t' then ['\\', 't']
  else if c = '\r' then ['\\', 'r']
  else if c = '\n' then ['\\', 'n']
  else if c = '\\' then ['\\', '\\']
  else if c = quote then ['\\', quote]
  else if Unicode.Recent.extendingMark.contains c.toNat || hiddenChars.contains c.toNat then
    ['\\', 'u', '\x7b'] ++ hexText c.toNat ++ ['\x7d']
  else [c]

/-- A text between double quotes. -/
def quoted (s : String) : String :=
  String.ofList ('"' :: s.toList.flatMap (quotedChar '"') ++ ['"'])

/-- A character between single quotes. -/
def quotedSingle (c : Char) : String :=
  String.ofList ('\'' :: quotedChar '\'' c ++ ['\''])

/-- Items between square brackets, separated by commas. -/
def bracketed (items : List String) : String := "[" ++ ", ".intercalate items ++ "]"

/-- A value that may be absent, in the notation of listings. -/
def quotedOption (s : Option String) : String :=
  match s with
  | some s => "Some(" ++ s ++ ")"
  | none => "None"

end Delimited
