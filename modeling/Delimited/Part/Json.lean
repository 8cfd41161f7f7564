import Delimited.Part

/-!
# Parts as JSON

A text is a JSON string, a group an array. `Part.json` writes a part on one line without blanks, `Part.prettyJson` puts
every member of an array on a line of its own, indented by two blanks for each array around it.
-/

namespace Delimited

/-- The escape of a character inside a JSON string: quotes, backslashes and control characters have one. -/
def jsonChar (c : Char) : List Char :=
  if c = '"' then ['\\', '"']
  else if c = '\\' then ['\\', '\\']
  else if c = '\x08' then ['\\', 'b']
  else if c = '\t' then ['\\', 't']
  else if c = '\n' then ['\\', 'n']
  else if c = '\x0c' then ['\\', 'f']
  else if c = '\r' then ['\\', 'r']
  else if c < ' ' then
    ['\\', 'u', '0', '0', if c.toNat < 16 then '0' else '1', Nat.digitChar (c.toNat % 16)]
  else [c]

/-- A JSON string. -/
def jsonString (s : String) : String :=
  String.ofList ('"' :: s.toList.flatMap jsonChar ++ ['"'])

namespace Part

mutual

/-- The part on one line. -/
def json : Part → String
  | .text s => jsonString s
  | .group ps => "[" ++ ",".intercalate (jsonAll ps) ++ "]"

private def jsonAll : List Part → List String
  | [] => []
  | p :: ps => p.json :: jsonAll ps

end

/-- A line break and the indentation at a depth. -/
private def lineBreak (depth : Nat) : String := "\n" ++ String.ofList (List.replicate (2 * depth) ' ')

mutual

/-- The part over several lines, inside `depth` arrays. -/
private def prettyAt (depth : Nat) : Part → String
  | .text s => jsonString s
  | .group [] => "[]"
  | .group (p :: ps) =>
    "[" ++ lineBreak (depth + 1) ++ (("," ++ lineBreak (depth + 1)).intercalate (prettyAllAt (depth + 1) (p :: ps))) ++
      lineBreak depth ++ "]"

private def prettyAllAt (depth : Nat) : List Part → List String
  | [] => []
  | p :: ps => prettyAt depth p :: prettyAllAt depth ps

end

/-- The part over several lines. -/
def prettyJson (p : Part) : String := prettyAt 0 p

end Part

end Delimited
