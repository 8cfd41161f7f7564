import Delimited.Unicode.Property

/-!
# Blanks

A blank is a character with the property White_Space. `trim` removes the blanks at both ends of a text.
-/

namespace Delimited

/-- Whether a character is a blank. -/
def isBlank (c : Char) : Bool := Unicode.Property.whiteSpace.contains c.toNat

/-- The characters without the blanks at both ends. -/
def trimChars (l : List Char) : List Char :=
  ((l.dropWhile isBlank).reverse.dropWhile isBlank).reverse

/-- The text without the blanks at both ends. -/
def trim (s : String) : String := String.ofList (trimChars s.toList)

end Delimited
