import Delimited.Handler
import Delimited.Text.Blank
import Delimited.Text.Case

/-!
# Builtin handlers

The handlers that every grammar file may name. None of them fails or needs a context.
-/

namespace Delimited.Part

/-- All text of the part, as one part. -/
def joined (p : Part) : Part := .text p.flattenText

/-- All text of the part without blanks at its ends. -/
def trimmed (p : Part) : Part := .text (trim p.flattenText)

/-- All text of the part in upper case. -/
def uppered (p : Part) : Part := .text (upper p.flattenText)

/-- All text of the part in lower case. -/
def lowered (p : Part) : Part := .text (lower p.flattenText)

/-- The leaves of the part, as one group. -/
def flattened (p : Part) : Part := .group p.leaves

/-- The first item, or the empty text. -/
def firstOrEmpty (p : Part) : Part := p.first?.getD (.text "")

end Delimited.Part
