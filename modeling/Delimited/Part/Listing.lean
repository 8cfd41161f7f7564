import Delimited.Part
import Delimited.Text.Quoted

/-!
# Parts as listings

The notation that names the two kinds of part: `Text("a")` and `Group([Text("a"), Group([])])`.
-/

namespace Delimited.Part

mutual

/-- The part in the notation of listings. -/
def listing : Part → String
  | .text s => "Text(" ++ quoted s ++ ")"
  | .group ps => "Group(" ++ bracketed (listingAll ps) ++ ")"

private def listingAll : List Part → List String
  | [] => []
  | p :: ps => p.listing :: listingAll ps

end

end Delimited.Part
