import Delimited.Part

/-!
# Handlers

A `Handler` turns the parts of a block into its value when it closes. It may read and change a context of the
caller's choice, and it may fail with a text; what it did to the context before failing stays.
-/

namespace Delimited

/-- A function from a part and a context to a new part, or the text of an error, and the context afterwards. -/
abbrev Handler (C : Type) : Type := Part → C → Except String Part × C

/-- A handler that leaves the context alone and cannot fail. -/
def Handler.ofFunction {C : Type} (f : Part → Part) : Handler C := fun p c => (.ok (f p), c)

end Delimited
