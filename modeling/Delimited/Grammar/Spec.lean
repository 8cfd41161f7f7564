import Delimited.Handler
import Delimited.Rule

/-!
# Grammars

A `Grammar` is a list of block specs, the root first. A spec names the blocks that may be nested in it by their slots in
the list, so a grammar may be recursive. Slots are numbers below the size of the grammar, and delimiters are not empty:
both are part of the types.
-/

namespace Delimited

/-- Which part of a split's match becomes a part of its own. -/
inductive StoreSplit where
  | no
  | whole
  | group (index : Nat)
deriving DecidableEq, Repr, Inhabited

/-- The kept part of a split's match. -/
def StoreSplit.token? (m : RuleMatch) : StoreSplit → Option String
  | .no => none
  | .whole => some (String.ofList m.whole)
  | .group k => some (String.ofList (m.group k))

/-- What is known about a block, in a grammar of `n` blocks: its delimiters and their escaped forms, its split rule and
its strip rules, the blocks nested in it, and what happens when it closes. -/
structure Spec (C : Type) (n : Nat) where
  path : String
  start : Option Delimiter
  stop : Option Delimiter
  escapedStart : Option Delimiter
  escapedStop : Option Delimiter
  keepDelimiters : Bool
  replaceEscapes : Bool
  split : Option Rule
  storeSplit : StoreSplit
  strip : List Rule
  ignoreEmpty : Bool
  blocks : List (String × Fin n)
  handler : Option (Handler C)
  reparse : Bool
  handleAll : Bool

/-- Whether the text that the block's handler gives is scanned again. -/
def Spec.reparses {C : Type} {n : Nat} (s : Spec C n) : Bool := s.reparse && s.handler.isSome

/-- The specs of all blocks, the root first. -/
structure Grammar (C : Type) where
  size : Nat
  size_pos : 0 < size
  specs : Vector (Spec C size) size

namespace Grammar

variable {C : Type}

/-- The spec in a slot. -/
def spec (g : Grammar C) (slot : Fin g.size) : Spec C g.size := g.specs[slot]

/-- The slot of the root. -/
def rootSlot (g : Grammar C) : Fin g.size := ⟨0, g.size_pos⟩

/-- The spec of the root. -/
def root (g : Grammar C) : Spec C g.size := g.spec g.rootSlot

end Grammar

end Delimited
