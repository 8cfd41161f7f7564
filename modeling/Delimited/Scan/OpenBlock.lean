import Delimited.Grammar.Spec
import Delimited.Scan.Input

/-!
# Open blocks

An `OpenBlock` is a block that has not been closed: the parts that it has so far, and the literal run that is not yet
a part. Of the run only what comes from earlier texts, escapes and strips is kept as text; the rest is known by the
offset where it starts, and `OpenBlock.collect` moves it into the run.
-/

namespace Delimited.Scan

/-- Where a literal run ends. -/
inductive Boundary where
  /-- At a nested block, or at the result of one. -/
  | block
  /-- At a split. -/
  | split
  /-- At the end of the block. -/
  | stop
deriving DecidableEq, Repr

/-- A block that has not been closed. -/
structure OpenBlock (C : Type) (n : Nat) where
  name : String
  spec : Spec C n
  /-- The offset of the start of the block. -/
  openedAt : Nat
  /-- The offset where the part of the run starts that has not been collected. -/
  runStart : Nat
  run : String := ""
  parts : Array Part := #[]
  /-- Whether there is a value since the last split. -/
  hasValue : Bool := false
  /-- Whether there has been a split. -/
  hasSplit : Bool := false

namespace OpenBlock

variable {C : Type} {n : Nat}

/-- The name that the root goes by. -/
def rootName : String := "root"

/-- A root, at the start of a text. -/
def root (spec : Spec C n) : OpenBlock C n := { name := rootName, spec, openedAt := 0, runStart := 0 }

/-- A nested block whose start stands at an offset. -/
def enter (name : String) (spec : Spec C n) (openedAt : Nat) (start : Delimiter) : OpenBlock C n :=
  { name, spec, openedAt, runStart := openedAt + byteLength start.chars,
    parts := if spec.keepDelimiters then #[.text start.text] else #[] }

/-- Moves the text up to the cursor into the run. -/
def collect (c : Cursor) (b : OpenBlock C n) : OpenBlock C n :=
  { b with run := b.run ++ String.ofList (c.since b.runStart), runStart := c.offset }

/-- Adds a text to the run. -/
def addText (s : String) (b : OpenBlock C n) : OpenBlock C n := { b with run := b.run ++ s }

/-- Lets the run go on at an offset. -/
def goOnAt (offset : Nat) (b : OpenBlock C n) : OpenBlock C n := { b with runStart := offset }

/-- Whether an empty run is a whole segment at a boundary: since the last split there is nothing, and at the end of the
block there has been a split. -/
def endsEmptySegment (boundary : Boundary) (b : OpenBlock C n) : Bool :=
  match boundary with
  | .block => false
  | .split => !b.hasValue
  | .stop => !b.hasValue && b.hasSplit

/-- The run as a fragment, and the block without it. An empty run is a fragment only if it is a whole segment and the
block keeps empty ones. -/
def fragment? (boundary : Boundary) (b : OpenBlock C n) : Option (String × OpenBlock C n) :=
  if !b.run.isEmpty || (b.endsEmptySegment boundary && !b.spec.ignoreEmpty) then some (b.run, { b with run := "" })
  else none

/-- Adds a part that belongs to the segment. -/
def addValue (p : Part) (b : OpenBlock C n) : OpenBlock C n := { b with parts := b.parts.push p, hasValue := true }

/-- Adds a part that is no content of the segment: a stored split or a delimiter. -/
def addToken (p : Part) (b : OpenBlock C n) : OpenBlock C n := { b with parts := b.parts.push p }

/-- Ends the segment. -/
def endSegment (b : OpenBlock C n) : OpenBlock C n := { b with hasValue := false, hasSplit := true }

/-- The parts as one part. -/
def result (b : OpenBlock C n) : Part := .assemble b.parts.toList

end OpenBlock

end Delimited.Scan
