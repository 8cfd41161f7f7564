import Delimited.Pattern.Class

/-!
# Patterns with a meaning

A `Node` is a pattern in which every flag has been carried out: what is left are sets of characters, conditions on
places, repetition, parentheses, sequence and choice. `Expr.node?` gives the node of an expression, or nothing where the
expression has no meaning in its alphabet. A flag set inside a group holds to the group's end, also across the bars
of an alternation.
-/

namespace Delimited.Pattern

/-! ### Places -/

/-- A condition on a place in a text. -/
inductive Look where
  | textStart
  | textEnd
  | lineStart (crlf : Bool)
  | lineEnd (crlf : Bool)
  | boundary (unicode : Bool)
  | notBoundary (unicode : Bool)
  | wordStart (unicode : Bool)
  | wordEnd (unicode : Bool)
  | notAfterWord (unicode : Bool)
  | notBeforeWord (unicode : Bool)
deriving DecidableEq, Repr

/-- Whether there is a word character on one side of a place. -/
private def isWord (unicode : Bool) : Option Char → Bool
  | none => false
  | some c => (Shorthand.word.set unicode).contains c.toNat

/-- Whether the condition holds between two characters; at an end of the text there is none. With `crlf` a carriage
return ends a line too, and there is no place inside a pair of carriage return and line feed. -/
def Look.holds (before after : Option Char) : Look → Bool
  | .textStart => before.isNone
  | .textEnd => after.isNone
  | .lineStart false => before.all (· = '\n')
  | .lineStart true => before.all fun c => c = '\n' || c = '\r' && after ≠ some '\n'
  | .lineEnd false => after.all (· = '\n')
  | .lineEnd true => after.all fun c => c = '\r' || c = '\n' && before ≠ some '\r'
  | .boundary u => isWord u before != isWord u after
  | .notBoundary u => isWord u before == isWord u after
  | .wordStart u => !isWord u before && isWord u after
  | .wordEnd u => isWord u before && !isWord u after
  | .notAfterWord u => !isWord u before
  | .notBeforeWord u => !isWord u after

/-! ### Nodes -/

/-- A pattern in which every flag has been carried out. -/
inductive Node where
  | empty
  | set (s : CharSet)
  | look (l : Look)
  | repetition (min : Nat) (max : Option Nat) (greedy : Bool) (body : Node)
  | capture (index : Nat) (body : Node)
  /-- Parentheses that capture nothing. -/
  | group (body : Node)
  | seq (first second : Node)
  | alt (first second : Node)

namespace Node

/-- Whether the node matches nothing but the empty text. -/
def onlyEmpty : Node → Bool
  | .empty => true
  | .set _ => false
  | .look _ => true
  | .repetition _ _ _ e => e.onlyEmpty
  | .capture _ e => e.onlyEmpty
  | .group e => e.onlyEmpty
  | .seq a b => a.onlyEmpty && b.onlyEmpty
  | .alt a b => a.onlyEmpty && b.onlyEmpty

/-- A repetition. One that can only be empty needs no second round, and no rounds at all leave nothing. -/
def repeated (min : Nat) (max : Option Nat) (greedy : Bool) (body : Node) : Node :=
  let (min, max) := if body.onlyEmpty then (Nat.min min 1, some (max.elim 1 (Nat.min · 1))) else (min, max)
  if min = 0 ∧ max = some 0 then .empty
  else if min = 1 ∧ max = some 1 then body
  else .repetition min max greedy body

/-- Whether every match begins at the start of the text. -/
def anchored : Node → Bool
  | .look .textStart => true
  | .repetition min _ _ e => 0 < min && e.anchored
  | .capture _ e => e.anchored
  | .group e => e.anchored
  | .seq a b => a.anchored || a.onlyEmpty && b.anchored
  | .alt a b => a.anchored && b.anchored
  | _ => false

/-- Whether every match ends at the end of the text. -/
def anchoredAtEnd : Node → Bool
  | .look .textEnd => true
  | .repetition min _ _ e => 0 < min && e.anchoredAtEnd
  | .capture _ e => e.anchoredAtEnd
  | .group e => e.anchoredAtEnd
  | .seq a b => b.anchoredAtEnd || b.onlyEmpty && a.anchoredAtEnd
  | .alt a b => a.anchoredAtEnd && b.anchoredAtEnd
  | _ => false

/-- The greatest capture index. -/
def captures : Node → Nat
  | .repetition _ _ _ e => e.captures
  | .capture k e => Nat.max k e.captures
  | .group e => e.captures
  | .seq a b => Nat.max a.captures b.captures
  | .alt a b => Nat.max a.captures b.captures
  | _ => 0

end Node

/-! ### Flags -/

/-- The flags that decide what an expression means. -/
structure Flags where
  caseInsensitive : Bool := false
  multiLine : Bool := false
  dotAll : Bool := false
  swapGreed : Bool := false
  unicode : Bool := true
  crlf : Bool := false

/-- The flags after a change; the verbose flag matters to the reader only. -/
def Flags.set (f : Flags) (c : FlagChange) : Flags :=
  match c.flag with
  | .caseInsensitive => { f with caseInsensitive := c.on }
  | .multiLine => { f with multiLine := c.on }
  | .dotAll => { f with dotAll := c.on }
  | .swapGreed => { f with swapGreed := c.on }
  | .unicode => { f with unicode := c.on }
  | .crlf => { f with crlf := c.on }
  | .verbose => f

/-- The flags after all changes. -/
def Flags.setAll (f : Flags) (cs : List FlagChange) : Flags := cs.foldl Flags.set f

/-- How classes are read under the flags. -/
def Flags.classMode (f : Flags) : ClassMode := ⟨f.unicode, f.caseInsensitive⟩

/-- The set of a literal. Outside the full alphabet only ASCII letters have another case. -/
private def Flags.literal? (f : Flags) (l : Literal) : Option CharSet :=
  (f.classMode.char? l).map fun c => f.classMode.fold (.ofChar c)

/-- The set of the dot, which needs the full alphabet. -/
private def Flags.dot? (f : Flags) : Option CharSet :=
  if !f.unicode then none
  else if f.dotAll then some (CharSet.compl ∅)
  else if f.crlf then some (CharSet.ofList ['\n'.toNat, '\r'.toNat]).compl
  else some (CharSet.ofChar '\n').compl

/-- The condition that an anchor stands for. -/
private def Flags.look (f : Flags) : Anchor → Look
  | .lineStart => if f.multiLine then .lineStart f.crlf else .textStart
  | .lineEnd => if f.multiLine then .lineEnd f.crlf else .textEnd
  | .textStart => .textStart
  | .textEnd => .textEnd
  | .wordBoundary => .boundary f.unicode
  | .notWordBoundary => .notBoundary f.unicode
  | .wordStart => .wordStart f.unicode
  | .wordEnd => .wordEnd f.unicode
  | .wordStartHalf => .notAfterWord f.unicode
  | .wordEndHalf => .notBeforeWord f.unicode

/-- The flags inside a group. -/
private def Flags.inside (f : Flags) : GroupKind → Flags
  | .capture _ => f
  | .plain changes => f.setAll changes

/-- The node of a group around a body. -/
private def groupNode (body : Node) : GroupKind → Node
  | .capture k => .capture k body
  | .plain _ => .group body

mutual

/-- The node of an expression, and the flags that hold after it. -/
def Expr.node? (f : Flags) : Expr → Option (Node × Flags)
  | .empty => some (.empty, f)
  | .flags changes => some (.empty, f.setAll changes)
  | .literal l => (f.literal? l).map fun s => (.set s, f)
  | .dot => f.dot?.map fun s => (.set s, f)
  | .anchor a => some (.look (f.look a), f)
  | .property negated p => (f.classMode.property? negated p).map fun s => (.set s, f)
  | .shorthand negated s => (f.classMode.shorthand? negated s).map fun s => (.set s, f)
  | .bracketed negated set => (f.classMode.bracketed? negated set).map fun s => (.set s, f)
  | .repetition min max greedy e => do
    let (n, f') ← Expr.node? f e
    return (.repeated min max (greedy != f.swapGreed) n, f')
  | .group kind e => do
    let (n, _) ← Expr.node? (f.inside kind) e
    return (groupNode n kind, f)
  | .concat es => Expr.seqNode? f es
  | .alternation es => Expr.altNode? f es

/-- The node of expressions side by side. -/
def Expr.seqNode? (f : Flags) : List Expr → Option (Node × Flags)
  | [] => some (.empty, f)
  | e :: es => do
    let (a, f) ← Expr.node? f e
    let (b, f) ← Expr.seqNode? f es
    return (.seq a b, f)

/-- The node of a choice. -/
def Expr.altNode? (f : Flags) : List Expr → Option (Node × Flags)
  | [] => some (.set ∅, f)
  | [e] => Expr.node? f e
  | e :: es => do
    let (a, f) ← Expr.node? f e
    let (b, f) ← Expr.altNode? f es
    return (.alt a b, f)

end

end Delimited.Pattern
