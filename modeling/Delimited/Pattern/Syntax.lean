/-!
# Regular expressions as written

The syntax tree of a regular expression. `Expr` has one constructor for every construct of the notation, with
nothing expanded: flags stand where they were written, classes are kept by name, and repetitions are counted.
`Expr.depth` is the nesting that a reader of patterns bounds.
-/

namespace Delimited.Pattern

/-- What a flag changes: case, line anchors, the dot, greed, the alphabet, line ends, and blanks inside the pattern. -/
inductive Flag where
  | caseInsensitive
  | multiLine
  | dotAll
  | swapGreed
  | unicode
  | crlf
  | verbose
deriving DecidableEq, Repr

/-- A flag with the state that it is given. -/
structure FlagChange where
  flag : Flag
  on : Bool
deriving DecidableEq, Repr

/-- A character that stands for itself; `byte` marks the escape of two hexadecimal digits, which names a byte where the
alphabet is that of bytes. -/
structure Literal where
  char : Char
  byte : Bool := false
deriving DecidableEq, Repr

/-- Classes of one letter: digits, blanks and word characters. -/
inductive Shorthand where
  | digit
  | space
  | word
deriving DecidableEq, Repr

/-- The names of ASCII classes. -/
inductive AsciiClass where
  | alnum | alpha | ascii | blank | cntrl | digit | graph | lower | print | punct | space | upper | word | xdigit
deriving DecidableEq, Repr

/-- A character property: a single letter, a name, or the value of a named property. -/
inductive Property where
  | letter (c : Char)
  | named (name : String)
  | value (name value : String)
deriving DecidableEq, Repr

/-- Operations on classes inside brackets. -/
inductive ClassOp where
  | inter
  | diff
  | symmDiff
deriving DecidableEq, Repr

mutual

/-- A member of a bracketed class. -/
inductive ClassItem where
  | literal (l : Literal)
  | range (lo hi : Literal)
  | ascii (negated : Bool) (c : AsciiClass)
  | property (negated : Bool) (p : Property)
  | shorthand (negated : Bool) (s : Shorthand)
  | bracketed (negated : Bool) (set : ClassSet)

/-- The inside of a bracketed class: members side by side, or an operation on two of them. -/
inductive ClassSet where
  | union (items : List ClassItem)
  | op (op : ClassOp) (lhs rhs : ClassSet)

end

/-- Conditions on a place in a text, which match no character. -/
inductive Anchor where
  | lineStart
  | lineEnd
  | textStart
  | textEnd
  | wordBoundary
  | notWordBoundary
  | wordStart
  | wordEnd
  | wordStartHalf
  | wordEndHalf
deriving DecidableEq, Repr

/-- What parentheses do: capture under a number, or set flags for what is inside. -/
inductive GroupKind where
  | capture (index : Nat)
  | plain (changes : List FlagChange)
deriving DecidableEq, Repr

/-- A regular expression as written. -/
inductive Expr where
  | empty
  | flags (changes : List FlagChange)
  | literal (l : Literal)
  | dot
  | anchor (a : Anchor)
  | property (negated : Bool) (p : Property)
  | shorthand (negated : Bool) (s : Shorthand)
  | bracketed (negated : Bool) (set : ClassSet)
  | repetition (min : Nat) (max : Option Nat) (greedy : Bool) (body : Expr)
  | group (kind : GroupKind) (body : Expr)
  | concat (items : List Expr)
  | alternation (branches : List Expr)

/-- Items side by side: nothing is the empty expression, a single item stands for itself. -/
def Expr.ofItems : List Expr → Expr
  | [] => .empty
  | [e] => e
  | es => .concat es

/-- Branches of an alternation; a single branch stands for itself. -/
def Expr.ofBranches : List Expr → Expr
  | [e] => e
  | es => .alternation es

/-- Whether there are no expressions inside of the expression. -/
def Expr.atomic : Expr → Bool
  | .repetition _ _ _ _ => false
  | .group _ _ => false
  | .concat _ => false
  | .alternation _ => false
  | _ => true

/-! ### Nesting -/

mutual

/-- The nesting of a class item. -/
def ClassItem.depth : ClassItem → Nat
  | .bracketed _ set => set.depth + 1
  | _ => 0

/-- The nesting of the inside of a class. -/
def ClassSet.depth : ClassSet → Nat
  | .union [] => 0
  | .union [i] => i.depth
  | .union (i :: j :: items) => max i.depth (max j.depth (ClassItem.depthAll items)) + 1
  | .op _ l r => max l.depth r.depth + 1

/-- The greatest nesting among class items. -/
def ClassItem.depthAll : List ClassItem → Nat
  | [] => 0
  | i :: items => max i.depth (ClassItem.depthAll items)

end

mutual

/-- The nesting of an expression: single characters have none, and every construct around them adds a level. -/
def Expr.depth : Expr → Nat
  | .bracketed _ set => set.depth + 1
  | .repetition _ _ _ e => e.depth + 1
  | .group _ e => e.depth + 1
  | .concat es => Expr.depthAll es + 1
  | .alternation es => Expr.depthAll es + 1
  | _ => 0

/-- The greatest nesting among expressions. -/
def Expr.depthAll : List Expr → Nat
  | [] => 0
  | e :: es => max e.depth (Expr.depthAll es)

end

end Delimited.Pattern
