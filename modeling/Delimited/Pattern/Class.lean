import Delimited.Pattern.Syntax
import Delimited.Unicode.Age
import Delimited.Unicode.Folding
import Delimited.Unicode.ScriptExtensions
import Delimited.Unicode.Segment

/-!
# Classes of characters in patterns

The sets that the class notations stand for. Two alphabets are possible: all characters, or, with the flag `u` turned
off, the ASCII ones. In the second a class that leaves ASCII is refused, and so is every negated class. Folding comes
before negation: `(?i)[^a]` excludes both cases of the letter.
-/

namespace Delimited.Pattern

/-! ### Named sets -/

/-- The name of a property in the form used for look-up: an `is` in front is dropped, and so are blanks, hyphens,
underscores and characters outside ASCII; the case is lower. -/
def normalName (name : String) : String :=
  let (named, rest) := match name.toList with
    | i :: s :: rest => if i.toLower = 'i' ∧ s.toLower = 's' then (true, rest) else (false, i :: s :: rest)
    | rest => (false, rest)
  let kept := (rest.filter fun c => c.toNat < 128 && !(c = ' ' || c = '_' || c = '-')).map Char.toLower
  if named ∧ kept = ['c'] then "isc" else String.ofList kept

/-- Names that stand for a category although a property has the same short name. -/
private def categoriesFirst : List String := ["cf", "sc", "lc"]

/-- The set of a property, a category or a script, by a normal name. -/
private def namedSet? (name : String) : Option CharSet :=
  match if categoriesFirst.contains name then none else Unicode.property? name with
  | some s => some s
  | none =>
    match Unicode.category? name with
    | some s => some s
    | none => Unicode.script? name

/-- The set of characters for which the property has this value; both names are normal. -/
private def valueSet? (name value : String) : Option CharSet :=
  if name = "gc" ∨ name = "generalcategory" then Unicode.category? value
  else if name = "sc" ∨ name = "script" then Unicode.script? value
  else if name = "scx" ∨ name = "scriptextensions" then Unicode.scriptExtensions? value
  else if name = "age" then Unicode.age? value
  else if name = "gcb" ∨ name = "graphemeclusterbreak" then Unicode.graphemeBreak? value
  else if name = "wb" ∨ name = "wordbreak" then Unicode.wordBreak? value
  else if name = "sb" ∨ name = "sentencebreak" then Unicode.sentenceBreak? value
  else none

/-- The set that a property stands for, if it is known. -/
def Property.set? : Property → Option CharSet
  | .letter c => namedSet? (normalName (String.singleton c))
  | .named n => namedSet? (normalName n)
  | .value n v => valueSet? (normalName n) (normalName v)

/-- The characters of an ASCII class. -/
def AsciiClass.set : AsciiClass → CharSet
  | .alnum => .ofRanges [(0x30, 0x39), (0x41, 0x5A), (0x61, 0x7A)]
  | .alpha => .ofRanges [(0x41, 0x5A), (0x61, 0x7A)]
  | .ascii => .ofRanges [(0x00, 0x7F)]
  | .blank => .ofRanges [(0x09, 0x09), (0x20, 0x20)]
  | .cntrl => .ofRanges [(0x00, 0x1F), (0x7F, 0x7F)]
  | .digit => .ofRanges [(0x30, 0x39)]
  | .graph => .ofRanges [(0x21, 0x7E)]
  | .lower => .ofRanges [(0x61, 0x7A)]
  | .print => .ofRanges [(0x20, 0x7E)]
  | .punct => .ofRanges [(0x21, 0x2F), (0x3A, 0x40), (0x5B, 0x60), (0x7B, 0x7E)]
  | .space => .ofRanges [(0x09, 0x0D), (0x20, 0x20)]
  | .upper => .ofRanges [(0x41, 0x5A)]
  | .word => .ofRanges [(0x30, 0x39), (0x41, 0x5A), (0x5F, 0x5F), (0x61, 0x7A)]
  | .xdigit => .ofRanges [(0x30, 0x39), (0x41, 0x46), (0x61, 0x66)]

/-- Word characters: letters and what is read as one, marks, decimal digits, connecting punctuation and joiners. -/
def wordSet : CharSet := .unions
  [Unicode.Property.alphabetic, Unicode.Category.mark, Unicode.Category.decimalNumber,
   Unicode.Category.connectorPunctuation, Unicode.Property.joinControl]

/-- The characters of a class of one letter. -/
def Shorthand.set (unicode : Bool) : Shorthand → CharSet
  | .digit => if unicode then Unicode.Category.decimalNumber else AsciiClass.digit.set
  | .space => if unicode then Unicode.Property.whiteSpace else AsciiClass.space.set
  | .word => if unicode then wordSet else AsciiClass.word.set

/-! ### Folding and negation -/

/-- How classes are read: which alphabet, and whether case counts. -/
structure ClassMode where
  unicode : Bool := true
  caseInsensitive : Bool := false
deriving DecidableEq, Repr

/-- The set with the other case of its ASCII letters. -/
private def foldAscii (s : CharSet) : CharSet :=
  s ∪ .ofRanges ((s ∩ AsciiClass.alpha.set).ranges.flatMap fun r =>
    [(max r.1 0x41 + 32, min r.2 0x5A + 32), (max r.1 0x61 - 32, min r.2 0x7A - 32)])

/-- The set with what differs from its members in case only, if case does not count. -/
def ClassMode.fold (m : ClassMode) (s : CharSet) : CharSet :=
  if m.caseInsensitive then if m.unicode then Unicode.foldCase s else foldAscii s else s

/-- The complement, if it is asked for and the alphabet has one. -/
def ClassMode.negate? (m : ClassMode) (negated : Bool) (s : CharSet) : Option CharSet :=
  if negated then if m.unicode then some s.compl else none else some s

/-- The character that a literal stands for. In the ASCII alphabet a byte escape beyond it stands for none. -/
def ClassMode.char? (m : ClassMode) (l : Literal) : Option Char :=
  if !m.unicode && l.byte && 127 < l.char.toNat then none else some l.char

/-- The code point of a literal that stands in a class. -/
private def ClassMode.member? (m : ClassMode) (l : Literal) : Option Nat :=
  if !m.unicode && 127 < l.char.toNat then none else some l.char.toNat

/-- The set of a property, in the full alphabet only. -/
def ClassMode.property? (m : ClassMode) (negated : Bool) (p : Property) : Option CharSet := do
  if m.unicode then m.negate? negated (m.fold (← p.set?)) else none

/-- The set of a class of one letter, which is closed under folding. -/
def ClassMode.shorthand? (m : ClassMode) (negated : Bool) (s : Shorthand) : Option CharSet :=
  m.negate? negated (s.set m.unicode)

/-- The result of an operation on two sets. -/
private def ClassOp.apply (s t : CharSet) : ClassOp → CharSet
  | .inter => s ∩ t
  | .diff => s \ t
  | .symmDiff => s.symmDiff t

mutual

/-- The set of a member of a bracketed class. -/
def ClassItem.set? (m : ClassMode) : ClassItem → Option CharSet
  | .literal l => (m.member? l).map .singleton
  | .range lo hi => do return .ofRanges [(← m.member? lo, ← m.member? hi)]
  | .ascii negated c => m.negate? negated (m.fold c.set)
  | .property negated p => m.property? negated p
  | .shorthand negated s => m.shorthand? negated s
  | .bracketed negated set => do m.negate? negated (m.fold (← set.set? m))

/-- The set of the inside of a bracketed class. Both sides of an operation are folded before it is carried out. -/
def ClassSet.set? (m : ClassMode) : ClassSet → Option CharSet
  | .union items => ClassItem.setOfAll? m items
  | .op op l r => do return op.apply (m.fold (← l.set? m)) (m.fold (← r.set? m))

/-- The union of the sets of members. -/
def ClassItem.setOfAll? (m : ClassMode) : List ClassItem → Option CharSet
  | [] => some ∅
  | i :: items => do return (← i.set? m) ∪ (← ClassItem.setOfAll? m items)

end

/-- The set of a bracketed class. -/
def ClassMode.bracketed? (m : ClassMode) (negated : Bool) (set : ClassSet) : Option CharSet := do
  m.negate? negated (m.fold (← set.set? m))

end Delimited.Pattern
