import Delimited.Pattern.Syntax
import Delimited.Text.Blank
import Delimited.Text.Digits
import Delimited.Text.Tail
import Delimited.Unicode.Recent

/-!
# Reading regular expressions

`Expr.read?` reads a pattern from its text, or refuses it. Groups are kept on a stack of open levels, so one pass
over the characters suffices; every round consumes at least one character, which bounds the loop. In verbose mode
blanks and comments between the parts of a pattern are skipped.
-/

namespace Delimited.Pattern

/-! ### Blanks and comments -/

/-- Skips blanks and comments; a comment goes from `#` to the end of its line. -/
def skipComments (inComment : Bool) : List Char → List Char
  | [] => []
  | c :: r =>
    if inComment then skipComments (c ≠ '\n') r
    else if isBlank c then skipComments false r
    else if c = '#' then skipComments true r
    else c :: r

/-- Skips blanks and comments in verbose mode, and nothing otherwise. -/
def skip (verbose : Bool) (s : List Char) : List Char := if verbose then skipComments false s else s

private theorem length_skipComments_le (b : Bool) (s : List Char) : (skipComments b s).length ≤ s.length := by
  induction s generalizing b with
  | nil => simp [skipComments]
  | cons c r ih =>
    unfold skipComments
    have h₁ := ih true
    have h₂ := ih false
    have h₃ := ih (c ≠ '\n')
    simp only [List.length_cons]
    split
    · omega
    · split
      · omega
      · split
        · omega
        · simp

theorem length_skip_le (v : Bool) (s : List Char) : (skip v s).length ≤ s.length := by
  unfold skip
  split
  · exact length_skipComments_le false s
  · exact Nat.le_refl _

@[simp] theorem skip_false (s : List Char) : skip false s = s := rfl

/-- The character that a look past blanks sees. The look stops behind the `#` of a comment, and with nothing but blanks
left it sees the first of them. -/
def lookPast (verbose : Bool) (s : List Char) : Option Char :=
  if verbose then
    match go false s with
    | some c => some c
    | none => s.head?
  else s.head?
where
  go (inComment : Bool) : List Char → Option Char
    | [] => none
    | c :: r => if isBlank c then go inComment r else if c = '#' ∧ !inComment then go true r else some c

/-- The characters from the front that satisfy `p`, with what is skipped after each left out, and the rest. -/
def takeSkipping (verbose : Bool) (p : Char → Bool) : List Char → List Char × List Char
  | [] => ([], [])
  | c :: r =>
    if p c then
      have := length_skip_le verbose r
      let (taken, rest) := takeSkipping verbose p (skip verbose r)
      (c :: taken, rest)
    else ([], c :: r)
termination_by s => s.length

/-! ### Numbers -/

/-- A count in a repetition, which fits 32 bits; blanks may stand around it. -/
def readCount (verbose : Bool) (s : List Char) : Option (Nat × List Char) :=
  let (ds, rest) := takeSkipping verbose Char.isDigit (s.dropWhile isBlank)
  let n := numberInBase 10 ds
  if ds.isEmpty ∨ Nat.pow 2 32 ≤ n then none
  else match rest with
    | c :: _ => some (n, if isBlank c then skip verbose (rest.dropWhile isBlank) else rest)
    | [] => some (n, [])

/-! ### Escapes -/

/-- A code point in hexadecimal: in braces, or with exactly `width` digits. -/
def readHex (verbose : Bool) (width : Nat) (s : List Char) : Option (Literal × List Char) :=
  match skip verbose s with
  | '{' :: r =>
    match takeSkipping verbose (fun c => (hexValue? c).isSome) (skip verbose r) with
    | (c :: ds, '}' :: rest) => (charOfCode? (numberInBase 16 (c :: ds))).map fun c => (⟨c, false⟩, skip verbose rest)
    | _ => none
  | r =>
    match fixed width r with
    | some (ds, rest) => (charOfCode? (numberInBase 16 ds)).map fun c => (⟨c, width = 2⟩, rest)
    | none => none
where
  /-- Exactly `n` hexadecimal digits. -/
  fixed : Nat → List Char → Option (List Char × List Char)
    | 0, s => some ([], s)
    | _ + 1, [] => none
    | n + 1, c :: r =>
      if (hexValue? c).isSome then (fixed n (skip verbose r)).map fun (ds, rest) => (c :: ds, rest) else none

/-- Splits a text at the first place where `sep` occurs. -/
def splitAt? (sep : List Char) : List Char → Option (List Char × List Char)
  | [] => if sep.isEmpty then some ([], []) else none
  | c :: r =>
    if sep.isPrefixOf (c :: r) then some ([], (c :: r).drop sep.length)
    else (splitAt? sep r).map fun (a, b) => (c :: a, b)

/-- A property from what stands in its braces, and whether it is turned round by `!=`. -/
private def propertyOf (s : List Char) : Bool × Property :=
  match splitAt? ['!', '='] s with
  | some (n, v) => (true, .value (String.ofList n) (String.ofList v))
  | none =>
    match splitAt? [':'] s with
    | some (n, v) => (false, .value (String.ofList n) (String.ofList v))
    | none =>
      match splitAt? ['='] s with
      | some (n, v) => (false, .value (String.ofList n) (String.ofList v))
      | none => (false, .named (String.ofList s))

/-- A character property after `\p` or `\P`. -/
def readProperty (verbose negated : Bool) (s : List Char) : Option (Expr × List Char) :=
  match skip verbose s with
  | [] => none
  | '\\' :: _ => none
  | '{' :: r =>
    match takeSkipping verbose (· ≠ '}') (skip verbose r) with
    | (inside, '}' :: rest) =>
      let (turned, p) := propertyOf inside
      some (.property (negated != turned) p, rest)
    | _ => none
  | c :: r => some (.property negated (.letter c), skip verbose r)

/-- The name of a special word boundary. -/
private def boundaryOf? (name : List Char) : Option Anchor :=
  match String.ofList name with
  | "start" => some .wordStart
  | "end" => some .wordEnd
  | "start-half" => some .wordStartHalf
  | "end-half" => some .wordEndHalf
  | _ => none

/-- A word boundary after `\b`: a name in braces makes it a special one. Braces that hold no name are left for a
repetition. -/
def readBoundary (verbose : Bool) (s : List Char) : Option (Expr × List Char) :=
  match s with
  | '{' :: r =>
    match skip verbose r with
    | [] => none
    | c :: r' =>
      if isNameChar c then
        match takeSkipping verbose isNameChar (c :: r') with
        | (name, '}' :: rest) => (boundaryOf? name).map fun a => (.anchor a, rest)
        | _ => none
      else some (.anchor .wordBoundary, s)
  | _ => some (.anchor .wordBoundary, s)
where
  isNameChar (c : Char) : Bool := c.isAlpha || c = '-'

/-- Characters with a meaning in patterns. -/
def metaChars : List Char :=
  ['\\', '.', '+', '*', '?', '(', ')', '|', '[', ']', '{', '}', '^', '$', '#', '&', '-', '~']

/-- Characters that stand for themselves after a backslash: those with a meaning in patterns, and every other ASCII
character but letters, digits and angle brackets. -/
def canEscape (c : Char) : Bool :=
  metaChars.contains c || (c.toNat < 128 && !c.isAlphanum && c ≠ '<' && c ≠ '>')

/-- An escape, after its backslash. -/
def readEscape (verbose : Bool) : List Char → Option (Expr × List Char)
  | [] => none
  | c :: r =>
    match c with
    | 'x' => (readHex verbose 2 r).map fun (l, rest) => (.literal l, rest)
    | 'u' => (readHex verbose 4 r).map fun (l, rest) => (.literal l, rest)
    | 'U' => (readHex verbose 8 r).map fun (l, rest) => (.literal l, rest)
    | 'p' => readProperty verbose false r
    | 'P' => readProperty verbose true r
    | 'd' => some (.shorthand false .digit, r)
    | 'D' => some (.shorthand true .digit, r)
    | 's' => some (.shorthand false .space, r)
    | 'S' => some (.shorthand true .space, r)
    | 'w' => some (.shorthand false .word, r)
    | 'W' => some (.shorthand true .word, r)
    | 'a' => some (.literal ⟨'\x07', false⟩, r)
    | 'f' => some (.literal ⟨'\x0c', false⟩, r)
    | 't' => some (.literal ⟨'\t', false⟩, r)
    | 'n' => some (.literal ⟨'\n', false⟩, r)
    | 'r' => some (.literal ⟨'\r', false⟩, r)
    | 'v' => some (.literal ⟨'\x0b', false⟩, r)
    | 'A' => some (.anchor .textStart, r)
    | 'z' => some (.anchor .textEnd, r)
    | 'b' => readBoundary verbose r
    | 'B' => some (.anchor .notWordBoundary, r)
    | '<' => some (.anchor .wordStart, r)
    | '>' => some (.anchor .wordEnd, r)
    | c => if canEscape c then some (.literal ⟨c, false⟩, r) else none

private theorem atomic_of_readProperty {v negated : Bool} {s rest : List Char} {e : Expr}
    (h : readProperty v negated s = some (e, rest)) : e.atomic = true := by
  unfold readProperty at h
  split at h
  · cases h
  · cases h
  · split at h
    · cases h
      rfl
    · cases h
  · cases h
    rfl

private theorem atomic_of_readBoundary {v : Bool} {s rest : List Char} {e : Expr}
    (h : readBoundary v s = some (e, rest)) : e.atomic = true := by
  unfold readBoundary at h
  split at h
  · split at h
    · cases h
    · split at h
      · split at h
        · obtain ⟨a, -, h⟩ := Option.map_eq_some_iff.1 h
          cases h
          rfl
        · cases h
      · cases h
        rfl
  · cases h
    rfl

/-- An escape has no expressions inside. -/
theorem atomic_of_readEscape {v : Bool} {s rest : List Char} {e : Expr} (h : readEscape v s = some (e, rest)) :
    e.atomic = true := by
  unfold readEscape at h
  split at h
  · cases h
  · split at h
    case h_4 | h_5 => exact atomic_of_readProperty h
    case h_20 => exact atomic_of_readBoundary h
    case h_1 | h_2 | h_3 =>
      obtain ⟨_, -, h⟩ := Option.map_eq_some_iff.1 h
      cases h
      rfl
    case h_24 =>
      split at h
      · cases h
        rfl
      · cases h
    all_goals
      cases h
      rfl

/-! ### Bracketed classes -/

/-- An open bracketed class: what has been read of it since the last operation, last item first, and that operation with
its left side. -/
structure ClassLevel where
  negated : Bool
  items : List ClassItem
  pending : Option (ClassOp × ClassSet)

def ClassLevel.push (l : ClassLevel) (i : ClassItem) : ClassLevel := { l with items := i :: l.items }

def ClassLevel.set (l : ClassLevel) : ClassSet :=
  match l.pending with
  | none => .union l.items.reverse
  | some (op, lhs) => .op op lhs (.union l.items.reverse)

def ClassLevel.operate (l : ClassLevel) (op : ClassOp) : ClassLevel :=
  { l with items := [], pending := some (op, l.set) }

/-- The start of a bracketed class, after its bracket: a `^` negates it, and hyphens, or else a closing bracket, stand
for themselves when they come first. -/
def openClass (verbose : Bool) (s : List Char) : Option (ClassLevel × List Char) :=
  let (negated, s) := match skip verbose s with
    | '^' :: r => (true, skip verbose r)
    | r => (false, r)
  match takeSkipping verbose (· = '-') s with
  | (_, []) => none
  | ([], ']' :: r) =>
    match skip verbose r with
    | [] => none
    | rest => some (⟨negated, [.literal ⟨']', false⟩], none⟩, rest)
  | (dashes, rest) => some (⟨negated, dashes.map fun c => .literal ⟨c, false⟩, none⟩, rest)

def asciiClassNames : List (String × AsciiClass) :=
  [("alnum", .alnum), ("alpha", .alpha), ("ascii", .ascii), ("blank", .blank), ("cntrl", .cntrl), ("digit", .digit),
   ("graph", .graph), ("lower", .lower), ("print", .print), ("punct", .punct), ("space", .space), ("upper", .upper),
   ("word", .word), ("xdigit", .xdigit)]

/-- An ASCII class such as `[:alpha:]`, after its first bracket. -/
def readAsciiClass : List Char → Option (ClassItem × List Char)
  | ':' :: r =>
    let (negated, r) := match r with
      | '^' :: r' => (true, r')
      | _ => (false, r)
    match r.span (· ≠ ':') with
    | (name, ':' :: ']' :: rest) =>
      (asciiClassNames.lookup (String.ofList name)).map fun c => (.ascii negated c, rest)
    | _ => none
  | _ => none

/-- One end of a range, or an item that stands alone. -/
def readClassAtom (verbose : Bool) : List Char → Option (Expr × List Char)
  | [] => none
  | '\\' :: r => readEscape verbose r
  | c :: r => some (.literal ⟨c, false⟩, r)

/-- The class item that an atom is. -/
def classItemOf? : Expr → Option ClassItem
  | .literal l => some (.literal l)
  | .property n p => some (.property n p)
  | .shorthand n s => some (.shorthand n s)
  | _ => none

/-- An item or a range. A hyphen before a closing bracket or another hyphen makes no range. -/
def readClassItem (verbose : Bool) (s : List Char) : Option (ClassItem × List Char) := do
  let (lo, s) ← readClassAtom verbose s
  match skip verbose s with
  | [] => none
  | '-' :: r =>
    if lookPast verbose r = some ']' ∨ lookPast verbose r = some '-' then
      return (← classItemOf? lo, '-' :: r)
    else
      match skip verbose r with
      | [] => none
      | r' =>
        match lo, ← readClassAtom verbose r' with
        | .literal a, (.literal b, rest) => if a.char ≤ b.char then some (.range a b, rest) else none
        | _, _ => none
  | rest => return (← classItemOf? lo, rest)

/-- The operation that a doubled character stands for. -/
def classOpOf? : Char → Option ClassOp
  | '&' => some .inter
  | '-' => some .diff
  | '~' => some .symmDiff
  | _ => none

/-- Reads on in a bracketed class, with the open classes around it. -/
def readClassFrom (verbose : Bool) (level : ClassLevel) (outer : List ClassLevel) (s : List Char) :
    Option (Expr × List Char) :=
  match h : skip verbose s with
  | [] => none
  | c :: r =>
    have lt : r.length < s.length := by
      have := length_skip_le verbose s
      rw [h, List.length_cons] at this
      omega
    have dec (r' : List Char) : (tailOf r r').length < s.length := Nat.lt_of_le_of_lt (length_tailOf_le r r') lt
    if c = '[' then
      match readAsciiClass r with
      | some (i, r') =>
        have := dec r'
        readClassFrom verbose (level.push i) outer (tailOf r r')
      | none =>
        match openClass verbose r with
        | some (inner, r') =>
          have := dec r'
          readClassFrom verbose inner (level :: outer) (tailOf r r')
        | none => none
    else if c = ']' then
      match outer with
      | [] => some (.bracketed level.negated level.set, r)
      | o :: outer => readClassFrom verbose (o.push (.bracketed level.negated level.set)) outer r
    else
      match if r.head? = some c then classOpOf? c else none with
      | some op => readClassFrom verbose (level.operate op) outer r.tail
      | none =>
        match readClassItem verbose (c :: r) with
        | some (i, r') =>
          have := dec r'
          readClassFrom verbose (level.push i) outer (tailOf r r')
        | none => none
termination_by s.length
decreasing_by all_goals first | assumption | (rw [List.length_tail]; omega)

/-- A bracketed class, after its first bracket. -/
def readClass (verbose : Bool) (s : List Char) : Option (Expr × List Char) :=
  match openClass verbose s with
  | some (level, rest) => readClassFrom verbose level [] rest
  | none => none

private theorem atomic_of_readClassFrom {v : Bool} {level : ClassLevel} {outer : List ClassLevel} {s rest : List Char}
    {e : Expr} (h : readClassFrom v level outer s = some (e, rest)) : e.atomic = true := by
  fun_induction readClassFrom v level outer s with
  | case1 | case4 | case9 => cases h
  | case2 | case3 | case6 | case7 | case8 =>
    rename_i ih
    exact ih h
  | case5 =>
    -- the bracket that closes the outermost class
    cases h
    rfl

/-- A bracketed class has no expressions inside. -/
theorem atomic_of_readClass {v : Bool} {s rest : List Char} {e : Expr} (h : readClass v s = some (e, rest)) :
    e.atomic = true := by
  unfold readClass at h
  split at h
  · exact atomic_of_readClassFrom h
  · cases h

/-! ### Groups -/

private def flagOf? : Char → Option Flag
  | 'i' => some .caseInsensitive
  | 'm' => some .multiLine
  | 's' => some .dotAll
  | 'U' => some .swapGreed
  | 'u' => some .unicode
  | 'R' => some .crlf
  | 'x' => some .verbose
  | _ => none

/-- Flags up to the colon or parenthesis that ends them: each at most once, those after a hyphen turned off, and the
hyphen neither twice nor last. `dangling` says that a hyphen has just been read. -/
def readFlags (changes : List FlagChange) (on dangling : Bool) :
    List Char → Option (List FlagChange × Char × List Char)
  | [] => none
  | c :: r =>
    if c = ':' ∨ c = ')' then if dangling then none else some (changes.reverse, c, r)
    else if c = '-' then if on then readFlags changes false true r else none
    else match flagOf? c with
      | some f => if changes.any (·.flag = f) then none else readFlags (⟨f, on⟩ :: changes) on false r
      | none => none

/-- The state that flag changes give a flag, if they mention it. -/
def lastChange? (f : Flag) (changes : List FlagChange) : Option Bool :=
  (changes.find? (·.flag = f)).map (·.on)

/-- Characters of a group's name. -/
private def isNameChar (first : Bool) (c : Char) : Bool :=
  c = '_' || Unicode.Recent.alphabetic.contains c.toNat ||
    (!first && (c = '.' || c = '[' || c = ']' || Unicode.Recent.number.contains c.toNat))

/-- The name of a group, up to its closing angle bracket. -/
def readName (s : List Char) : Option (List Char × List Char) :=
  match s.span (· ≠ '>') with
  | (c :: name, '>' :: rest) => if isNameChar true c ∧ name.all (isNameChar false) then some (c :: name, rest) else none
  | _ => none

/-- What has been read since a group was opened: items since the last bar and finished branches, last first. -/
structure Level where
  items : List Expr := []
  branches : List Expr := []

def Level.expr (l : Level) : Expr := .ofBranches ((Expr.ofItems l.items.reverse :: l.branches).reverse)

/-- A reader inside a pattern: the innermost level, the open groups around it, each with its kind and the mode outside
it, the mode, the number of captures and the names so far. -/
structure Reader where
  level : Level := {}
  opened : List (Level × GroupKind × Bool) := []
  verbose : Bool := false
  captures : Nat := 0
  names : List (List Char) := []

def Reader.push (st : Reader) (e : Expr) : Reader :=
  { st with level := { st.level with items := e :: st.level.items } }

/-- Opens a group. -/
def Reader.enter (st : Reader) (kind : GroupKind) (verbose : Bool) : Reader :=
  { st with level := {}, opened := (st.level, kind, st.verbose) :: st.opened, verbose := verbose }

/-- Opens a capturing group. -/
def Reader.enterCapture (st : Reader) : Reader :=
  { st.enter (.capture (st.captures + 1)) st.verbose with captures := st.captures + 1 }

/-- Opens a group with a name that no earlier group has. -/
def Reader.enterNamed (st : Reader) (r : List Char) : Option (Reader × List Char) := do
  let (name, rest) ← readName r
  if st.names.contains name then none
  else some ({ st.enterCapture with names := name :: st.names }, rest)

/-- The start of a group, after its parenthesis. -/
def Reader.openGroup (st : Reader) (r : List Char) : Option (Reader × List Char) :=
  match skip st.verbose r with
  | '?' :: '=' :: _ => none
  | '?' :: '!' :: _ => none
  | '?' :: '<' :: '=' :: _ => none
  | '?' :: '<' :: '!' :: _ => none
  | '?' :: 'P' :: '<' :: r => st.enterNamed r
  | '?' :: '<' :: r => st.enterNamed r
  | '?' :: r =>
    match readFlags [] true false r with
    | some (changes, end', rest) =>
      let verbose := (lastChange? .verbose changes).getD st.verbose
      if end' = ')' then
        if changes.isEmpty then none else some ({ st.push (.flags changes) with verbose := verbose }, rest)
      else some (st.enter (.plain changes) verbose, rest)
    | none => none
  | r => some (st.enterCapture, r)

/-- Closes the innermost group. -/
def Reader.closeGroup (st : Reader) : Option Reader :=
  match st.opened with
  | [] => none
  | (outer, kind, verbose) :: opened =>
    some { st with
      level := { outer with items := .group kind st.level.expr :: outer.items }, opened := opened, verbose := verbose }

/-- Repeats the last item, if there is one that can be repeated. -/
def Reader.repeatLast (st : Reader) (min : Nat) (max : Option Nat) (greedy : Bool) : Option Reader :=
  match st.level.items with
  | [] => none
  | .flags _ :: _ => none
  | e :: items => some { st with level := { st.level with items := .repetition min max greedy e :: items } }

/-- A repetition written as one character; a question mark right after it makes it lazy. -/
def Reader.repeatSimply (st : Reader) (min : Nat) (max : Option Nat) :
    List Char → Option (Reader × List Char)
  | '?' :: r => (st.repeatLast min max false).map (·, r)
  | r => (st.repeatLast min max true).map (·, r)

/-- A repetition with counts, after its brace. -/
def Reader.repeatCounted (st : Reader) (s : List Char) : Option (Reader × List Char) := do
  let (min, s) ← readCount st.verbose (skip st.verbose s)
  let (max, rest) ← match s with
    | '}' :: r => some (some min, r)
    | ',' :: r =>
      match skip st.verbose r with
      | '}' :: r => some (none, r)
      | r =>
        match readCount st.verbose r with
        | some (max, '}' :: r) => if min ≤ max then some (some max, r) else none
        | _ => none
    | _ => none
  st.repeatSimply min max (skip st.verbose rest)

/-- Ends a branch. -/
def Reader.nextBranch (st : Reader) : Reader :=
  { st with level := ⟨[], Expr.ofItems st.level.items.reverse :: st.level.branches⟩ }

/-- What reads on after a character that is no literal; none for a literal. -/
def construct? : Char → Option (Reader → List Char → Option (Reader × List Char))
  | '(' => some Reader.openGroup
  | ')' => some fun st r => st.closeGroup.map (·, r)
  | '|' => some fun st r => some (st.nextBranch, r)
  | '[' => some fun st r => (readClass st.verbose r).map fun (e, rest) => (st.push e, rest)
  | '?' => some fun st r => st.repeatSimply 0 (some 1) r
  | '*' => some fun st r => st.repeatSimply 0 none r
  | '+' => some fun st r => st.repeatSimply 1 none r
  | '{' => some fun st r => st.repeatCounted r
  | '\\' => some fun st r => (readEscape st.verbose r).map fun (e, rest) => (st.push e, rest)
  | '.' => some fun st r => some (st.push .dot, r)
  | '^' => some fun st r => some (st.push (.anchor .lineStart), r)
  | '$' => some fun st r => some (st.push (.anchor .lineEnd), r)
  | _ => none

/-- Reads to the end of the pattern, where no group may be open. -/
def Reader.run (st : Reader) (s : List Char) : Option Expr :=
  match _h : skip st.verbose s with
  | [] => if st.opened.isEmpty then some st.level.expr else none
  | c :: r =>
    match construct? c with
    | none => Reader.run (st.push (.literal ⟨c, false⟩)) r
    | some read =>
      match read st r with
      | none => none
      | some (st', r') => Reader.run st' (tailOf r r')
termination_by s.length
decreasing_by
  all_goals
    have h₁ := length_skip_le st.verbose s
    rw [_h, List.length_cons] at h₁
  · omega
  · have h₂ := length_tailOf_le r r'
    omega

/-- How deep a pattern may nest. -/
def depthLimit : Nat := 250

/-- Reads a pattern. -/
def Expr.read? (s : List Char) : Option Expr :=
  (Reader.run {} s).filter (·.depth ≤ depthLimit)

end Delimited.Pattern
