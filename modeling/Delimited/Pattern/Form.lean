import Delimited.Pattern.Node

/-!
# Simplified patterns

A `Form` is a pattern in its simplified form, in which it is stored. Characters that follow each other are one text, a
set of one character is a text as well, and what can only be empty is left out of a sequence. Sequences do not stand in
sequences, nor choices in choices. A choice of single characters, or of sets, is a set, and what all branches of a
choice begin with is taken out of it. `Node.form` gives the form of a node.
-/

namespace Delimited.Pattern

/-- A pattern in its simplified form. -/
inductive Form where
  | empty
  | text (chars : List Char)
  | set (s : CharSet)
  | look (l : Look)
  | repetition (min : Nat) (max : Option Nat) (greedy : Bool) (body : Form)
  | capture (index : Nat) (body : Form)
  | sequence (items : List Form)
  | choice (branches : List Form)

namespace Form

/-! ### Comparison -/

mutual

/-- Whether two forms are the same. -/
def same : Form → Form → Bool
  | .empty, .empty => true
  | .text a, .text b => a == b
  | .set s, .set t => s == t
  | .look l, .look k => l == k
  | .repetition min max greedy e, .repetition min' max' greedy' e' =>
    min == min' && max == max' && greedy == greedy' && e.same e'
  | .capture k e, .capture k' e' => k == k' && e.same e'
  | .sequence es, .sequence es' => sameAll es es'
  | .choice es, .choice es' => sameAll es es'
  | _, _ => false

/-- Whether two lists of forms are the same. -/
def sameAll : List Form → List Form → Bool
  | [], [] => true
  | e :: es, e' :: es' => e.same e' && sameAll es es'
  | _, _ => false

end

/-- How many items two lists have in common at their beginning. -/
private def commonLength : List Form → List Form → Nat
  | e :: es, e' :: es' => if e.same e' then commonLength es es' + 1 else 0
  | _, _ => 0

/-! ### Sets -/

/-- A range of code points without the surrogates, which are no characters. -/
private def characterRanges (lo hi : Nat) : List (Nat × Nat) :=
  [(lo, Nat.min hi 0xD7FF), (Nat.max lo 0xE000, hi)].filter fun (a, b) => a ≤ b

/-- The form of a set of characters. -/
def ofSet (s : CharSet) : Form :=
  match s.ranges.flatMap fun (lo, hi) => characterRanges lo hi with
  | [(lo, hi)] => if lo = hi then .text [Char.ofNat lo] else .set ⟨[(lo, hi)]⟩
  | ranges => .set ⟨ranges⟩

/-- The set of one character is a text. -/
theorem ofSet_ofChar (c : Char) : ofSet (.ofChar c) = .text [c] := by
  have hr : characterRanges c.toNat c.toNat = [(c.toNat, c.toNat)] := by
    have hv : c.toNat < 0xD800 ∨ 0xDFFF < c.toNat ∧ c.toNat < 0x110000 := c.valid
    unfold characterRanges
    rcases hv with hv | ⟨hv, -⟩
    · rw [show Nat.min c.toNat 0xD7FF = c.toNat from Nat.min_eq_left (by omega),
        show Nat.max c.toNat 0xE000 = 0xE000 from Nat.max_eq_right (by omega)]
      simp [show ¬ 0xE000 ≤ c.toNat by omega]
    · rw [show Nat.min c.toNat 0xD7FF = 0xD7FF from Nat.min_eq_right (by omega),
        show Nat.max c.toNat 0xE000 = c.toNat from Nat.max_eq_left (by omega)]
      simp [show ¬ c.toNat ≤ 0xD7FF by omega]
  unfold ofSet
  simp only [CharSet.ofChar, CharSet.singleton, List.flatMap_singleton, hr, if_true, Char.ofNat_toNat]

/-- The set of a single character. -/
private def char? : Form → Option CharSet
  | .text [c] => some (.ofChar c)
  | _ => none

/-- The set that a form is. -/
private def set? : Form → Option CharSet
  | .set s => some s
  | _ => none

/-! ### Sequences -/

/-- The items of a form as a sequence. -/
def items : Form → List Form
  | .empty => []
  | .sequence es => es
  | e => [e]

/-- The form of items side by side. -/
def ofItems : List Form → Form
  | [] => .empty
  | [e] => e
  | es => .sequence es

/-- Puts an item in front of others. -/
private def consItem (e : Form) (es : List Form) : List Form :=
  match e, es with
  | .text a, .text b :: es => .text (a ++ b) :: es
  | e, es => e :: es

/-- The form of one form after another. -/
def append (a b : Form) : Form := ofItems (a.items.foldr consItem b.items)

/-! ### Choices -/

/-- The branches of a form as a choice. -/
def branches : Form → List Form
  | .choice es => es
  | e => [e]

/-- A choice of branches that have nothing in common. -/
private def ofDistinct (es : List Form) : Form :=
  match es.flatMap branches with
  | [e] => e
  | es =>
    match es.mapM char? with
    | some sets => ofSet (.unions sets)
    | none =>
      match es.mapM set? with
      | some sets => ofSet (.unions sets)
      | none => .choice es

/-- The items of a sequence of several items. -/
private def sequence? : Form → Option (List Form)
  | .sequence es => some es
  | _ => none

/-- The form of a choice. -/
def ofBranches (es : List Form) : Form :=
  match (es.flatMap branches).mapM sequence? with
  | some (first :: second :: others) =>
    let common := (second :: others).foldl (fun n es => commonLength (first.take n) es) first.length
    if common = 0 then ofDistinct es
    else append (ofItems (first.take common))
      (ofDistinct ((first :: second :: others).map fun es => ofItems (es.drop common)))
  | _ => ofDistinct es

/-- A single branch that is no choice is the form of the choice. -/
theorem ofBranches_single {e : Form} (h : e.branches = [e]) : ofBranches [e] = e := by
  have hd : ofDistinct [e] = e := by
    unfold ofDistinct
    rw [List.flatMap_singleton, h]
  unfold ofBranches
  rw [List.flatMap_singleton, h, List.mapM_cons]
  cases sequence? e <;> exact hd

/-! ### Length -/

mutual

/-- A lower bound for the number of characters that a match takes, and no bound at all for a form of which a part has
no match. -/
def leastLength? : Form → Option Nat
  | .empty => some 0
  | .text cs => some cs.length
  | .set s => if s.isEmpty then none else some 1
  | .look _ => some 0
  | .repetition min _ _ e => e.leastLength?.map (min * ·)
  | .capture _ e => e.leastLength?
  | .sequence es => leastLengthOfItems? es
  | .choice es => leastLengthOfBranches? es

/-- The bound for items side by side. -/
def leastLengthOfItems? : List Form → Option Nat
  | [] => some 0
  | e :: es => do return (← e.leastLength?) + (← leastLengthOfItems? es)

/-- The bound for a choice. -/
def leastLengthOfBranches? : List Form → Option Nat
  | [] => none
  | [e] => e.leastLength?
  | e :: es => do return Nat.min (← e.leastLength?) (← leastLengthOfBranches? es)

end

end Form

/-- The forms of the branches of a node. -/
def Node.branchForms : Node → List Form
  | .empty => [.empty]
  | .set s => [.ofSet s]
  | .look l => [.look l]
  | .repetition min max greedy e => [.repetition min max greedy (.ofBranches e.branchForms)]
  | .capture k e => [.capture k (.ofBranches e.branchForms)]
  | .group e => [.ofBranches e.branchForms]
  | .seq a b => [.append (.ofBranches a.branchForms) (.ofBranches b.branchForms)]
  | .alt a b => .ofBranches a.branchForms :: b.branchForms

/-- The simplified form of a node. -/
def Node.form (n : Node) : Form := .ofBranches n.branchForms

end Delimited.Pattern
