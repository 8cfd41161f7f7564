/-!
# Parts

A `Part` is what a scan produces: a text, or a group of parts in order. The key operations are `Part.flattenText`
(all text of a part, depth first), `Part.items` (a part seen as a list) and `Part.assemble` (a list of parts seen as
one part: nothing is the empty text, a single part stands for itself).
-/

namespace Delimited

/-- A value produced by a scan. -/
inductive Part where
  | text (s : String)
  | group (items : List Part)

namespace Part

instance : Inhabited Part := ⟨.text ""⟩

mutual

/-- Structural equality, by recursion on the tree. -/
private def same : Part → Part → Bool
  | .text s, .text t => s == t
  | .group ps, .group qs => sameAll ps qs
  | _, _ => false

private def sameAll : List Part → List Part → Bool
  | [], [] => true
  | p :: ps, q :: qs => same p q && sameAll ps qs
  | _, _ => false

end

mutual

private theorem same_iff : ∀ {p q : Part}, same p q = true ↔ p = q
  | .text s, .text t => by simp [same]
  | .group ps, .group qs => by simp [same, @sameAll_iff ps qs]
  | .text _, .group _ => by simp [same]
  | .group _, .text _ => by simp [same]

private theorem sameAll_iff : ∀ {ps qs : List Part}, sameAll ps qs = true ↔ ps = qs
  | [], [] => by simp [sameAll]
  | p :: ps, q :: qs => by simp [sameAll, @same_iff p q, @sameAll_iff ps qs]
  | [], _ :: _ => by simp [sameAll]
  | _ :: _, [] => by simp [sameAll]

end

instance : DecidableEq Part := fun _ _ => decidable_of_iff _ same_iff

/-- The text, if the part is one. -/
def asText? : Part → Option String
  | .text s => some s
  | .group _ => none

/-- The members of a group, or the text as the only item. -/
def items : Part → List Part
  | .text s => [.text s]
  | .group ps => ps

/-- The first item, if there is one. -/
def first? (p : Part) : Option Part := p.items.head?

/-! ### Text of a part -/

mutual

/-- All text of the part, depth first. -/
def flattenText : Part → String
  | .text s => s
  | .group ps => flattenTextAll ps

/-- All text of the parts, in order. -/
def flattenTextAll : List Part → String
  | [] => ""
  | p :: ps => p.flattenText ++ flattenTextAll ps

end

mutual

/-- The texts at the leaves, depth first. -/
def leaves : Part → List Part
  | .text s => [.text s]
  | .group ps => leavesAll ps

/-- The leaves of the parts, in order. -/
def leavesAll : List Part → List Part
  | [] => []
  | p :: ps => p.leaves ++ leavesAll ps

end

/-! ### One part for many -/

/-- No parts give the empty text, a single part stands for itself, and more form a group. -/
def assemble : List Part → Part
  | [] => .text ""
  | [p] => p
  | ps => .group ps

@[simp] theorem flattenTextAll_append (ps qs : List Part) :
    flattenTextAll (ps ++ qs) = flattenTextAll ps ++ flattenTextAll qs := by
  induction ps with
  | nil => simp [flattenTextAll]
  | cons p ps ih => rw [List.cons_append, flattenTextAll, flattenTextAll, ih, String.append_assoc]

@[simp] theorem flattenTextAll_singleton (p : Part) : flattenTextAll [p] = p.flattenText := by
  simp [flattenTextAll]

/-- Taking parts together as one neither adds text nor drops any. -/
theorem flattenText_assemble (ps : List Part) : (assemble ps).flattenText = flattenTextAll ps := by
  match ps with
  | [] => rfl
  | [p] => exact (flattenTextAll_singleton p).symm
  | p :: q :: ps => rfl

end Part

end Delimited
