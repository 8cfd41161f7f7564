/-!
# Lengths in bytes

Offsets and lengths count bytes of the encoding UTF-8, in which a character takes one to four.
-/

namespace Delimited

/-- The number of bytes of a text. -/
def byteLength : List Char → Nat
  | [] => 0
  | c :: r => c.utf8Size + byteLength r

@[simp] theorem byteLength_nil : byteLength [] = 0 := rfl

@[simp] theorem byteLength_cons (c : Char) (r : List Char) : byteLength (c :: r) = c.utf8Size + byteLength r := rfl

@[simp] theorem byteLength_append (a b : List Char) : byteLength (a ++ b) = byteLength a + byteLength b := by
  induction a with
  | nil => simp
  | cons c a ih => simp [ih]; omega

@[simp] theorem byteLength_reverse (a : List Char) : byteLength a.reverse = byteLength a := by
  induction a with
  | nil => rfl
  | cons c a ih => simp [ih]; omega

/-- Only the empty text has no bytes. -/
theorem byteLength_eq_zero {a : List Char} : byteLength a = 0 ↔ a = [] := by
  cases a with
  | nil => simp
  | cons c a => simp [Char.utf8Size_pos c |> Nat.pos_iff_ne_zero.1]

end Delimited
