import Delimited.Text.ByteLength

/-!
# Slices by bytes

`slice? text start stop` is the text between two byte offsets. There is none when the offsets are in the wrong order,
when one of them lies behind the end, or when one of them lies inside a character: to ask for such a slice is a fault.
The key fact is `slice?_eq_some_iff`, which says when there is one and what it is.
-/

namespace Delimited

/-- The offset is that of a character of the text, or of its end. -/
def IsBoundary (text : List Char) (offset : Nat) : Prop := ∃ a b, text = a ++ b ∧ byteLength a = offset

/-- The text in front of an offset and the text behind it. -/
def splitAt? : Nat → List Char → Option (List Char × List Char)
  | 0, text => some ([], text)
  | _ + 1, [] => none
  | k + 1, c :: r =>
    if c.utf8Size ≤ k + 1 then (splitAt? (k + 1 - c.utf8Size) r).map fun (a, b) => (c :: a, b) else none

/-- A text is cut behind its first part. -/
theorem splitAt?_append (a b : List Char) : splitAt? (byteLength a) (a ++ b) = some (a, b) := by
  induction a with
  | nil => cases b <;> rfl
  | cons c a ih =>
    have hpos := Char.utf8Size_pos c
    obtain ⟨k, hk⟩ : ∃ k, byteLength (c :: a) = k + 1 := ⟨byteLength (c :: a) - 1, by simp; omega⟩
    have hle : c.utf8Size ≤ k + 1 := by rw [← hk]; simp
    have hsub : k + 1 - c.utf8Size = byteLength a := by rw [← hk]; simp
    rw [hk, List.cons_append, splitAt?, if_pos hle, hsub, ih]
    rfl

theorem splitAt?_eq_some {k : Nat} {text a b : List Char} (h : splitAt? k text = some (a, b)) :
    text = a ++ b ∧ byteLength a = k := by
  fun_induction splitAt? k text generalizing a b with
  | case1 text =>
    obtain ⟨rfl, rfl⟩ : a = [] ∧ b = text := by simpa [eq_comm] using h
    exact ⟨rfl, rfl⟩
  | case2 k => simp at h
  | case3 k c r hle ih =>
    obtain ⟨⟨a', b'⟩, h', he⟩ := Option.map_eq_some_iff.1 h
    obtain ⟨rfl, rfl⟩ : c :: a' = a ∧ b' = b := by simpa using he
    obtain ⟨rfl, ha⟩ := ih h'
    refine ⟨rfl, ?_⟩
    rw [byteLength_cons]
    omega
  | case4 k c r hle => simp at h

private theorem splitAt?_eq_some_iff {k : Nat} {text a b : List Char} :
    splitAt? k text = some (a, b) ↔ text = a ++ b ∧ byteLength a = k := by
  refine ⟨splitAt?_eq_some, ?_⟩
  rintro ⟨rfl, rfl⟩
  exact splitAt?_append a b

private theorem isBoundary_iff {text : List Char} {offset : Nat} :
    IsBoundary text offset ↔ (splitAt? offset text).isSome = true := by
  rw [Option.isSome_iff_exists]
  constructor
  · rintro ⟨a, b, h⟩
    exact ⟨(a, b), splitAt?_eq_some_iff.2 h⟩
  · rintro ⟨⟨a, b⟩, h⟩
    exact ⟨a, b, splitAt?_eq_some h⟩

instance (text : List Char) (offset : Nat) : Decidable (IsBoundary text offset) := decidable_of_iff _ isBoundary_iff.symm

/-- The text between two offsets. -/
def slice? (text : List Char) (start stop : Nat) : Option (List Char) :=
  if start ≤ stop then do
    let (_, rest) ← splitAt? start text
    let (part, _) ← splitAt? (stop - start) rest
    return part
  else none

/-- There is a slice just when both offsets are boundaries and in order. -/
theorem slice?_eq_some_iff {text part : List Char} {start stop : Nat} :
    slice? text start stop = some part ↔
      ∃ a b, text = a ++ part ++ b ∧ byteLength a = start ∧ byteLength (a ++ part) = stop := by
  unfold slice?
  constructor
  · intro h
    by_cases hle : start ≤ stop
    · rw [if_pos hle] at h
      simp only [Option.bind_eq_bind, Option.bind_eq_some_iff, Option.pure_def, Option.some.injEq] at h
      obtain ⟨⟨a, rest⟩, h₁, ⟨part', b⟩, h₂, rfl⟩ := h
      obtain ⟨rfl, ha⟩ := splitAt?_eq_some h₁
      obtain ⟨rfl, hp⟩ := splitAt?_eq_some h₂
      refine ⟨a, b, (List.append_assoc _ _ _).symm, ha, ?_⟩
      show byteLength (a ++ part') = stop
      rw [byteLength_append]
      omega
    · rw [if_neg hle] at h
      simp at h
  · rintro ⟨a, b, rfl, rfl, rfl⟩
    have hsub : byteLength (a ++ part) - byteLength a = byteLength part := by rw [byteLength_append]; omega
    rw [if_pos (by rw [byteLength_append]; omega), List.append_assoc, splitAt?_append, hsub]
    show (splitAt? (byteLength part) (part ++ b) >>= fun x => some x.1) = some part
    rw [splitAt?_append]
    rfl

/-- The first part of a text. -/
theorem slice?_zero {text part : List Char} (h : part <+: text) : slice? text 0 (byteLength part) = some part := by
  obtain ⟨b, rfl⟩ := h
  exact slice?_eq_some_iff.2 ⟨[], b, rfl, rfl, rfl⟩

end Delimited
