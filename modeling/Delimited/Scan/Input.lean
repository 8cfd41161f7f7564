import Delimited.Text.ByteLength

/-!
# Inputs

A `Cursor` is a place in a text: what has been passed, and what is left. Its offset counts the bytes that have been
passed. An `Input` is the text that is being scanned together with those that were suspended in favour of it, each with
its cursor. The key facts are `since_eq`, that the text between an earlier place and the cursor is found again, and
`advance_of_eq_append`, that advancing over a text at the cursor passes exactly this text.
-/

namespace Delimited.Scan

/-- A place in a text. What has been passed is kept last character first. -/
structure Cursor where
  passed : List Char
  rest : List Char
  offset : Nat
  offset_eq : offset = byteLength passed := by rfl

namespace Cursor

/-- The start of a text. -/
def ofChars (text : List Char) : Cursor := ⟨[], text, 0, rfl⟩

/-- The start of a text. -/
def ofString (text : String) : Cursor := ofChars text.toList

/-- The whole text. -/
def text (c : Cursor) : List Char := c.passed.reverse ++ c.rest

/-- Whether nothing is left. -/
def atEnd (c : Cursor) : Bool := c.rest.isEmpty

/-- The next character and the cursor behind it. -/
def next? (c : Cursor) : Option (Char × Cursor) :=
  match c.rest with
  | [] => none
  | x :: r => some (x, ⟨x :: c.passed, r, c.offset + x.utf8Size, by simp [c.offset_eq, Nat.add_comm]⟩)

/-- Moves on over `n` bytes, as far as whole characters go. -/
def advance (n : Nat) (c : Cursor) : Cursor :=
  go n c.passed c.rest c.offset c.offset_eq
where
  go (n : Nat) (passed : List Char) : (rest : List Char) → (offset : Nat) → offset = byteLength passed → Cursor
    | [], offset, h => ⟨passed, [], offset, h⟩
    | x :: r, offset, h =>
      if x.utf8Size ≤ n then
        go (n - x.utf8Size) (x :: passed) r (offset + x.utf8Size) (by simp [h, Nat.add_comm])
      else ⟨passed, x :: r, offset, h⟩

/-- Takes characters from the back of a passed text, as many as fit into `n` bytes, and puts them before `acc`. -/
private def takeBack (n : Nat) (acc : List Char) : List Char → List Char
  | [] => acc
  | x :: passed => if x.utf8Size ≤ n then takeBack (n - x.utf8Size) (x :: acc) passed else acc

/-- The text between an earlier offset and the cursor. -/
def since (c : Cursor) (start : Nat) : List Char := takeBack (c.offset - start) [] c.passed

/-! ### Laws -/

@[simp] theorem rest_ofChars (text : List Char) : (ofChars text).rest = text := rfl

@[simp] theorem offset_ofChars (text : List Char) : (ofChars text).offset = 0 := rfl

@[ext] theorem ext {c d : Cursor} (h₁ : c.passed = d.passed) (h₂ : c.rest = d.rest) : c = d := by
  obtain ⟨p, r, o, h⟩ := c
  obtain ⟨p', r', o', h'⟩ := d
  simp only at h₁ h₂
  subst h₁ h₂ h h'
  rfl

private theorem go_append {m r passed : List Char} {offset : Nat} {h : offset = byteLength passed} :
    (advance.go (byteLength m) passed (m ++ r) offset h).passed = m.reverse ++ passed ∧
      (advance.go (byteLength m) passed (m ++ r) offset h).rest = r := by
  induction m generalizing passed offset with
  | nil =>
    cases r with
    | nil => simp [advance.go]
    | cons x r => simp [advance.go, Nat.pos_iff_ne_zero.1 (Char.utf8Size_pos x)]
  | cons x m ih =>
    have hle : x.utf8Size ≤ byteLength (x :: m) := by simp
    have hsub : byteLength (x :: m) - x.utf8Size = byteLength m := by simp
    simp only [List.cons_append, advance.go, hle, if_true, hsub]
    simpa using ih

/-- Advancing over a text at the cursor passes exactly this text. -/
theorem advance_of_eq_append {c : Cursor} {m r : List Char} (h : c.rest = m ++ r) :
    (c.advance (byteLength m)).passed = m.reverse ++ c.passed ∧ (c.advance (byteLength m)).rest = r := by
  unfold advance
  rw [h]
  exact go_append

private theorem takeBack_append {m acc passed : List Char} :
    takeBack (byteLength m) acc (m ++ passed) = m.reverse ++ acc := by
  induction m generalizing acc with
  | nil =>
    cases passed with
    | nil => simp [takeBack]
    | cons x passed => simp [takeBack, Nat.pos_iff_ne_zero.1 (Char.utf8Size_pos x)]
  | cons x m ih =>
    have hle : x.utf8Size ≤ byteLength (x :: m) := by simp
    have hsub : byteLength (x :: m) - x.utf8Size = byteLength m := by simp
    simp only [List.cons_append, takeBack, hle, if_true, hsub]
    simpa using ih

/-- The text between an earlier place and the cursor is found again. -/
theorem since_eq {c : Cursor} {a m : List Char} (h : c.passed = m.reverse ++ a) : c.since (byteLength a) = m := by
  have : c.offset - byteLength a = byteLength m.reverse := by rw [c.offset_eq, h]; simp
  rw [since, this, h, takeBack_append]
  simp

/-- The next character is the first one of what is left, and the cursor behind it has passed it. -/
theorem next?_eq_some {c d : Cursor} {x : Char} (h : c.next? = some (x, d)) :
    c.rest = x :: d.rest ∧ d.passed = x :: c.passed ∧ d.offset = c.offset + x.utf8Size := by
  unfold next? at h
  split at h
  · simp at h
  · rename_i y r hr
    simp only [Option.some.injEq, Prod.mk.injEq] at h
    obtain ⟨rfl, rfl⟩ := h
    exact ⟨hr, rfl, rfl⟩

/-- The cursor behind the next character is the one behind its bytes. -/
theorem next?_eq_advance {c : Cursor} {x : Char} {r : List Char} (h : c.rest = x :: r) :
    c.next? = some (x, c.advance (byteLength [x])) := by
  obtain ⟨hp, hr⟩ := advance_of_eq_append (c := c) (m := [x]) (r := r) h
  unfold next?
  split
  · rename_i hn
    rw [h] at hn
    cases hn
  · rename_i y r' hc
    rw [h] at hc
    cases hc
    exact congrArg (fun d => some (x, d)) (ext hp.symm hr.symm)

end Cursor

/-- The text that is being scanned, and those that have been suspended, the last one first. -/
structure Input where
  current : Cursor
  suspended : List Cursor

namespace Input

/-- The start of a text. -/
def ofString (text : String) : Input := ⟨.ofString text, []⟩

/-- The number of suspended texts. -/
def depth (i : Input) : Nat := i.suspended.length

/-- Suspends the current text in favour of another one. -/
def suspend (text : String) (i : Input) : Input := ⟨.ofString text, i.current :: i.suspended⟩

/-- Goes back to the text that was suspended last, if there is one. -/
def resume? (i : Input) : Option Input :=
  match i.suspended with
  | [] => none
  | c :: cs => some ⟨c, cs⟩

end Input

end Delimited.Scan
