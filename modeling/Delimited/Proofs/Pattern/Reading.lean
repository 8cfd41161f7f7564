import Delimited.Pattern

/-!
# Reading step by step

One equation for each step of `Reader.run`: at the end, at a literal, and at any other character. What is read for the
source of a pattern begins with the anchor and a group, and the rest is read inside of this group
(`Reader.run_anchoredSource`).
-/

namespace Delimited.Pattern.Reader

variable {st st' : Reader} {s r r' : List Char} {c : Char}

/-- At the end of a source all groups have to be closed. -/
theorem run_end (hs : skip st.verbose s = []) : st.run s = if st.opened.isEmpty then some st.level.expr else none := by
  rw [Reader.run]
  split
  · rfl
  · rename_i h
    cases hs.symm.trans h

/-- What is read at a character is told by its construct. -/
private theorem run_cons (hs : skip st.verbose s = c :: r) :
    st.run s =
      match construct? c with
      | none => (st.push (.literal ⟨c, false⟩)).run r
      | some read =>
        match read st r with
        | none => none
        | some (st', r') => st'.run (tailOf r r') := by
  rw [Reader.run]
  split
  · rename_i h
    cases hs.symm.trans h
  · rename_i h
    obtain ⟨rfl, rfl⟩ := List.cons.inj (hs.symm.trans h)
    rfl

/-- A character that is no construct stands for itself. -/
theorem run_literal (hs : skip st.verbose s = c :: r) (hc : construct? c = none) :
    st.run s = (st.push (.literal ⟨c, false⟩)).run r := by
  rw [run_cons hs, hc]

variable {read : Reader → List Char → Option (Reader × List Char)}

/-- A reader goes on behind what a character has made it read, as far as that is of the text. -/
theorem run_read (hs : skip st.verbose s = c :: r) (hc : construct? c = some read)
    (hr : read st r = some (st', r')) : st.run s = st'.run (tailOf r r') := by
  simp only [run_cons hs, hc, hr]

/-- A reader goes on behind what a character has made it read. -/
theorem run_construct (hs : skip st.verbose s = c :: r) (hc : construct? c = some read)
    (hr : read st r = some (st', r')) (ht : tailOf r r' = r') : st.run s = st'.run r' := by
  rw [run_read hs hc hr, ht]

/-- A reader stops where nothing can be read. -/
theorem run_stuck (hs : skip st.verbose s = c :: r) (hc : construct? c = some read) (hr : read st r = none) :
    st.run s = none := by
  simp only [run_cons hs, hc, hr]

/-- The reader with the anchor and an open group around all that it has read. -/
def inside (st : Reader) : Reader :=
  { st with opened := st.opened ++ [({ items := [.anchor .lineStart] }, .plain [], false)] }

/-- The source of a pattern is read inside of a group that follows the anchor, up to a closing parenthesis. -/
theorem run_anchoredSource (source : String) :
    Reader.run {} (anchoredSource source) = (inside {}).run (source.toList ++ [')']) := by
  have h : Reader.run {} (anchoredSource source) =
      (Reader.push {} (.anchor .lineStart)).run ('(' :: '?' :: ':' :: (source.toList ++ [')'])) :=
    run_construct rfl rfl rfl (tailOf_self _)
  exact h.trans (run_construct rfl rfl rfl (tailOf_append ['?', ':'] _))

end Delimited.Pattern.Reader
