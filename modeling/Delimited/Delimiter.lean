/-!
# Delimiters

A `Delimiter` is a text that is not empty. Everything that a scan recognises literally is one, so recognising it always
makes progress.
-/

namespace Delimited

/-- A text that is not empty. -/
structure Delimiter where
  chars : List Char
  ne_nil : chars ≠ []
deriving DecidableEq

namespace Delimiter

/-- The delimiter with this text, unless the text is empty. -/
def ofString? (s : String) : Option Delimiter :=
  if h : s.toList = [] then none else some ⟨s.toList, h⟩

/-- The text of the delimiter. -/
def text (d : Delimiter) : String := String.ofList d.chars

/-- Whether a text starts with the delimiter. -/
def starts (d : Delimiter) (rest : List Char) : Bool := d.chars.isPrefixOf rest

theorem text_ne_empty (d : Delimiter) : d.text ≠ "" := by
  rw [text, ← String.ofList_nil, Ne, String.ofList_inj]
  exact d.ne_nil

theorem ofString?_eq_some_iff {s : String} {d : Delimiter} : ofString? s = some d ↔ d.text = s := by
  unfold ofString? text
  obtain ⟨chars, hne⟩ := d
  split
  · rename_i h
    rw [← String.toList_inj, String.toList_ofList, h]
    simp [hne]
  · rw [← String.toList_inj, String.toList_ofList]
    simp [eq_comm]

theorem ofString?_eq_none_iff {s : String} : ofString? s = none ↔ s = "" := by
  simp [ofString?]

end Delimiter

end Delimited
