import Mathlib.Data.List.Infix
import Delimited.Delimiter

/-!
# Pieces of a text

A delimiter cuts a text at its occurrences, which are taken from left to right and do not overlap. `Delimiter.pieces`
finds the pieces; `Delimiter.Cut` says what they are without looking for them, and no other pieces are as it says
(`cut_iff`). Joined with the delimiter the pieces give the text back (`Cut.intercalate`).
-/

namespace Delimited.Delimiter

variable {d : Delimiter} {text : List Char} {ps : List (List Char)}

/-- Behind every piece but the last stands the delimiter, which does not start earlier than there. In the last piece
it does not occur. -/
inductive Cut (d : Delimiter) : List Char → List (List Char) → Prop
  | last {text : List Char} (h : ¬d.chars <:+: text) : Cut d text [text]
  | cons {piece rest : List Char} {ps : List (List Char)}
      (h : ∀ m, m ≠ [] → m <:+ piece → ¬d.chars <+: m ++ (d.chars ++ rest)) (hrest : Cut d rest ps) :
      Cut d (piece ++ (d.chars ++ rest)) (piece :: ps)

/-- The pieces of a text. -/
def pieces (d : Delimiter) : List Char → List (List Char)
  | [] => [[]]
  | c :: r =>
    if d.starts (c :: r) then [] :: pieces d ((c :: r).drop d.chars.length) else (pieces d r).modifyHead (c :: ·)
termination_by text => text.length
decreasing_by
  · have := List.length_pos_iff.2 d.ne_nil
    simp only [List.length_drop, List.length_cons]
    omega
  · exact Nat.lt_succ_self _

theorem starts_iff {rest : List Char} : d.starts rest = true ↔ d.chars <+: rest := List.isPrefixOf_iff_prefix

theorem starts_append (rest : List Char) : d.starts (d.chars ++ rest) = true :=
  starts_iff.2 (List.prefix_append d.chars rest)

private theorem pieces_append (rest : List Char) : d.pieces (d.chars ++ rest) = [] :: d.pieces rest := by
  obtain ⟨c, r, hr⟩ := List.exists_cons_of_ne_nil (List.append_ne_nil_of_left_ne_nil d.ne_nil rest)
  have hs : d.starts (c :: r) = true := by rw [← hr]; exact starts_append rest
  rw [hr, pieces, if_pos hs, ← hr, List.drop_left]

private theorem pieces_cons {c : Char} {r : List Char} (h : ¬d.chars <+: c :: r) :
    d.pieces (c :: r) = (d.pieces r).modifyHead (c :: ·) := by
  rw [pieces, if_neg (by rwa [starts_iff])]

/-- In front of a text where the delimiter does not start, a character belongs to the first piece. -/
theorem Cut.push {c : Char} (h : d.Cut text ps) (hc : ¬d.chars <+: c :: text) :
    d.Cut (c :: text) (ps.modifyHead (c :: ·)) := by
  cases h with
  | last h => exact .last (by rw [List.infix_cons_iff]; exact not_or_intro hc h)
  | @cons piece rest ps h hrest =>
    have hpiece : ∀ m, m ≠ [] → m <:+ c :: piece → ¬d.chars <+: m ++ (d.chars ++ rest) := by
      intro m hne hm
      rcases List.suffix_cons_iff.1 hm with rfl | hm
      · exact hc
      · exact h m hne hm
    exact .cons hpiece hrest

theorem cut_pieces (d : Delimiter) (text : List Char) : d.Cut text (d.pieces text) := by
  fun_induction pieces with
  | case1 => exact .last (by simp [d.ne_nil])
  | case2 c r hs ih =>
    obtain ⟨rest, hrest⟩ := starts_iff.1 hs
    rw [← hrest, List.drop_left] at ih ⊢
    have hpiece : ∀ m, m ≠ [] → m <:+ [] → ¬d.chars <+: m ++ (d.chars ++ rest) :=
      fun m hne hm => absurd (List.suffix_nil.1 hm) hne
    exact .cons hpiece ih
  | case3 c r hs ih => exact ih.push (by rwa [← starts_iff])

/-- The pieces are the only ones. -/
theorem Cut.eq_pieces (h : d.Cut text ps) : d.pieces text = ps := by
  induction h with
  | @last text h =>
    induction text with
    | nil => rw [pieces]
    | cons c r ih =>
      rw [List.infix_cons_iff, not_or] at h
      rw [pieces_cons h.1, ih h.2]
      rfl
  | @cons piece rest ps h _ ih =>
    induction piece with
    | nil => rw [List.nil_append, pieces_append, ih]
    | cons c piece ihp =>
      have hc : ¬d.chars <+: c :: (piece ++ (d.chars ++ rest)) := h (c :: piece) (by simp) List.suffix_rfl
      have hp := ihp fun m hne hm => h m hne (hm.trans (List.suffix_cons c piece))
      rw [List.cons_append, pieces_cons hc, hp]
      rfl

/-- There is one cut of a text. -/
theorem cut_iff : d.Cut text ps ↔ d.pieces text = ps := by
  refine ⟨Cut.eq_pieces, ?_⟩
  rintro rfl
  exact cut_pieces d text

private theorem Cut.ne_nil (h : d.Cut text ps) : ps ≠ [] := by
  cases h <;> simp

/-- Joined with the delimiter, the pieces give the text back. -/
theorem Cut.intercalate (h : d.Cut text ps) : d.chars.intercalate ps = text := by
  induction h with
  | last => simp
  | @cons piece rest ps _ hrest ih =>
    obtain ⟨p, ps, rfl⟩ := List.exists_cons_of_ne_nil hrest.ne_nil
    rw [List.intercalate_cons_cons, ih, List.append_assoc]

end Delimited.Delimiter
