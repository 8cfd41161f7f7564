import Mathlib
import Delimited.Proofs.Pattern.Wrapping

/-!
# Escaped texts

A text becomes the source of a pattern when a backslash is put in front of each of its characters that have a meaning in
patterns. What is read for it is the anchor and the characters of the text, each one as it is (`node?_escaped`). Whether
the pattern is accepted depends on nothing but the length of the text (`ofSource_escaped`).
-/

namespace Delimited.Pattern

/-- A character with a backslash in front of it if it has a meaning in patterns. -/
def escapedChar (c : Char) : List Char := if metaChars.contains c then ['\\', c] else [c]

/-- The text with a backslash in front of each character that has a meaning in patterns. -/
def escaped (text : String) : String := String.ofList (text.toList.flatMap escapedChar)

/-! ### Reading -/

private theorem readEscape_of_meta {c : Char} (h : metaChars.contains c = true) (r : List Char) :
    readEscape false (c :: r) = some (.literal ⟨c, false⟩, r) := by
  have hm : c ∈ metaChars := List.contains_iff_mem.1 h
  simp only [metaChars, List.mem_cons, List.not_mem_nil, or_false] at hm
  rcases hm with rfl | rfl | rfl | rfl | rfl | rfl | rfl | rfl | rfl | rfl | rfl | rfl | rfl | rfl | rfl | rfl | rfl | rfl
  all_goals rfl

private theorem construct?_of_not_meta {c : Char} (h : metaChars.contains c = false) : construct? c = none := by
  unfold construct?
  split
  case h_13 => rfl
  all_goals exact absurd h (by decide)

namespace Reader

variable {st : Reader}

/-- The reader behind characters that stand for themselves. -/
def spell (st : Reader) (cs : List Char) : Reader := cs.foldl (fun st c => st.push (.literal ⟨c, false⟩)) st

/-- An escaped character stands for itself. -/
theorem run_escapedChar (hv : st.verbose = false) (c : Char) (r : List Char) :
    st.run (escapedChar c ++ r) = (st.push (.literal ⟨c, false⟩)).run r := by
  unfold escapedChar
  split
  · rename_i h
    have hr : construct? '\\' =
        some fun st r => (readEscape st.verbose r).map fun x => (st.push x.1, x.2) := rfl
    refine run_construct (by rw [hv]; rfl) hr ?_ (tailOf_append [c] r)
    show (readEscape st.verbose (c :: r)).map _ = _
    rw [hv, readEscape_of_meta h]
    rfl
  · rename_i h
    exact run_literal (by rw [hv]; rfl) (construct?_of_not_meta (by simpa using h))

private theorem run_escaped (hv : st.verbose = false) (cs r : List Char) :
    st.run (cs.flatMap escapedChar ++ r) = (st.spell cs).run r := by
  induction cs generalizing st with
  | nil => rfl
  | cons c cs ih =>
    rw [List.flatMap_cons, List.append_assoc, run_escapedChar hv]
    exact ih hv

private theorem spell_eq (st : Reader) (cs : List Char) : st.spell cs =
    { st with level := { st.level with items := (cs.map fun c => .literal ⟨c, false⟩).reverse ++ st.level.items } } := by
  induction cs generalizing st with
  | nil => rfl
  | cons c cs ih =>
    refine (ih _).trans ?_
    simp [push]

end Reader

/-- What is read for an escaped text: its characters in a group behind the anchor. -/
theorem read?_escaped (text : String) : Expr.read? (anchoredSource (escaped text)) =
    some (Expr.ofItems (text.toList.map fun c => .literal ⟨c, false⟩)).wrapped := by
  have hrun : Reader.run {} (anchoredSource (escaped text)) =
      some (Expr.ofItems (text.toList.map fun c => .literal ⟨c, false⟩)).wrapped := by
    rw [Reader.run_anchoredSource, escaped, String.toList_ofList, Reader.run_escaped rfl, Reader.spell_eq]
    refine (Reader.run_construct rfl rfl rfl (tailOf_self _)).trans ((Reader.run_end rfl).trans ?_)
    simp [Reader.inside, Level.expr, Expr.ofItems, Expr.ofBranches, Expr.wrapped]
  have hdepth : ∀ cs : List Char, (Expr.ofItems (cs.map fun c => .literal ⟨c, false⟩)).depth ≤ 1 := by
    intro cs
    have hall : Expr.depthAll (cs.map fun c => .literal ⟨c, false⟩) = 0 := by
      induction cs with
      | nil => rfl
      | cons c cs ih => simp [Expr.depthAll, Expr.depth, ih]
    rcases cs with _ | ⟨c, _ | ⟨c', cs⟩⟩
    · exact Nat.zero_le 1
    · exact Nat.zero_le 1
    · simp only [List.map_cons, Expr.ofItems, Expr.depth] at hall ⊢; omega
  unfold Expr.read?
  rw [hrun, Option.filter_some, if_pos]
  have h := hdepth text.toList
  refine decide_eq_true ?_
  simp only [Expr.wrapped, Expr.depth, Expr.depthAll, depthLimit]
  omega

/-! ### The node -/

namespace Node

/-- Characters one after the other. -/
def chain : List Char → Node
  | [] => .empty
  | c :: cs => .seq (.set (.ofChar c)) (chain cs)

/-- A text; a single character stands for itself. -/
def text : List Char → Node
  | [c] => .set (.ofChar c)
  | cs => chain cs

end Node

/-- An escaped text stands for the text at the start. -/
theorem node?_escaped (text : String) : node? (escaped text) = some (Node.text text.toList).wrapped := by
  have hone : ∀ c : Char, Expr.node? {} (.literal ⟨c, false⟩) = some (.set (.ofChar c), {}) := fun _ => rfl
  have hseq : ∀ cs : List Char, Expr.seqNode? {} (cs.map fun c => .literal ⟨c, false⟩) = some (.chain cs, {}) := by
    intro cs
    induction cs with
    | nil => rfl
    | cons c cs ih =>
      simp only [List.map_cons, Expr.seqNode?, hone, Option.bind_eq_bind, Option.bind_some, ih]
      rfl
  have htext : ∀ cs : List Char,
      Expr.node? {} (.ofItems (cs.map fun c => .literal ⟨c, false⟩)) = some (.text cs, {}) := by
    intro cs
    rcases cs with _ | ⟨c, _ | ⟨c', cs⟩⟩
    · rfl
    · rfl
    · exact hseq (c :: c' :: cs)
  unfold node?
  rw [read?_escaped, Option.bind_eq_bind, Option.bind_some, Expr.node?_wrapped, htext]
  rfl

/-! ### Storage -/

namespace Node

private theorem form_ofChar (c : Char) : Node.form (.set (.ofChar c)) = .text [c] :=
  (congrArg (fun e => Form.ofBranches [e]) (Form.ofSet_ofChar c)).trans (Form.ofBranches_single rfl)

private theorem form_chain {cs : List Char} (h : cs ≠ []) : (chain cs).form = .text cs := by
  induction cs with
  | nil => exact absurd rfl h
  | cons c cs ih =>
    have hform : (chain (c :: cs)).form = .ofBranches [.append (Node.form (.set (.ofChar c))) (chain cs).form] := rfl
    rw [hform, form_ofChar]
    cases cs with
    | nil => exact Form.ofBranches_single rfl
    | cons c' cs => rw [ih (by simp)]; exact Form.ofBranches_single rfl

private theorem form_text {cs : List Char} (h : cs ≠ []) : (text cs).form = .text cs := by
  rcases cs with _ | ⟨c, _ | ⟨c', cs⟩⟩
  · exact absurd rfl h
  · exact form_ofChar c
  · exact form_chain h

/-- What is stored for a text at the start. -/
theorem form_wrapped_text {cs : List Char} (h : cs ≠ []) :
    (text cs).wrapped.form = .sequence [.look .textStart, .text cs] := by
  have hgroup : (Node.group (text cs)).form = .text cs := by
    have hg : (Node.group (text cs)).form = .ofBranches [(text cs).form] := rfl
    rw [hg, form_text h]
    exact Form.ofBranches_single rfl
  have hseq : (Node.seq (.group (text cs)) .empty).form = .text cs := by
    have hs : (Node.seq (.group (text cs)) .empty).form =
        .ofBranches [.append (Node.group (text cs)).form Node.empty.form] := rfl
    rw [hs, hgroup]
    exact Form.ofBranches_single rfl
  have ha : (text cs).wrapped.form =
      .ofBranches [.append (Node.form (.look .textStart)) (Node.seq (.group (text cs)) .empty).form] := rfl
  rw [ha, hseq]
  exact Form.ofBranches_single rfl

private theorem anchoredAtEnd_text (cs : List Char) : (text cs).anchoredAtEnd = false := by
  have hchain : ∀ cs, (chain cs).anchoredAtEnd = false := by
    intro cs
    induction cs with
    | nil => rfl
    | cons c cs ih => simp [chain, anchoredAtEnd, ih]
  rcases cs with _ | ⟨c, _ | ⟨c', cs⟩⟩
  · rfl
  · rfl
  · exact hchain _

/-- Both automata of a text at the start have a state for each byte, and a few more. -/
theorem fits_wrapped_text (cs : List Char) (h : cs ≠ []) :
    (text cs).wrapped.fits = true ↔ 32 * (byteLength cs + 5) + 16 ≤ storageLimit := by
  have hstart : (text cs).wrapped.anchored = true := rfl
  have hend : (text cs).wrapped.anchoredAtEnd = false := by simp [wrapped, anchoredAtEnd, anchoredAtEnd_text]
  unfold fits stored?
  simp only [hstart, hend, form_wrapped_text h, Form.store, Form.storeItems, storeBegin, Option.bind_eq_bind,
    Option.pure_def, Option.bind_assoc, Option.bind_some, Stored.waysOn, if_true, Bool.false_eq_true, if_false, Bool.and_eq_true,
    Tally.isSome_bind_add, Tally.isSome_add, Tally.bytes, Tally.forWays, Tally.forRanges, storageLimit]
  omega

end Node

/-! ### Patterns -/

/-- The pattern of an escaped text. -/
def ofText (text : String) : Pattern := ⟨escaped text, (Node.text text.toList).wrapped.program⟩

/-- Escaped, a text is the source of a pattern, unless it is too long. -/
theorem ofSource_escaped {text : String} (h : text ≠ "") : ofSource (escaped text) =
    if 32 * (byteLength text.toList + 5) + 16 ≤ storageLimit then .ok (ofText text) else .error .tooLarge := by
  have hfits := Node.fits_wrapped_text text.toList (by simpa using h)
  unfold ofSource
  rw [node?_escaped]
  exact if_congr hfits rfl rfl

end Delimited.Pattern
