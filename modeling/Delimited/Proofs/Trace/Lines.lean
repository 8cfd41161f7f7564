import Mathlib
import Delimited.Trace.Event

/-!
# Lines of a rendered trace

Everything in the description of an event is quoted, so that it stays on one line, but the name of the block, which is
written as it is. So a description has as many line feeds as this name (`Event.count_describe`), and a rendered trace
has one line for each event, and one more for each line feed in the name of a block (`length_splitOn_render`). Its lines
are the descriptions of the events just when no name has a line feed (`splitOn_render_iff`).
-/

namespace Delimited

/-! ### Texts without line feeds -/

private theorem newline_not_mem_toDigits {b : Nat} (hb : 1 < b) (n : Nat) : '\n' ∉ Nat.toDigits b n := by
  have hdigit : ∀ d, '\n' ∉ [Nat.digitChar d] := by simp
  induction n using Nat.strong_induction_on with
  | _ n ih =>
    rw [Nat.toDigits_eq_if hb]
    split
    · exact hdigit n
    · have hlt : n / b < n := Nat.div_lt_self (by omega) hb
      rw [List.mem_append]
      exact not_or_intro (ih _ hlt) (hdigit _)

private theorem count_toDigits (n : Nat) : (Nat.toDigits 10 n).count '\n' = 0 :=
  List.count_eq_zero.2 (newline_not_mem_toDigits (by decide) n)

/-- Inside quotes a line feed is an escape. -/
private theorem newline_not_mem_quotedChar {quote : Char} (hq : quote ≠ '\n') (c : Char) :
    '\n' ∉ quotedChar quote c := by
  have hhex : '\n' ∉ hexText c.toNat := newline_not_mem_toDigits (by decide) _
  unfold quotedChar
  split_ifs with _ _ _ hn
  case pos | pos | pos | pos | pos => decide
  · simp [hq.symm]
  · simpa using hhex
  · simpa [eq_comm] using hn

private theorem count_quoted (s : String) : (quoted s).toList.count '\n' = 0 := by
  rw [List.count_eq_zero, quoted, String.toList_ofList]
  simp only [List.mem_append, List.mem_cons, List.mem_flatMap, not_or]
  refine ⟨⟨by decide, ?_⟩, by decide, by simp⟩
  rintro ⟨c, -, hc⟩
  exact newline_not_mem_quotedChar (by decide) c hc

private theorem count_quotedSingle (c : Char) : (quotedSingle c).toList.count '\n' = 0 := by
  rw [List.count_eq_zero, quotedSingle, String.toList_ofList]
  simp only [List.mem_append, List.mem_cons, not_or]
  exact ⟨⟨by decide, newline_not_mem_quotedChar (by decide) c⟩, by decide, by simp⟩

/-! ### Descriptions -/

namespace Event

/-- The block that the event names. -/
def block? : Event → Option String
  | .char _ _ block => block
  | .enter _ block _ => block
  | .exit _ block _ => block
  | .escape _ block _ => block
  | .split _ block _ => block
  | .strip _ block _ => block
  | .reparse block _ _ => block
  | .resume _ _ => none

/-- The number of line feeds in the name of the block. -/
def lineFeeds (e : Event) : Nat := e.block?.elim 0 fun block => block.toList.count '\n'

/-- Apart from the name of the block, a description has no line feeds. -/
theorem count_describe (e : Event) : e.describe.toList.count '\n' = e.lineFeeds := by
  cases e with
  | exit offset block stop =>
    cases stop <;> simp [describe, lineFeeds, block?, count_toDigits, count_quoted]
  | _ => simp [describe, lineFeeds, block?, count_toDigits, count_quoted, count_quotedSingle]

end Event

/-! ### Lines -/

private theorem length_splitOn (text : List Char) : (text.splitOn '\n').length = text.count '\n' + 1 := by
  induction text with
  | nil => rfl
  | cons c text ih =>
    rw [List.splitOn_cons_eq_if_modifyHead, List.count_cons]
    split
    · rw [List.length_cons, ih]
    · rw [List.length_modifyHead, ih, Nat.add_zero]

/-- The lines of descriptions that are written one below the other are those of each of them. -/
private theorem splitOn_intercalate {lines : List (List Char)} (hne : lines ≠ []) :
    (['\n'].intercalate lines).splitOn '\n' = lines.flatMap (·.splitOn '\n') := by
  induction lines with
  | nil => exact absurd rfl hne
  | cons line lines ih =>
    cases lines with
    | nil => simp
    | cons next lines =>
      rw [List.intercalate_cons_cons, List.append_assoc, List.singleton_append, List.splitOn_append_cons_self,
        ih (List.cons_ne_nil next lines)]
      rfl

private theorem splitOn_render {events : List Event} (hne : events ≠ []) :
    (render events).toList.splitOn '\n' = events.flatMap (·.describe.toList.splitOn '\n') := by
  have hne : (events.map Event.describe).map String.toList ≠ [] := by simpa using hne
  rw [render, String.toList_intercalate]
  show (['\n'].intercalate _).splitOn '\n' = _
  rw [splitOn_intercalate hne, List.map_map, List.flatMap_map]
  rfl

/-- A rendered trace has one line for each event, and one more for each line feed in the name of a block. -/
theorem length_splitOn_render {events : List Event} (hne : events ≠ []) :
    ((render events).toList.splitOn '\n').length = events.length + (events.map Event.lineFeeds).sum := by
  rw [splitOn_render hne, List.length_flatMap]
  simp only [length_splitOn, Event.count_describe]
  rw [List.sum_map_add]
  simp [Nat.add_comm]

/-- The lines are the descriptions of the events just when there is no line feed in the name of a block. -/
theorem splitOn_render_iff {events : List Event} (hne : events ≠ []) :
    (render events).toList.splitOn '\n' = events.map (·.describe.toList) ↔
      ∀ e ∈ events, ∀ block ∈ e.block?, '\n' ∉ block.toList := by
  constructor
  · intro h e he block hb
    have hl := length_splitOn_render hne
    rw [h, List.length_map, Nat.left_eq_add] at hl
    have hz : e.lineFeeds = 0 := List.sum_eq_zero_iff.1 hl _ (List.mem_map_of_mem he)
    rw [Event.lineFeeds, Option.mem_def.1 hb] at hz
    exact List.count_eq_zero.1 hz
  · intro h
    have hz : ∀ e ∈ events, '\n' ∉ e.describe.toList := by
      intro e he
      rw [← List.count_eq_zero, Event.count_describe, Event.lineFeeds]
      cases hb : e.block? with
      | none => rfl
      | some block => exact List.count_eq_zero.2 (h e he block hb)
    rw [splitOn_render hne, List.map_eq_flatMap]
    exact List.flatMap_congr fun e he => List.splitOn_eq_singleton (hz e he)

end Delimited
