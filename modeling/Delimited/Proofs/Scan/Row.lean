import Mathlib.Data.List.Chain
import Delimited.Proofs.Scan.Arrival

/-!
# Rows of items

What has come to a block, as the items that its parts stand for. The splits divide it into segments. In a segment the
characters between two values are one fragment (`Segment`), so fragments are not empty and no two of them are next to
each other; but a segment to which nothing has come is one empty fragment if it is to be kept. A `Row` has the items of
all segments, with what is kept of each split behind the segment that it ends. Empty segments are kept in a row with a
split, unless the block ignores them.

`Draft` has the items as they are found: those of the segments that have ended, those of the last one, and the run of
characters that is not yet an item. Drafting what has come to a block gives a row (`row_draft`).
-/

namespace Delimited.Scan

/-- What a part of a block stands for, apart from its delimiters. -/
inductive Item where
  /-- A literal fragment. -/
  | fragment (text : String)
  /-- The value of a nested block. -/
  | value (p : Part)
  /-- What is kept of a split. -/
  | token (text : String)
deriving DecidableEq

namespace Item

/-- The item as a part. -/
def part : Item → Part
  | .fragment text => .text text
  | .value p => p
  | .token text => .text text

/-- What has to come to a block for the item. -/
def arrivals : Item → List Arrival
  | .fragment text => text.toList.map .char
  | .value p => [.value p]
  | .token _ => []

def isFragment : Item → Bool
  | .fragment _ => true
  | _ => false

def isToken : Item → Bool
  | .token _ => true
  | _ => false

end Item

/-! ### Segments and rows -/

/-- What has come to a block between two splits, as items. -/
structure Segment (kept : Bool) (raw : List Arrival) (items : List Item) : Prop where
  spells : items.flatMap Item.arrivals = raw
  not_isToken : ∀ i ∈ items, i.isToken = false
  apart : items.IsChain fun i j => ¬(i.isFragment = true ∧ j.isFragment = true)
  /-- To an empty segment nothing has come. -/
  of_nil : raw = [] → items = if kept then [.fragment ""] else []
  /-- Fragments are not empty in other segments. -/
  of_ne_nil : raw ≠ [] → .fragment "" ∉ items

/-- So many segments, each with the split that ends it. -/
inductive Segments (ignoreEmpty : Bool) : Nat → List Arrival → List Item → Prop
  | nil : Segments ignoreEmpty 0 [] []
  | snoc {k : Nat} {own raw : List Arrival} {items segment : List Item} (h : Segments ignoreEmpty k own items)
      (hs : Segment (!ignoreEmpty) raw segment) (token : Option String) :
      Segments ignoreEmpty (k + 1) (own ++ raw ++ [.split token]) (items ++ segment ++ token.toList.map .token)

/-- What has come to a block with so many splits, as items. -/
inductive Row (ignoreEmpty : Bool) (k : Nat) : List Arrival → List Item → Prop
  | mk {own raw : List Arrival} {items segment : List Item} (h : Segments ignoreEmpty k own items)
      (hs : Segment (decide (0 < k) && !ignoreEmpty) raw segment) : Row ignoreEmpty k (own ++ raw) (items ++ segment)

/-! ### Drafts -/

/-- The items of a block as far as they are known. -/
structure Draft where
  splits : Nat := 0
  /-- The items of the segments that have ended, and what is kept of the splits. -/
  ended : List Item := []
  /-- The items of the last segment. -/
  items : List Item := []
  /-- The characters that are not yet an item. -/
  run : List Char := []

namespace Draft

/-- Makes the run an item. An empty run is one only if the segment is to be kept and there is nothing else in it. -/
def endRun (kept : Bool) (t : Draft) : Draft :=
  if t.run ≠ [] ∨ kept = true ∧ t.items = [] then
    { t with items := t.items ++ [.fragment (String.ofList t.run)], run := [] }
  else t

/-- Adds a value. -/
def addValue (p : Part) (t : Draft) : Draft := { t with items := t.items ++ [.value p] }

/-- Ends the segment. -/
def endSegment (token : Option String) (t : Draft) : Draft :=
  { t with splits := t.splits + 1, ended := t.ended ++ t.items ++ token.toList.map .token, items := [] }

/-- Adds what comes to the block. -/
def add (ignoreEmpty : Bool) (t : Draft) : Arrival → Draft
  | .char c => { t with run := t.run ++ [c] }
  | .value p => (t.endRun false).addValue p
  | .split token => (t.endRun (!ignoreEmpty)).endSegment token

/-- The draft of all that has come to a block. -/
def ofArrivals (ignoreEmpty : Bool) (own : List Arrival) : Draft := own.foldl (add ignoreEmpty) {}

variable {ignoreEmpty : Bool} {t : Draft}

@[simp] theorem run_endRun (kept : Bool) (t : Draft) : (t.endRun kept).run = [] := by
  unfold endRun
  split
  · rfl
  · simp_all

@[simp] theorem splits_endRun (kept : Bool) (t : Draft) : (t.endRun kept).splits = t.splits := by
  unfold endRun; split <;> rfl

@[simp] theorem ended_endRun (kept : Bool) (t : Draft) : (t.endRun kept).ended = t.ended := by
  unfold endRun; split <;> rfl

theorem endRun_of_run (h : t.run = []) : t.endRun false = t := by
  simp [endRun, h]

theorem foldl_add_chars (m : List Char) (t : Draft) :
    (m.map Arrival.char).foldl (add ignoreEmpty) t = { t with run := t.run ++ m } := by
  induction m generalizing t with
  | nil => simp
  | cons c m ih => simp [ih, add]

theorem ofArrivals_append (own more : List Arrival) :
    ofArrivals ignoreEmpty (own ++ more) = more.foldl (add ignoreEmpty) (ofArrivals ignoreEmpty own) :=
  List.foldl_append

/-! ### Drafts of rows -/

/-- Items that a segment may start with, in front of the next character. -/
structure Tidy (items : List Item) : Prop where
  not_isToken : ∀ i ∈ items, i.isToken = false
  apart : items.IsChain fun i j => ¬(i.isFragment = true ∧ j.isFragment = true)
  not_empty : .fragment "" ∉ items
  last : ∀ i ∈ items.getLast?, i.isFragment = false

private theorem Tidy.nil : Tidy [] := ⟨by simp, .nil, by simp, by simp⟩

/-- For every item something has come to the block. -/
private theorem eq_nil_of_flatMap {items : List Item} (ht : ∀ i ∈ items, i.isToken = false)
    (he : .fragment "" ∉ items) (h : items.flatMap Item.arrivals = []) : items = [] := by
  refine List.eq_nil_iff_forall_not_mem.2 fun i hi => ?_
  have hnil : i.arrivals = [] := List.flatMap_eq_nil_iff.1 h i hi
  cases i with
  | fragment text =>
    obtain rfl : text = "" := by simpa [Item.arrivals] using hnil
    exact he hi
  | value p => cases hnil
  | token text => cases ht _ hi

/-- Ending the run makes a segment of the last items. -/
theorem segment_endRun (h : Tidy t.items) (kept : Bool) :
    Segment kept (t.items.flatMap Item.arrivals ++ t.run.map .char) (t.endRun kept).items := by
  by_cases hr : t.run = []
  · rw [hr, List.map_nil, List.append_nil]
    by_cases hi : t.items = []
    · have ht : (t.endRun kept).items = if kept then [.fragment ""] else [] := by
        cases kept <;> simp [endRun, hr, hi]
      rw [ht, hi]
      cases kept <;> constructor <;> simp [Item.arrivals, Item.isToken]
    · have ht : (t.endRun kept).items = t.items := by simp [endRun, hr, hi]
      rw [ht]
      exact ⟨rfl, h.not_isToken, h.apart, fun hn => absurd (eq_nil_of_flatMap h.not_isToken h.not_empty hn) hi,
        fun _ => h.not_empty⟩
  · have ht : (t.endRun kept).items = t.items ++ [.fragment (String.ofList t.run)] := by simp [endRun, hr]
    rw [ht]
    refine ⟨by simp [Item.arrivals], ?_, ?_, by simp [hr], ?_⟩
    · simpa [or_imp, forall_and, Item.isToken] using h.not_isToken
    · refine List.isChain_append.2 ⟨h.apart, List.isChain_singleton _, fun i hi j _ => ?_⟩
      rw [h.last i hi]
      simp
    · simpa [@eq_comm _ "", hr] using h.not_empty

/-- Behind a value a fragment may start. -/
theorem tidy_addValue (h : Tidy t.items) (p : Part) : Tidy ((t.endRun false).addValue p).items := by
  have hs := segment_endRun h false
  have he : .fragment "" ∉ (t.endRun false).items := by
    by_cases hn : t.items.flatMap Item.arrivals ++ t.run.map .char = []
    · simp [hs.of_nil hn]
    · exact hs.of_ne_nil hn
  refine ⟨?_, ?_, ?_, by simp [addValue, Item.isFragment]⟩
  · simpa [addValue, or_imp, forall_and, Item.isToken] using hs.not_isToken
  · exact List.isChain_append.2 ⟨hs.apart, List.isChain_singleton _, by simp [Item.isFragment]⟩
  · simpa [addValue] using he

/-- A draft of what has come to a block. -/
inductive Of (ignoreEmpty : Bool) : List Arrival → Draft → Prop
  | mk {t : Draft} {own : List Arrival} (h : Segments ignoreEmpty t.splits own t.ended) (ht : Tidy t.items) :
    Of ignoreEmpty (own ++ (t.items.flatMap Item.arrivals ++ t.run.map .char)) t

private theorem Of.add {own : List Arrival} (h : Of ignoreEmpty own t) (a : Arrival) :
    Of ignoreEmpty (own ++ [a]) (t.add ignoreEmpty a) := by
  cases h with
  | @mk _ own h ht =>
    cases a with
    | char c =>
      have hc := Of.mk (t := t.add ignoreEmpty (.char c)) h ht
      simpa [Draft.add] using hc
    | value p =>
      have hs := segment_endRun ht false
      have hv := Of.mk (t := t.add ignoreEmpty (.value p)) (by simpa [Draft.add, addValue] using h)
        (tidy_addValue ht p)
      simpa [Draft.add, addValue, hs.spells, Item.arrivals] using hv
    | split token =>
      have hs := h.snoc (segment_endRun ht (!ignoreEmpty)) token
      have hn := Of.mk (t := t.add ignoreEmpty (.split token)) (by simpa [Draft.add, endSegment] using hs) Tidy.nil
      simpa [Draft.add, endSegment] using hn

private theorem of_ofArrivals (ignoreEmpty : Bool) (own : List Arrival) :
    Of ignoreEmpty own (ofArrivals ignoreEmpty own) := by
  induction own using List.reverseRecOn with
  | nil => exact .mk (t := {}) .nil .nil
  | append_singleton own a ih =>
    rw [ofArrivals_append]
    exact ih.add a

/-- The draft with its last segment ended. -/
def finish (ignoreEmpty : Bool) (t : Draft) : Draft := t.endRun (decide (0 < t.splits) && !ignoreEmpty)

end Draft

/-- The items of a block to which this has come. -/
def rowItems (ignoreEmpty : Bool) (own : List Arrival) : List Item :=
  let t := (Draft.ofArrivals ignoreEmpty own).finish ignoreEmpty
  t.ended ++ t.items

/-- They are a row, with as many splits as there are. -/
theorem row_rowItems (ignoreEmpty : Bool) (own : List Arrival) :
    Row ignoreEmpty (Draft.ofArrivals ignoreEmpty own).splits own (rowItems ignoreEmpty own) := by
  have h := Draft.of_ofArrivals ignoreEmpty own
  unfold rowItems
  generalize Draft.ofArrivals ignoreEmpty own = t at h
  cases h with
  | mk h ht =>
    dsimp only [Draft.finish]
    rw [Draft.ended_endRun]
    exact .mk h (Draft.segment_endRun ht _)

end Delimited.Scan
