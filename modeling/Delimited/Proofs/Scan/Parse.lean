import Mathlib
import Delimited.Proofs.Scan.Run
import Delimited.Proofs.Scan.Segments

/-!
# What a text is read as

Without handlers a scan reads its text once, from the start to the end, and every block in it as a list of pieces: runs
of text, splits, nested blocks, and gaps where a segment is empty and kept. `Reads` says which pieces these are, move by
move; a nested block is read by itself, from behind its start, so `Reads` knows nothing of the blocks around it.
`blockValue` says what becomes of the pieces.

A scan gives what becomes of the pieces that its text is read as (`reads_of_result`). While it runs, the parts of the
active block are those of its pieces in front of the run (`OpenBlock.Holds`), and the parts of the blocks around it are
those of all of their pieces (`OpenBlock.Settled`).
-/

namespace Delimited.Scan

variable {C : Type} {n : Nat}

/-- A piece of what a block is read as. -/
inductive Piece (n : Nat) where
  /-- A run of text. -/
  | run (text : String)
  /-- A segment to which nothing has come, and which is kept. -/
  | gap
  /-- A split, with what is kept of it. -/
  | split (m : RuleMatch) (token : Option String)
  /-- A nested block, with the stop that it has been closed at. -/
  | block (slot : Fin n) (pieces : List (Piece n)) (stop : Option Delimiter)

namespace Piece

def isRun : Piece n → Bool
  | .run _ => true
  | _ => false

def isSplit : Piece n → Bool
  | .split .. => true
  | _ => false

end Piece

/-! ### Pieces that follow each other -/

/-- Text goes on with the run at the end, or starts one there. -/
def addRun (text : String) (pieces : List (Piece n)) : List (Piece n) :=
  match pieces.getLast? with
  | some (.run r) => pieces.dropLast ++ [.run (r ++ text)]
  | _ => pieces ++ [.run text]

/-- Whether nothing has come to the last segment. -/
def atSegmentStart (pieces : List (Piece n)) : Bool := pieces.getLast?.all Piece.isSplit

/-- Whether an empty segment ends behind the pieces. One that is not next to a split is no segment of its own. -/
def endsGap (pieces : List (Piece n)) : Boundary → Bool
  | .block => false
  | .split => atSegmentStart pieces
  | .stop => atSegmentStart pieces && !pieces.isEmpty

/-- The pieces up to a boundary, with the segment that it ends if that is empty and kept. -/
def cut (ignoreEmpty : Bool) (k : Boundary) (pieces : List (Piece n)) : List (Piece n) :=
  if endsGap pieces k && !ignoreEmpty then pieces ++ [.gap] else pieces

@[simp] theorem cut_block (ignoreEmpty : Bool) (pieces : List (Piece n)) : cut ignoreEmpty .block pieces = pieces := by
  simp [cut, endsGap]

/-! ### What becomes of pieces -/

mutual

/-- The parts that a piece becomes. -/
def Piece.parts (g : Grammar C) : Piece g.size → List Part
  | .run text => [.text text]
  | .gap => [.text ""]
  | .split _ token => token.toList.map .text
  | .block slot pieces stop =>
    [.assemble ((g.spec slot).keptDelimiter (g.spec slot).start ++ partsAll g pieces ++
      (g.spec slot).keptDelimiter stop)]

/-- The parts that pieces become, in order. -/
def partsAll (g : Grammar C) : List (Piece g.size) → List Part
  | [] => []
  | x :: pieces => x.parts g ++ partsAll g pieces

end

@[simp] theorem partsAll_append (g : Grammar C) (xs ys : List (Piece g.size)) :
    partsAll g (xs ++ ys) = partsAll g xs ++ partsAll g ys := by
  induction xs with
  | nil => rfl
  | cons x xs ih => rw [List.cons_append, partsAll, partsAll, ih, List.append_assoc]

@[simp] theorem partsAll_singleton (g : Grammar C) (x : Piece g.size) : partsAll g [x] = x.parts g := by
  simp [partsAll]

/-- The parts of a block that is read as the pieces and is closed at the stop. -/
def blockParts (g : Grammar C) (s : Spec C g.size) (pieces : List (Piece g.size)) (stop : Option Delimiter) :
    List Part :=
  s.keptDelimiter s.start ++ partsAll g pieces ++ s.keptDelimiter stop

/-- What becomes of a block. -/
def blockValue (g : Grammar C) (s : Spec C g.size) (pieces : List (Piece g.size)) (stop : Option Delimiter) : Part :=
  .assemble (blockParts g s pieces stop)

theorem parts_block (g : Grammar C) (slot : Fin g.size) (pieces : List (Piece g.size)) (stop : Option Delimiter) :
    (Piece.block slot pieces stop).parts g = [blockValue g (g.spec slot) pieces stop] := by
  rw [Piece.parts]
  rfl

/-! ### Reading -/

/-- A block is closed in front of a text: at its stop, or at the end of the text if open blocks are closed there. The
rest is what is left behind it. -/
inductive Closes (g : Grammar C) (u : Unterminated) (s : Spec C g.size) :
    List Char → Option Delimiter → List Char → Prop
  | stop {d : Delimiter} {rest : List Char} (hm : nextMove g s (d.chars ++ rest) = .close d) :
    Closes g u s (d.chars ++ rest) (some d) rest
  | atEnd (hu : u = .close) : Closes g u s [] none []

/-- From a text to what is left of it, a block is read as the pieces. -/
inductive Reads (g : Grammar C) (u : Unterminated) :
    Spec C g.size → List Char → List (Piece g.size) → List Char → Prop
  | nil (s : Spec C g.size) (text : List Char) : Reads g u s text [] text
  | char {s : Spec C g.size} {text : List Char} {pieces : List (Piece g.size)} {c : Char} {rest : List Char}
    (h : Reads g u s text pieces (c :: rest)) (hm : nextMove g s (c :: rest) = .char) :
    Reads g u s text (addRun (String.ofList [c]) pieces) rest
  | escape {s : Spec C g.size} {text : List Char} {pieces : List (Piece g.size)} {escaped literal : Delimiter}
    {rest : List Char} (h : Reads g u s text pieces (escaped.chars ++ rest))
    (hm : nextMove g s (escaped.chars ++ rest) = .escape escaped literal) :
    Reads g u s text (addRun literal.text pieces) rest
  | strip {s : Spec C g.size} {text : List Char} {pieces : List (Piece g.size)} {m : RuleMatch} {rest : List Char}
    (h : Reads g u s text pieces (m.whole ++ rest)) (hm : nextMove g s (m.whole ++ rest) = .strip m) :
    Reads g u s text pieces rest
  | split {s : Spec C g.size} {text : List Char} {pieces : List (Piece g.size)} {m : RuleMatch} {token : Option String}
    {rest : List Char} (h : Reads g u s text pieces (m.whole ++ rest))
    (hm : nextMove g s (m.whole ++ rest) = .split m token) :
    Reads g u s text (cut s.ignoreEmpty .split pieces ++ [.split m token]) rest
  | block {s : Spec C g.size} {text : List Char} {pieces nested : List (Piece g.size)} {name : String}
    {slot : Fin g.size} {start : Delimiter} {stop : Option Delimiter} {inner behind rest : List Char}
    (h : Reads g u s text pieces (start.chars ++ inner))
    (hm : nextMove g s (start.chars ++ inner) = .enter name slot start)
    (hn : Reads g u (g.spec slot) inner nested behind) (hc : Closes g u (g.spec slot) behind stop rest) :
    Reads g u s text (pieces ++ [.block slot (cut (g.spec slot).ignoreEmpty .stop nested) stop]) rest

/-- A whole text is read as the pieces of the root, at the end of which it is cut. -/
def ReadsAs (g : Grammar C) (u : Unterminated) (text : List Char) (pieces : List (Piece g.size)) : Prop :=
  ∃ read, Reads g u g.root text read [] ∧ pieces = cut g.root.ignoreEmpty .stop read

/-! ### Blocks and their pieces -/

namespace OpenBlock

/-- The piece that the run of a block is going to be. -/
def pending (b : OpenBlock C n) : List (Piece n) := if b.run = "" then [] else [.run b.run]

private theorem pending_of_run {b : OpenBlock C n} (h : b.run = "") : b.pending = [] := if_pos h

/-- The parts of the active block are those of the pieces in front of its run. -/
structure Holds (g : Grammar C) (b : OpenBlock C g.size) (done : List (Piece g.size)) : Prop where
  parts : b.parts.toList = b.spec.keptDelimiter b.spec.start ++ partsAll g done
  last : ∀ x ∈ done.getLast?, x.isRun = false
  hasValue : b.hasValue = !atSegmentStart done
  hasSplit : b.hasSplit = done.any Piece.isSplit

/-- The parts of a block without a run are those of all of its pieces. -/
structure Settled (g : Grammar C) (b : OpenBlock C g.size) (pieces : List (Piece g.size)) : Prop where
  run : b.run = ""
  parts : b.parts.toList = b.spec.keptDelimiter b.spec.start ++ partsAll g pieces
  hasSplit : b.hasSplit = pieces.any Piece.isSplit

section

variable {g : Grammar C} {b : OpenBlock C g.size} {done pieces : List (Piece g.size)}

private theorem Holds.root {s : Spec C g.size} (h : s.start = none) : (OpenBlock.root s).Holds g [] :=
  ⟨by simp [OpenBlock.root, Spec.keptDelimiter, h, partsAll], by simp, rfl, rfl⟩

theorem Holds.enter (name : String) {s : Spec C g.size} (i : Nat) {start : Delimiter} (h : s.start = some start) :
    ((OpenBlock.enter name s i start).goOnAt 0).Holds g [] := by
  refine ⟨?_, by simp, rfl, rfl⟩
  by_cases hk : s.keepDelimiters <;> simp [OpenBlock.enter, goOnAt, Spec.keptDelimiter, h, hk, partsAll]

theorem Holds.addText (h : b.Holds g done) (text : String) : (b.addText text).Holds g done :=
  ⟨h.parts, h.last, h.hasValue, h.hasSplit⟩

/-- The run is the last piece, if it is not empty. -/
theorem Holds.append_pending (h : b.Holds g done) {text : String} (ht : text ≠ "") :
    done ++ (b.addText text).pending = addRun text (done ++ b.pending) := by
  have hne : b.run ++ text ≠ "" := by simp [ht]
  have hp : (b.addText text).pending = [.run (b.run ++ text)] := if_neg hne
  rw [hp]
  by_cases hr : b.run = ""
  · rw [pending_of_run hr, List.append_nil, hr, String.empty_append]
    unfold addRun
    split
    · rename_i r hl
      cases h.last _ hl
    · rfl
  · have hb : b.pending = [.run b.run] := if_neg hr
    simp [hb, addRun]

/-- Nothing has come to the last segment of a block that has been split just when the last piece is a split. -/
private theorem any_isSplit (h : atSegmentStart pieces = true) : pieces.any Piece.isSplit = !pieces.isEmpty := by
  cases hl : pieces.getLast? with
  | none =>
    rw [List.getLast?_eq_none_iff.1 hl]
    rfl
  | some x =>
    have hx : x.isSplit = true := by simpa [atSegmentStart, hl] using h
    have hm : x ∈ pieces := List.mem_of_getLast? hl
    rw [List.any_eq_true.2 ⟨x, hm, hx⟩]
    cases pieces with
    | nil => cases hm
    | cons y pieces => rfl

/-- A block whose run is empty leaves a gap just when its pieces do. -/
theorem Holds.endsEmptySegment_eq (h : b.Holds g done) (k : Boundary) : b.endsEmptySegment k = endsGap done k := by
  cases k with
  | block => rfl
  | split => simp [endsEmptySegment, endsGap, h.hasValue]
  | stop =>
    simp only [endsEmptySegment, endsGap, h.hasValue, h.hasSplit, Bool.not_not]
    by_cases ha : atSegmentStart done = true
    · rw [any_isSplit ha]
    · simp [ha]

/-- Where the run of the active block ends it has become a piece. -/
theorem Holds.endRun (h : b.Holds g done) (k : Boundary) :
    (b.endRun k).Settled g (cut b.spec.ignoreEmpty k (done ++ b.pending)) := by
  by_cases hr : b.run = ""
  · rw [pending_of_run hr, List.append_nil]
    have hf : b.fragment? k =
        if endsGap done k && !b.spec.ignoreEmpty then some ("", { b with run := "" }) else none := by
      simp [fragment?, hr, h.endsEmptySegment_eq]
    unfold OpenBlock.endRun cut
    by_cases hgap : (endsGap done k && !b.spec.ignoreEmpty) = true
    · -- an empty fragment for the gap
      rw [hf, if_pos hgap, if_pos hgap]
      exact ⟨rfl, by simp [addValue, h.parts, Piece.parts], by simp [addValue, h.hasSplit, Piece.isSplit]⟩
    · rw [hf, if_neg hgap, if_neg hgap]
      exact ⟨hr, h.parts, h.hasSplit⟩
  · have hb : b.pending = [.run b.run] := if_neg hr
    have hf : b.fragment? k = some (b.run, { b with run := "" }) := by simp [fragment?, hr]
    have hgap : endsGap (done ++ [.run b.run]) k = false := by cases k <;> simp [endsGap, atSegmentStart, Piece.isSplit]
    unfold OpenBlock.endRun cut
    rw [hf, hb, hgap]
    exact ⟨rfl, by simp [addValue, h.parts, Piece.parts], by simp [addValue, h.hasSplit, Piece.isSplit]⟩

/-- The end of a run that is empty changes nothing in front of a nested block. -/
theorem Settled.endRun_block (h : b.Settled g pieces) : b.endRun .block = b := by
  have hf : b.fragment? .block = none := by simp [fragment?, h.run, endsEmptySegment]
  unfold OpenBlock.endRun
  rw [hf]

/-- A nested block becomes a piece when its value is added. -/
theorem Settled.addValue (h : b.Settled g pieces) (slot : Fin g.size) (nested : List (Piece g.size))
    (stop : Option Delimiter) :
    (b.addValue (blockValue g (g.spec slot) nested stop)).Holds g (pieces ++ [.block slot nested stop]) := by
  refine ⟨?_, by simp [Piece.isRun], ?_, ?_⟩
  · simp [OpenBlock.addValue, h.parts, parts_block]
  · simp [OpenBlock.addValue, atSegmentStart, Piece.isSplit]
  · simp [OpenBlock.addValue, h.hasSplit, Piece.isSplit]

private theorem Settled.endSegment (h : b.Settled g pieces) (m : RuleMatch) (token : Option String) :
    (b.addKept token).endSegment.Holds g (pieces ++ [.split m token]) := by
  refine ⟨?_, by simp [Piece.isRun], ?_, ?_⟩
  · cases token <;> simp [addKept, addToken, OpenBlock.endSegment, h.parts, Piece.parts]
  · simp [OpenBlock.endSegment, atSegmentStart, Piece.isSplit]
  · simp [OpenBlock.endSegment, Piece.isSplit]

private theorem Settled.result_addStop (h : b.Settled g pieces) (stop : Option Delimiter) :
    (b.addStop stop).result = blockValue g b.spec pieces stop := by
  unfold result blockValue blockParts
  rw [parts_addStop, h.parts]

end

end OpenBlock

/-! ### Situations and what they have read -/

/-- The blocks around one that is read from the text have been read up to there. -/
inductive Surrounds (g : Grammar C) (u : Unterminated) (text : List Char) :
    Spec C g.size → List Char → List (OpenBlock C g.size) → Prop
  | root : Surrounds g u text g.root text []
  | nest {b : OpenBlock C g.size} {before inner : List Char} {around : List (OpenBlock C g.size)}
    {pieces : List (Piece g.size)} {name : String} {slot : Fin g.size} {start : Delimiter}
    (ha : Surrounds g u text b.spec before around) (hb : b.Settled g pieces)
    (hr : Reads g u b.spec before pieces (start.chars ++ inner))
    (hm : nextMove g b.spec (start.chars ++ inner) = .enter name slot start) :
    Surrounds g u text (g.spec slot) inner (b :: around)

/-- The open blocks are read as the pieces that their parts come from, up to what is left of the text. -/
structure Situation.Follows (g : Grammar C) (u : Unterminated) (text : List Char) (s : Situation C g.size) : Prop where
  suspended : s.suspended = []
  reads : ∃ before done, Surrounds g u text s.active.spec before s.around ∧ s.active.Holds g done ∧
    Reads g u s.active.spec before (done ++ s.active.pending) s.text.rest

section

variable {g : Grammar C} {o : Options} {u : Unterminated} {text : List Char} {s t : Situation C g.size} {c c' : C}

theorem Surrounds.handler {spec : Spec C g.size} {before : List Char} {around : List (OpenBlock C g.size)}
    (h : Surrounds g u text spec before around) (hg : ∀ slot, (g.spec slot).handler = none) : spec.handler = none := by
  cases h with
  | root => exact hg g.rootSlot
  | nest => exact hg _

/-- What is left behind a text that stands at the start. -/
private theorem rest_skip_of_eq {l : Left} {m rest : List Char} (h : l.rest = m ++ rest) : (l.skip m).rest = rest := by
  simp [Left.skip, h]

namespace Situation.Follows

/-- Text goes on with the run of the active block. -/
private theorem addText (h : s.Follows g u text) {added : String} (ha : added ≠ "") {l : Left}
    (hr : ∀ before pieces, Reads g u s.active.spec before pieces s.text.rest →
      Reads g u s.active.spec before (addRun added pieces) l.rest) :
    Situation.Follows g u text { s with text := l, active := s.active.addText added } := by
  obtain ⟨hs, before, done, hsur, hb, hreads⟩ := h
  refine ⟨hs, before, done, hsur, hb.addText added, ?_⟩
  rw [hb.append_pending ha]
  exact hr _ _ hreads

private theorem split (h : s.Follows g u text) {m : RuleMatch} {token : Option String} {rest : List Char}
    (hrest : s.text.rest = m.whole ++ rest) (hm : nextMove g s.active.spec (m.whole ++ rest) = .split m token) :
    Situation.Follows g u text { s with
      text := s.text.skip m.whole, active := ((s.active.endRun .split).addKept token).endSegment } := by
  obtain ⟨hs, before, done, hsur, hb, hreads⟩ := h
  have ht : ((s.active.endRun .split).addKept token).endSegment.spec = s.active.spec :=
    OpenBlock.spec_of_title ((OpenBlock.title_split token _).trans (OpenBlock.title_endRun .split _))
  have hp : ((s.active.endRun .split).addKept token).endSegment.pending = [] := by
    refine OpenBlock.pending_of_run (Eq.trans ?_ (OpenBlock.run_endRun .split s.active))
    cases token <;> rfl
  rw [hrest] at hreads
  refine ⟨hs, before, _, ?_, (hb.endRun .split).endSegment m token, ?_⟩
  · rwa [ht]
  · rw [hp, List.append_nil, ht, rest_skip_of_eq hrest]
    exact hreads.split hm

private theorem strip (h : s.Follows g u text) {m : RuleMatch} {rest : List Char}
    (hrest : s.text.rest = m.whole ++ rest)
    (hm : nextMove g s.active.spec (m.whole ++ rest) = .strip m) :
    Situation.Follows g u text { s with text := s.text.skip m.whole } := by
  obtain ⟨hs, before, done, hsur, hb, hreads⟩ := h
  rw [hrest] at hreads
  refine ⟨hs, before, done, hsur, hb, ?_⟩
  show Reads g u s.active.spec before _ (s.text.skip m.whole).rest
  rw [rest_skip_of_eq hrest]
  exact hreads.strip hm

theorem enter (h : s.Follows g u text) {name : String} {slot : Fin g.size} {start : Delimiter} {rest : List Char}
    (hrest : s.text.rest = start.chars ++ rest) (hstart : (g.spec slot).start = some start)
    (hm : nextMove g s.active.spec (start.chars ++ rest) = .enter name slot start) :
    Situation.Follows g u text { s with
      text := s.text.skip start.chars
      active := (OpenBlock.enter name (g.spec slot) s.text.offset start).goOnAt 0
      around := s.active.endRun .block :: s.around } := by
  obtain ⟨hs, before, done, hsur, hb, hreads⟩ := h
  have hset := hb.endRun .block
  rw [cut_block] at hset
  rw [hrest] at hreads
  have hspec : (s.active.endRun .block).spec = s.active.spec := OpenBlock.spec_endRun .block _
  refine ⟨hs, rest, [], .nest (hspec ▸ hsur) hset (hspec ▸ hreads) (hspec ▸ hm), .enter name _ hstart, ?_⟩
  rw [rest_skip_of_eq hrest]
  exact .nil _ rest

/-- Around a block that may be closed there is one without a handler. -/
private theorem exists_outer (h : s.Follows g u text) (hg : ∀ slot, (g.spec slot).handler = none)
    (hs : s.around ≠ [] ∨ s.active.spec.stop ≠ g.root.stop) :
    ∃ outer around, s.around = outer :: around ∧ outer.spec.handler = none := by
  obtain ⟨before, done, hsur, -, -⟩ := h.reads
  generalize s.active.spec = spec at hsur hs
  generalize s.around = around at hsur hs
  cases hsur with
  | root => simp at hs
  | nest hsur => exact ⟨_, _, rfl, hsur.handler hg⟩

/-- A nested block that closes becomes a piece of the one around it. -/
theorem close {outer : OpenBlock C g.size} {around : List (OpenBlock C g.size)} {stop : Option Delimiter}
    {rest : List Char} (h : s.Follows g u text) (ha : s.around = outer :: around)
    (hc : Closes g u s.active.spec s.text.rest stop rest) :
    Situation.Follows g u text { s with
      text := s.text.skip (stop.elim [] Delimiter.chars)
      active := (outer.endRun .block).addValue ((s.active.endRun .stop).addStop stop).result
      around } := by
  obtain ⟨hs, before, done, hsur, hb, hreads⟩ := h
  have hskip : s.text.rest = stop.elim [] Delimiter.chars ++ rest := by
    generalize s.text.rest = left at hc
    cases hc <;> rfl
  have hinner := (hb.endRun .stop).result_addStop stop
  rw [OpenBlock.spec_endRun] at hinner
  rw [ha] at hsur
  generalize s.active.spec = spec at hsur hreads hc hinner
  cases hsur with
  | nest hsur hset houter hm =>
    have hblock := houter.block hm hreads hc
    rw [hset.endRun_block, hinner]
    refine ⟨hs, _, _, hsur, hset.addValue _ _ stop, ?_⟩
    rw [OpenBlock.pending_of_run (show OpenBlock.run (OpenBlock.addValue _ _) = "" from hset.run), List.append_nil,
      rest_skip_of_eq hskip]
    exact hblock

/-- The active block has no handler. -/
private theorem handler (h : s.Follows g u text) (hg : ∀ slot, (g.spec slot).handler = none) :
    s.active.spec.handler = none := by
  obtain ⟨before, done, hsur, -, -⟩ := h.reads
  exact hsur.handler hg

/-- A move is read off what is left of the text. -/
theorem makeMove (h : s.Follows g u text) (hg : ∀ slot, (g.spec slot).handler = none) (hroot : g.root.stop = none)
    {limit : Nat} (hne : s.text.rest ≠ [])
    (ht : s.makeMove g limit (nextMove g s.active.spec s.text.rest) c = (.ok t, c')) : t.Follows g u text := by
  have ha := h.handler hg
  obtain ⟨rest, hrest⟩ := recognised_isPrefix g s.active.spec s.text.rest
  have hsource := nextMove_source g s.active.spec s.text.rest
  cases hm : nextMove g s.active.spec s.text.rest with
  | escape escaped literal =>
    rw [hm] at ht hrest
    have hrest : s.text.rest = escaped.chars ++ rest := hrest.symm
    cases ht
    refine h.addText literal.text_ne_empty fun before pieces hr => ?_
    rw [hrest] at hr hm
    rw [rest_skip_of_eq hrest]
    exact hr.escape hm
  | close stop =>
    rw [hm] at ht hrest
    have hrest : s.text.rest = stop.chars ++ rest := hrest.symm
    have hc : Closes g u s.active.spec s.text.rest (some stop) rest := by
      rw [hrest] at hm ⊢
      exact .stop hm
    obtain ⟨outer, around, ho, hout⟩ := h.exists_outer hg (Or.inr (by rw [stop_of_nextMove hm, hroot]; simp))
    rw [show s.makeMove g limit (.close stop) = _ from close_eq ho ha hout limit (some stop)] at ht
    cases ht
    exact h.close ho hc
  | enter name slot start =>
    rw [hm] at ht hrest hsource
    have hrest : s.text.rest = start.chars ++ rest := hrest.symm
    rw [makeMove_enter ha (hg slot)] at ht
    cases ht
    exact h.enter hrest hsource.2 (hrest ▸ hm)
  | split m token =>
    rw [hm] at ht hrest
    have hrest : s.text.rest = m.whole ++ rest := hrest.symm
    rw [makeMove_split ha] at ht
    cases ht
    exact h.split hrest (hrest ▸ hm)
  | strip m =>
    rw [hm] at ht hrest
    have hrest : s.text.rest = m.whole ++ rest := hrest.symm
    cases ht
    exact h.strip hrest (hrest ▸ hm)
  | char =>
    rw [hm] at ht
    obtain ⟨x, r, hx⟩ := List.exists_cons_of_ne_nil hne
    simp only [Situation.makeMove, hx] at ht
    cases ht
    refine h.addText (by simp) fun before pieces hr => ?_
    rw [hx] at hr hm
    rw [rest_skip_of_eq (m := [x]) hx]
    exact hr.char hm

/-- A step goes on reading. -/
theorem advance (h : s.Follows g o.unterminated text) (hg : ∀ slot, (g.spec slot).handler = none)
    (hroot : g.root.stop = none) (ht : s.advance g o c = (.ok (some t), c')) : t.Follows g o.unterminated text := by
  by_cases hr : s.text.rest = []
  · by_cases ho : s.around = []
    · rw [advance_of_nil o hr h.suspended ho] at ht
      cases ht
    · cases hu : o.unterminated with
      | error =>
        rw [advance_of_error hu hr h.suspended ho] at ht
        cases ht
      | close =>
        rw [advance_of_close hu hr h.suspended ho] at ht
        obtain ⟨outer, around, ho, hout⟩ := h.exists_outer hg (Or.inl ho)
        rw [close_eq ho (h.handler hg) hout] at ht
        cases ht
        have hc : Closes g .close s.active.spec s.text.rest none [] := by
          rw [hr]
          exact .atEnd rfl
        rw [hu] at h
        exact h.close ho hc
  · rw [advance_of_ne_nil o hr] at ht
    obtain ⟨v, hv, hvt⟩ := Effect.map_eq_ok ht
    obtain rfl := Option.some.inj hvt
    exact h.makeMove hg hroot hr hv

/-- At the end of the text the root has been read, and it gives what becomes of its pieces. -/
theorem finish (h : s.Follows g u text) (hg : ∀ slot, (g.spec slot).handler = none) (hr : s.text.rest = [])
    (ha : s.around = []) :
    ∃ pieces, ReadsAs g u text pieces ∧ s.finish = pure (blockValue g g.root pieces none) := by
  have hfinish := finish_eq (h.handler hg)
  obtain ⟨-, before, done, hsur, hb, hreads⟩ := h
  have hvalue := (hb.endRun .stop).result_addStop none
  rw [OpenBlock.spec_endRun] at hvalue
  rw [ha] at hsur
  rw [hr] at hreads
  generalize s.active.spec = spec at hsur hreads hvalue
  cases hsur
  refine ⟨_, ⟨_, hreads, rfl⟩, ?_⟩
  rw [hfinish, ← hvalue]
  rfl

end Situation.Follows

end

/-! ### Scans -/

private theorem reads_of_outcome {g : Grammar C} {o : Options} {text : List Char} {p : Part}
    (hg : ∀ slot, (g.spec slot).handler = none) (hroot : g.root.stop = none) (s : State C g.size)
    (hd : s.input.depth ≤ o.maxReparseDepth) (hs : s.Sound g) (h : s.situation.Follows g o.unterminated text)
    (hp : (s.outcome g o hd).result = .ok p) :
    ∃ pieces, ReadsAs g o.unterminated text pieces ∧ p = blockValue g g.root pieces none := by
  have hadv := State.observe_advance (o := o) hs hroot
  match hm : s.advance g o with
  | .ended t =>
    rw [hm] at hadv
    have hout := State.outcome_ended hd hm
    obtain ⟨rfl, ho⟩ := State.advance_eq_ended hm
    obtain ⟨hr, -⟩ := State.endsAt_of_ended hm
    obtain ⟨pieces, hreads, hf⟩ := h.finish hg hr (State.around_situation_eq_nil_iff.2 ho)
    rw [hf, hp] at hout
    exact ⟨pieces, hreads, Except.ok.inj (congrArg Prod.fst hout)⟩
  | .failed e =>
    rw [State.outcome_failed hd hm] at hp
    cases hp
  | .moved t =>
    rw [hm] at hadv
    rw [State.outcome_moved hd hm] at hp
    have ht : s.situation.advance g o s.context = (.ok (some t.situation), t.context) := hadv.symm
    exact reads_of_outcome hg hroot t (State.depth_advance hd hm) (hs.advance hm) (h.advance hg hroot ht) hp
termination_by State.measure o.maxReparseDepth s
decreasing_by exact State.advance_lt hd hm

/-- Without handlers a scan gives what becomes of the pieces that its text is read as. -/
theorem reads_of_result {d : Definition C} {g : Grammar C} (hd : d.resolve = .ok g)
    (hg : ∀ slot, (g.spec slot).handler = none) {o : Options} {text : String} {context : C} {p : Part}
    (hp : (scan g o text context).result = .ok p) :
    ∃ pieces, ReadsAs g o.unterminated text.toList pieces ∧ p = blockValue g g.root pieces none := by
  obtain ⟨hstart, hstop⟩ := Definition.root_of_resolve hd
  rw [State.scan_eq_outcome] at hp
  refine reads_of_outcome hg hstop _ _ (.start g text context) ⟨rfl, text.toList, [], .root, ?_, .nil _ _⟩ hp
  exact OpenBlock.Holds.root hstart

end Delimited.Scan
