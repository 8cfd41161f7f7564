import Delimited.Proofs.Grammar.Block
import Delimited.Proofs.Grammar.Resolved
import Delimited.Proofs.Scan.Run
import Delimited.Proofs.Text.Pieces

/-!
# Splitting at a delimiter

A root whose only rule is that a delimiter splits it (`Spec.SplitsOnly`) cuts the text into its pieces. The parts are
then the pieces, without the empty ones if these are ignored, and with the delimiter between each two of them if splits
are stored (`Spec.row`). This holds of every text (`Splitting.scan_eq_row`): where the delimiter overlaps with itself,
where it stands at either end, and where it stands twice in a row.

The scan is followed from piece to piece. In front of a piece the root has the parts of the pieces before it
(`Splitting.behind`); at its end the piece becomes a part, unless it is empty and such pieces are ignored. That the only
piece of an empty text gives no part does not show, since no parts are an empty text.
-/

namespace Delimited

open Scan

variable {C : Type} {n : Nat}

/-- A spec whose only rule is that a delimiter splits it. -/
structure Spec.SplitsOnly (d : Delimiter) (s : Spec C n) : Prop where
  stop : s.stop = none
  escapedStop : s.escapedStop = none
  split : s.split = some (.literal d)
  strip : s.strip = []
  blocks : s.blocks = []
  handler : s.handler = none

/-! ### Rows -/

namespace Spec

/-- What a spec makes of the pieces of its text. -/
def row (d : Delimiter) (s : Spec C n) (pieces : List (List Char)) : List String :=
  let texts : List String := pieces.map String.ofList
  let stored := if s.storeSplit = .no then texts else texts.intersperse d.text
  if s.ignoreEmpty then stored.filter (· ≠ "") else stored

/-- What it makes of a piece. -/
def ofPiece (s : Spec C n) (piece : List Char) : List String :=
  if s.ignoreEmpty && piece.isEmpty then [] else [String.ofList piece]

/-- What it makes of a delimiter between two pieces. -/
def ofSplit (d : Delimiter) (s : Spec C n) : List String := if s.storeSplit = .no then [] else [d.text]

variable {d : Delimiter} {s : Spec C n}

private theorem row_singleton (piece : List Char) : s.row d [piece] = s.ofPiece piece := by
  cases hi : s.ignoreEmpty <;> cases piece <;> simp [row, ofPiece, hi]

private theorem row_cons (piece : List Char) {pieces : List (List Char)} (hne : pieces ≠ []) :
    s.row d (piece :: pieces) = s.ofPiece piece ++ s.ofSplit d ++ s.row d pieces := by
  obtain ⟨p, ps, rfl⟩ := List.exists_cons_of_ne_nil hne
  cases hi : s.ignoreEmpty <;> cases piece <;> by_cases hs : s.storeSplit = .no <;>
    simp [row, ofPiece, ofSplit, hi, hs, d.text_ne_empty]

/-- A row ends with what is made of its last piece. -/
theorem row_append (before : List (List Char)) (piece : List Char) :
    s.row d (before ++ [piece]) = (before.flatMap fun p => s.ofPiece p ++ s.ofSplit d) ++ s.ofPiece piece := by
  induction before with
  | nil => exact row_singleton piece
  | cons p before ih =>
    rw [List.cons_append, row_cons p (by simp), ih]
    simp

end Spec

namespace Splitting

/-! ### The grammar -/

/-- Texts that a delimiter splits. -/
def definition (d : Delimiter) (storeSplit : StoreSplit) (ignoreEmpty : Bool) : Definition C :=
  .mk { split := some (.literal d.text), storeSplit, ignoreEmpty } none []

/-- The spec of such texts. -/
def spec (d : Delimiter) (storeSplit : StoreSplit) (ignoreEmpty : Bool) : Spec C 1 where
  path := rootPath
  start := none
  stop := none
  escapedStart := none
  escapedStop := none
  keepDelimiters := false
  replaceEscapes := false
  split := some (.literal d)
  storeSplit
  strip := []
  ignoreEmpty
  blocks := []
  handler := none
  reparse := false
  handleAll := false

/-- What the definition resolves to. -/
abbrev grammar (d : Delimiter) (storeSplit : StoreSplit) (ignoreEmpty : Bool) : Grammar C :=
  ⟨1, Nat.one_pos, #v[spec d storeSplit ignoreEmpty]⟩

private theorem resolve_definition (d : Delimiter) (storeSplit : StoreSplit) (ignoreEmpty : Bool) :
    (definition d storeSplit ignoreEmpty : Definition C).resolve = .ok (grammar d storeSplit ignoreEmpty) := by
  have hblocks : (definition d storeSplit ignoreEmpty : Definition C).nestedBlocks =
      .ok (#v[[]] : Vector (List (String × Fin 1)) 1) := by
    refine vector_mapM_of_eq_ok fun k hk => ?_
    obtain rfl := Nat.lt_one_iff.1 hk
    rw [Index.nestedBlocks_of_not_shared]
    all_goals rfl
  refine Definition.resolve_of_specs rfl rfl hblocks fun k hk => ?_
  obtain rfl := Nat.lt_one_iff.1 hk
  exact Flat.spec_eq_ok_iff.2 ⟨rfl, rfl, rfl, rfl, rfl, rfl, rfl, .some (.literal d), rfl, .nil, rfl, rfl, rfl, rfl,
    rfl, fun h => absurd rfl h⟩

private theorem splitsOnly_grammar (d : Delimiter) (storeSplit : StoreSplit) (ignoreEmpty : Bool) :
    (grammar d storeSplit ignoreEmpty : Grammar C).root.SplitsOnly d := ⟨rfl, rfl, rfl, rfl, rfl, rfl⟩

/-! ### Moves -/

variable {d : Delimiter} {g : Grammar C} {s : Spec C n}

private theorem delimiters_root (h : g.root.SplitsOnly d) : delimiters g g.root = [] := by
  simp [delimiters, h.stop, h.escapedStop, h.blocks]

private theorem nextMove_split (h : g.root.SplitsOnly d) (r : List Char) :
    ∃ token, token.toList = g.root.ofSplit d ∧
      nextMove g g.root (d.chars ++ r) = .split ⟨d.chars, [], d.ne_nil⟩ token := by
  have hm : (Rule.literal d).matchStart? (d.chars ++ r) = some ⟨d.chars, [], d.ne_nil⟩ := by
    simp [Rule.matchStart?, Delimiter.starts_append, RuleMatch.of?, d.ne_nil]
  refine ⟨_, ?_, nextMove_eq_split (by simp [delimiters_root h]) h.split hm⟩
  cases hs : g.root.storeSplit <;> simp [StoreSplit.token?, Spec.ofSplit, RuleMatch.group, Delimiter.text, hs]

private theorem nextMove_piece (h : g.root.SplitsOnly d) {rest : List Char} (hd : ¬d.chars <+: rest) :
    nextMove g g.root rest = .char := by
  refine nextMove_eq_char (by simp [delimiters_root h]) fun r hr => ?_
  obtain rfl : r = .literal d := by simpa [rules, h.split, h.strip] using hr
  rw [Rule.matchStart?, if_neg (by rwa [Delimiter.starts_iff])]

/-! ### Runs -/

/-- The root in front of a piece, with what was made of the pieces before it. -/
def behind (d : Delimiter) (s : Spec C n) (before : List (List Char)) : OpenBlock C n :=
  { OpenBlock.root s with
    parts := ((before.flatMap fun p => s.ofPiece p ++ s.ofSplit d).map Part.text).toArray
    hasSplit := !before.isEmpty }

/-- A piece that is dropped is an empty run. -/
private theorem endRun_behind_of_dropped (before : List (List Char)) (hi : s.ignoreEmpty = true) (k : Boundary) :
    ((behind d s before).addText (String.ofList [])).endRun k = behind d s before := by
  simp [OpenBlock.endRun, OpenBlock.fragment?, OpenBlock.addText, behind, OpenBlock.root, hi]

/-- A piece that is kept becomes a part; if it is empty, it needs a split next to it. -/
private theorem endRun_behind_of_kept (before : List (List Char)) {piece : List Char} {k : Boundary}
    (h : piece ≠ [] ∨ s.ignoreEmpty = false ∧ (k = .split ∨ k = .stop ∧ before ≠ [])) :
    ((behind d s before).addText (String.ofList piece)).endRun k =
      (behind d s before).addValue (.text (String.ofList piece)) := by
  have hf : ((behind d s before).addText (String.ofList piece)).fragment? k =
      some (String.ofList piece, behind d s before) := by
    rcases h with h | ⟨hi, rfl | ⟨rfl, h⟩⟩ <;>
      simp [OpenBlock.fragment?, OpenBlock.endsEmptySegment, OpenBlock.addText, behind, OpenBlock.root, *]
  rw [OpenBlock.endRun, hf]

/-- At a split the piece in front of it ends. -/
theorem endRun_split (before : List (List Char)) (piece : List Char) {token : Option String}
    (ht : token.toList = s.ofSplit d) :
    ((((behind d s before).addText (String.ofList piece)).endRun .split).addKept token).endSegment =
      behind d s (before ++ [piece]) := by
  have hkept : ∀ b : OpenBlock C n, (b.addKept token).endSegment =
      { b with parts := b.parts ++ ((s.ofSplit d).map Part.text).toArray, hasValue := false, hasSplit := true } := by
    intro b
    rw [← ht]
    cases token <;> simp [OpenBlock.addKept, OpenBlock.addToken, OpenBlock.endSegment]
  rw [hkept]
  by_cases hp : s.ignoreEmpty = true ∧ piece = []
  · obtain ⟨hi, rfl⟩ := hp
    rw [endRun_behind_of_dropped before hi]
    simp [behind, OpenBlock.root, Spec.ofPiece, hi]
  · rw [endRun_behind_of_kept before (by grind)]
    simp [OpenBlock.addValue, behind, OpenBlock.root, Spec.ofPiece, hp]

/-- At the end the last piece ends. -/
theorem result_endRun_stop (before : List (List Char)) (piece : List Char) :
    (((behind d s before).addText (String.ofList piece)).endRun .stop).result =
      .assemble ((s.row d (before ++ [piece])).map .text) := by
  rw [Spec.row_append]
  by_cases hp : s.ignoreEmpty = true ∧ piece = []
  · obtain ⟨hi, rfl⟩ := hp
    rw [endRun_behind_of_dropped before hi]
    simp [OpenBlock.result, behind, Spec.ofPiece, hi]
  by_cases hb : piece = [] ∧ before = []
  · -- the only piece of an empty text
    obtain ⟨rfl, rfl⟩ := hb
    have hi : s.ignoreEmpty = false := by simpa using hp
    simp [OpenBlock.endRun, OpenBlock.fragment?, OpenBlock.endsEmptySegment, OpenBlock.addText, OpenBlock.result,
      OpenBlock.root, behind, Spec.ofPiece, hi, Part.assemble]
  · rw [endRun_behind_of_kept before (by grind)]
    simp [OpenBlock.result, OpenBlock.addValue, behind, Spec.ofPiece, hp]

/-- At the root, with what is left of the text behind an offset. -/
abbrev within (i : Nat) (rest : List Char) (b : OpenBlock C n) : Situation C n := ⟨⟨i, rest⟩, [], b, [], 0⟩

variable {o : Options}

private theorem reaches_piece (h : g.root.SplitsOnly d) {piece r : List Char}
    (hp : ∀ m, m ≠ [] → m <:+ piece → ¬d.chars <+: m ++ r) (before : List (List Char)) (i : Nat) :
    (within i (piece ++ r) (behind d g.root before)).Reaches g o
      (within (i + byteLength piece) r ((behind d g.root before).addText (String.ofList piece))) := by
  have hread := Situation.Reaches.read (g := g) (o := o) (s := within i (piece ++ r) (behind d g.root before))
    rfl fun m hm hs => nextMove_piece h (hp m hm hs)
  rwa [Left.skip_of_append] at hread

private theorem reaches_split (h : g.root.SplitsOnly d) (before : List (List Char)) (piece r : List Char) (i : Nat) :
    (within i (d.chars ++ r) ((behind d g.root before).addText (String.ofList piece))).Reaches g o
      (within (i + byteLength d.chars) r (behind d g.root (before ++ [piece]))) := by
  obtain ⟨token, ht, hm⟩ := nextMove_split h r
  refine .move (by simp [d.ne_nil]) hm ?_
  rw [Situation.makeMove_split h.handler, endRun_split before piece ht, Left.skip_of_append]

/-- A text is read up to the end of its last piece. -/
theorem reaches_cut (h : g.root.SplitsOnly d) {text : List Char} {pieces : List (List Char)} (hc : d.Cut text pieces)
    (before : List (List Char)) (i : Nat) :
    ∃ before' last j, before ++ pieces = before' ++ [last] ∧
      (within i text (behind d g.root before)).Reaches g o
        (within j [] ((behind d g.root before').addText (String.ofList last))) := by
  induction hc generalizing before i with
  | @last text hd =>
    have hp : ∀ m, m ≠ [] → m <:+ text → ¬d.chars <+: m ++ [] := by
      intro m _ hm hp
      rw [List.append_nil] at hp
      exact hd (hp.isInfix.trans hm.isInfix)
    have hread := reaches_piece (o := o) h hp before i
    rw [List.append_nil] at hread
    exact ⟨before, text, _, rfl, hread⟩
  | @cons piece rest pieces hd _ ih =>
    obtain ⟨before', last, j, hl, hrest⟩ := ih (before ++ [piece]) (i + byteLength piece + byteLength d.chars)
    refine ⟨before', last, j, by rw [← hl]; simp, ?_⟩
    exact (reaches_piece h hd before i).trans ((reaches_split h before piece rest _).trans hrest)

/-- A root whose only rule is that a delimiter splits it makes a row of the pieces of every text; and joined with the
delimiter, the pieces give the text back. -/
theorem scan_eq_row (h : g.root.SplitsOnly d) (o : Options) (text : String) (context : C) :
    ∃ pieces, (∀ ps, d.Cut text.toList ps ↔ ps = pieces) ∧ String.ofList (d.chars.intercalate pieces) = text ∧
      (scan g o text context).result = .ok (.assemble ((g.root.row d pieces).map .text)) ∧
        (scan g o text context).context = context := by
  have hc := d.cut_pieces text.toList
  refine ⟨d.pieces text.toList, fun ps => ?_, ?_, ?_⟩
  · rw [Delimiter.cut_iff, eq_comm]
  · rw [hc.intercalate, String.ofList_toList]
  · obtain ⟨before, last, j, hl, hreaches⟩ := reaches_cut (o := o) h hc [] 0
    rw [List.nil_append] at hl
    rw [hl, ← result_endRun_stop]
    exact scan_of_reaches h.stop hreaches rfl rfl rfl h.handler context

/-- A delimiter that overlaps with itself is taken from the left. -/
theorem scan_eq_row_overlapping :
    (grammar (C := Nat) ⟨['a', 'b', 'a'], by simp⟩ (.group 3) true).root.SplitsOnly ⟨['a', 'b', 'a'], by simp⟩ ∧
      ∃ g : Grammar Nat, (definition ⟨['a', 'b', 'a'], by simp⟩ (.group 3) true).resolve = .ok g ∧
        (scan g {} "ababa-aba" 0).result = .ok (.group [.text "aba", .text "ba-", .text "aba"]) := by
  have hs := splitsOnly_grammar (C := Nat) ⟨['a', 'b', 'a'], by simp⟩ (.group 3) true
  refine ⟨hs, _, resolve_definition _ _ _, ?_⟩
  obtain ⟨pieces, hcut, -, hscan, -⟩ := scan_eq_row hs {} "ababa-aba" 0
  have hp : pieces = [[], ['b', 'a', '-'], []] := by
    rw [← (hcut _).1 (Delimiter.cut_pieces _ _)]
    simp [Delimiter.pieces, Delimiter.starts]
  rw [hscan, hp]
  rfl

end Splitting

end Delimited
