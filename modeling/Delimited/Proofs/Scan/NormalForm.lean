import Mathlib
import Delimited.Proofs.Scan.Parse

/-!
# Normal forms

Without handlers a result is in normal form: every group in it has at least two members, so that it can be told from a
single part (`normalForm_of_result`). Every leaf of the result belongs to a piece of what the text has been read as
(`blockLeaves`), or to a delimiter that is kept, and for an empty leaf there is a reason: a block that has collected no
parts; a gap, which is next to a split (`Apart`); or a capture group that is kept of a split and has matched nothing.
-/

namespace Delimited

variable {C : Type}

/-! ### Groups in a part -/

namespace Part

/-- A part stands in another one, at any depth. -/
inductive Within : Part → Part → Prop
  | refl (p : Part) : Within p p
  | member {p q : Part} {ps : List Part} (hq : q ∈ ps) (h : Within p q) : Within p (.group ps)

/-- No group in the part has less than two members. -/
def Collapsed (p : Part) : Prop := ∀ ps, (Part.group ps).Within p → 2 ≤ ps.length

private theorem collapsed_text (s : String) : (Part.text s).Collapsed := by
  intro ps h
  cases h

/-- Parts taken together as one form a group only if there are at least two of them. -/
theorem collapsed_assemble {ps : List Part} (h : ∀ p ∈ ps, p.Collapsed) : (assemble ps).Collapsed := by
  match ps with
  | [] => exact collapsed_text ""
  | [p] => exact h p List.mem_cons_self
  | p :: q :: ps =>
    intro qs hqs
    cases hqs with
    | refl => simp
    | member hr hqs => exact h _ hr qs hqs

/-- Taking the items of a part together gives the part again, unless it is a group with less than two members. -/
theorem Collapsed.assemble_items {p : Part} (h : p.Collapsed) : assemble p.items = p := by
  match p with
  | .text s => rfl
  | .group [] => exact absurd (h [] (.refl _)) (by simp)
  | .group [q] => exact absurd (h [q] (.refl _)) (by simp)
  | .group (q :: r :: ps) => rfl

/-- The leaves of parts that are taken together as one. -/
theorem leaves_assemble (ps : List Part) :
    (assemble ps).leaves = if ps.isEmpty then [.text ""] else leavesAll ps := by
  match ps with
  | [] => rfl
  | [p] => simp [assemble, leavesAll]
  | p :: q :: ps => rfl

private theorem leavesAll_append (ps qs : List Part) : leavesAll (ps ++ qs) = leavesAll ps ++ leavesAll qs := by
  induction ps with
  | nil => rfl
  | cons p ps ih => rw [List.cons_append, leavesAll, leavesAll, ih, List.append_assoc]

end Part

namespace Scan

variable {n : Nat}

/-! ### Groups in a result -/

/-- A delimiter that is kept is a text. -/
private theorem exists_of_mem_keptDelimiter {s : Spec C n} {d : Option Delimiter} {p : Part}
    (h : p ∈ s.keptDelimiter d) : ∃ t, p = .text t := by
  unfold Spec.keptDelimiter at h
  split at h
  · obtain ⟨d, -, rfl⟩ := List.mem_map.1 h
    exact ⟨_, rfl⟩
  · cases h

private theorem collapsed_blockValue {g : Grammar C} {s : Spec C g.size} {pieces : List (Piece g.size)}
    {stop : Option Delimiter} (h : ∀ p ∈ partsAll g pieces, p.Collapsed) : (blockValue g s pieces stop).Collapsed := by
  refine Part.collapsed_assemble fun p hp => ?_
  rw [blockParts, List.append_assoc, List.mem_append, List.mem_append] at hp
  rcases hp with hp | hp | hp
  · obtain ⟨t, rfl⟩ := exists_of_mem_keptDelimiter hp
    exact Part.collapsed_text t
  · exact h p hp
  · obtain ⟨t, rfl⟩ := exists_of_mem_keptDelimiter hp
    exact Part.collapsed_text t

mutual

private theorem collapsed_of_mem_parts {g : Grammar C} : ∀ x : Piece g.size, ∀ p ∈ x.parts g, p.Collapsed
  | .run text, p, hp => by
    rw [Piece.parts, List.mem_singleton] at hp
    exact hp ▸ Part.collapsed_text text
  | .gap, p, hp => by
    rw [Piece.parts, List.mem_singleton] at hp
    exact hp ▸ Part.collapsed_text ""
  | .split _ token, p, hp => by
    rw [Piece.parts] at hp
    obtain ⟨t, -, rfl⟩ := List.mem_map.1 hp
    exact Part.collapsed_text t
  | .block slot pieces stop, p, hp => by
    rw [parts_block, List.mem_singleton] at hp
    exact hp ▸ collapsed_blockValue (collapsed_of_mem_partsAll pieces)

private theorem collapsed_of_mem_partsAll {g : Grammar C} :
    ∀ pieces : List (Piece g.size), ∀ p ∈ partsAll g pieces, p.Collapsed
  | [], p, hp => by cases hp
  | x :: pieces, p, hp => by
    rw [partsAll, List.mem_append] at hp
    rcases hp with hp | hp
    · exact collapsed_of_mem_parts x p hp
    · exact collapsed_of_mem_partsAll pieces p hp

end

/-! ### Leaves of a result -/

/-- Where a leaf comes from. -/
inductive Source (n : Nat) where
  /-- A delimiter that is kept. -/
  | delimiter
  /-- A run of text. -/
  | run
  /-- An empty segment of a block, with the pieces next to it. -/
  | gap (ignoreEmpty : Bool) (before after : Option (Piece n))
  /-- What is kept of a split. -/
  | token (store : StoreSplit) (m : RuleMatch)
  /-- A block that has collected no parts. -/
  | nothing

/-- A text of a result. -/
structure Leaf (n : Nat) where
  text : String
  source : Source n

/-- Why a leaf may be empty: nothing has been collected; or the leaf is a segment between two splits, or between a split
and an end of the block, and empty segments are kept; or it is a capture group that has matched nothing. -/
def Source.MayBeEmpty : Source n → Prop
  | .delimiter => False
  | .run => False
  | .gap ignoreEmpty before after =>
    ignoreEmpty = false ∧ before.all Piece.isSplit = true ∧ after.all Piece.isSplit = true ∧
      (before.isSome = true ∨ after.isSome = true)
  | .token store m => ∃ k, store = .group k ∧ m.groups[k]? = some (some [])
  | .nothing => True

/-- The leaf of a delimiter, if it is there and is kept. -/
def delimiterLeaves (s : Spec C n) (d : Option Delimiter) : List (Leaf n) :=
  if s.keepDelimiters then d.toList.map fun d => ⟨d.text, .delimiter⟩ else []

/-- The leaves of a block whose pieces have these leaves. -/
def enclose (g : Grammar C) (s : Spec C g.size) (pieces : List (Piece g.size)) (stop : Option Delimiter)
    (leaves : List (Leaf g.size)) : List (Leaf g.size) :=
  if (blockParts g s pieces stop).isEmpty then [⟨"", .nothing⟩]
  else delimiterLeaves s s.start ++ leaves ++ delimiterLeaves s stop

mutual

/-- The leaves of a piece of a block, between the pieces next to it. -/
def Piece.leaves (g : Grammar C) (s : Spec C g.size) (before after : Option (Piece g.size)) :
    Piece g.size → List (Leaf g.size)
  | .run text => [⟨text, .run⟩]
  | .gap => [⟨"", .gap s.ignoreEmpty before after⟩]
  | .split m token => token.toList.map fun t => ⟨t, .token s.storeSplit m⟩
  | .block slot pieces stop => enclose g (g.spec slot) pieces stop (leavesAll g (g.spec slot) none pieces)

/-- The leaves of pieces of a block, behind another piece. -/
def leavesAll (g : Grammar C) (s : Spec C g.size) (before : Option (Piece g.size)) :
    List (Piece g.size) → List (Leaf g.size)
  | [] => []
  | x :: pieces => x.leaves g s before pieces.head? ++ leavesAll g s (some x) pieces

end

/-- The leaves of what becomes of a block, in order. -/
def blockLeaves (g : Grammar C) (s : Spec C g.size) (pieces : List (Piece g.size)) (stop : Option Delimiter) :
    List (Leaf g.size) :=
  enclose g s pieces stop (leavesAll g s none pieces)

/-- The leaf as a part. -/
def Leaf.part (l : Leaf n) : Part := .text l.text

private theorem map_part_delimiterLeaves (s : Spec C n) (d : Option Delimiter) :
    (delimiterLeaves s d).map Leaf.part = Part.leavesAll (s.keptDelimiter d) := by
  unfold delimiterLeaves Spec.keptDelimiter
  split
  · cases d <;> simp [Leaf.part, Part.leavesAll, Part.leaves]
  · rfl

private theorem map_part_enclose {g : Grammar C} {s : Spec C g.size} {pieces : List (Piece g.size)}
    {stop : Option Delimiter} {leaves : List (Leaf g.size)}
    (h : leaves.map Leaf.part = Part.leavesAll (partsAll g pieces)) :
    (enclose g s pieces stop leaves).map Leaf.part = (blockValue g s pieces stop).leaves := by
  unfold enclose blockValue
  rw [Part.leaves_assemble]
  split
  · rfl
  · rw [List.map_append, List.map_append, map_part_delimiterLeaves, map_part_delimiterLeaves, h, blockParts,
      Part.leavesAll_append, Part.leavesAll_append]

mutual

private theorem map_part_leaves {g : Grammar C} (s : Spec C g.size) (before after : Option (Piece g.size)) :
    ∀ x : Piece g.size, (x.leaves g s before after).map Leaf.part = Part.leavesAll (x.parts g)
  | .run text => rfl
  | .gap => rfl
  | .split m token => by cases token <;> rfl
  | .block slot pieces stop => by
    rw [Piece.leaves, map_part_enclose (map_part_leavesAll _ none pieces), parts_block]
    simp [Part.leavesAll]

private theorem map_part_leavesAll {g : Grammar C} (s : Spec C g.size) (before : Option (Piece g.size)) :
    ∀ pieces : List (Piece g.size), (leavesAll g s before pieces).map Leaf.part = Part.leavesAll (partsAll g pieces)
  | [] => rfl
  | x :: pieces => by
    rw [leavesAll, List.map_append, map_part_leaves s before pieces.head? x, map_part_leavesAll s (some x) pieces,
      partsAll, Part.leavesAll_append]

end

/-- Every leaf of what becomes of a block is one of its leaves. -/
theorem map_part_blockLeaves (g : Grammar C) (s : Spec C g.size) (pieces : List (Piece g.size))
    (stop : Option Delimiter) :
    (blockLeaves g s pieces stop).map Leaf.part = (blockValue g s pieces stop).leaves :=
  map_part_enclose (map_part_leavesAll s none pieces)

/-! ### Empty leaves -/

/-- Empty leaves have a reason. -/
def Excused (leaves : List (Leaf n)) : Prop := ∀ l ∈ leaves, l.text = "" → l.source.MayBeEmpty

def Piece.isGap : Piece n → Bool
  | .gap => true
  | _ => false

private theorem Piece.isGap_iff {x : Piece n} : x.isGap = true ↔ x = .gap := by
  cases x <;> simp [isGap]

/-- Of two pieces that follow each other, one that is a gap is next to a split. -/
def Apart (x y : Piece n) : Prop := (x.isGap = true → y.isSplit = true) ∧ (y.isGap = true → x.isSplit = true)

private theorem apart_of_not_isGap {x y : Piece n} (hx : x.isGap = false) (hy : y.isGap = false) : Apart x y :=
  ⟨fun h => absurd h (by simp [hx]), fun h => absurd h (by simp [hy])⟩

/-- What is known of a piece of a block that has been read. -/
def Piece.Clear (g : Grammar C) (s : Spec C g.size) : Piece g.size → Prop
  | .run text => text ≠ ""
  | .gap => s.ignoreEmpty = false
  | .split m token => token = s.storeSplit.token? m
  | .block slot pieces stop => Excused (blockLeaves g (g.spec slot) pieces stop)

/-- What is known of the pieces of a block that has been read. -/
structure Explained (g : Grammar C) (s : Spec C g.size) (pieces : List (Piece g.size)) : Prop where
  clear : ∀ x ∈ pieces, x.Clear g s
  apart : pieces.IsChain Apart

/-- A kept part of a split is empty only if it is that of a capture group. -/
private theorem eq_group_of_token {store : StoreSplit} {m : RuleMatch} (h : store.token? m = some "") :
    ∃ k, store = .group k ∧ m.groups[k]? = some (some []) := by
  cases store with
  | no => cases h
  | whole => simp [StoreSplit.token?, m.ne_nil] at h
  | group k =>
    refine ⟨k, rfl, ?_⟩
    have hk : (m.groups[k]?).join.getD m.whole = [] := by simpa [StoreSplit.token?, RuleMatch.group] using h
    cases hj : (m.groups[k]?).join with
    | none =>
      rw [hj] at hk
      exact absurd hk m.ne_nil
    | some text =>
      rw [hj] at hk
      obtain rfl : text = [] := hk
      exact Option.join_eq_some_iff.1 hj

private theorem excused_enclose {g : Grammar C} {s : Spec C g.size} {pieces : List (Piece g.size)}
    {stop : Option Delimiter} {leaves : List (Leaf g.size)} (h : Excused leaves) :
    Excused (enclose g s pieces stop leaves) := by
  have hd : ∀ d : Option Delimiter, Excused (delimiterLeaves s d) := by
    intro d l hl ht
    unfold delimiterLeaves at hl
    split at hl
    · obtain ⟨d, -, rfl⟩ := List.mem_map.1 hl
      exact absurd ht d.text_ne_empty
    · cases hl
  unfold enclose
  split
  · intro l hl _
    rw [List.mem_singleton.1 hl]
    trivial
  · intro l hl
    rw [List.append_assoc, List.mem_append, List.mem_append] at hl
    rcases hl with hl | hl | hl
    · exact hd _ l hl
    · exact h l hl
    · exact hd _ l hl

/-- The empty leaves of a piece have a reason, if it is next to a split in case it is a gap. -/
private theorem excused_leaves {g : Grammar C} {s : Spec C g.size} {before after : Option (Piece g.size)}
    {x : Piece g.size} (hx : x.Clear g s) (hb : ∀ y ∈ before, Apart y x) (ha : ∀ y ∈ after, Apart x y)
    (hne : before.isSome = true ∨ after.isSome = true ∨ x.isGap = false) : Excused (x.leaves g s before after) := by
  intro l hl ht
  cases x with
  | run text =>
    rw [Piece.leaves, List.mem_singleton] at hl
    subst hl
    exact absurd ht hx
  | gap =>
    rw [Piece.leaves, List.mem_singleton] at hl
    subst hl
    refine ⟨hx, ?_, ?_, ?_⟩
    · cases before with
      | none => rfl
      | some y => exact (hb y rfl).2 rfl
    · cases after with
      | none => rfl
      | some y => exact (ha y rfl).1 rfl
    · simpa [Piece.isGap] using hne
  | split m token =>
    rw [Piece.leaves] at hl
    obtain ⟨t, hmem, rfl⟩ := List.mem_map.1 hl
    obtain rfl : t = "" := ht
    have htoken : s.storeSplit.token? m = some "" := by
      rw [← show token = s.storeSplit.token? m from hx]
      exact Option.mem_toList.1 hmem
    exact eq_group_of_token htoken
  | block slot pieces stop =>
    rw [Piece.leaves] at hl
    exact hx l hl ht

private theorem excused_leavesAll {g : Grammar C} {s : Spec C g.size} {pieces : List (Piece g.size)}
    {before : Option (Piece g.size)} (h : Explained g s pieces) (hb : ∀ y ∈ before, ∀ x ∈ pieces.head?, Apart y x)
    (hne : before.isSome = true ∨ pieces ≠ [.gap]) : Excused (leavesAll g s before pieces) := by
  induction pieces generalizing before with
  | nil => intro l hl; cases hl
  | cons x pieces ih =>
    obtain ⟨ha, hchain⟩ := List.isChain_cons.1 h.apart
    have hx : Excused (x.leaves g s before pieces.head?) := by
      refine excused_leaves (h.clear x List.mem_cons_self) (fun y hy => hb y hy x rfl) ha ?_
      rcases hne with hs | hne
      · exact Or.inl hs
      · cases pieces with
        | nil => exact Or.inr (Or.inr (Bool.eq_false_iff.2 fun hg => hne (by rw [Piece.isGap_iff.1 hg])))
        | cons y pieces => exact Or.inr (Or.inl rfl)
    have hrest : Excused (leavesAll g s (some x) pieces) := by
      refine ih ⟨fun y hy => h.clear y (List.mem_cons_of_mem x hy), hchain⟩ ?_ (Or.inl rfl)
      intro y hy z hz
      obtain rfl := Option.some.inj hy
      exact ha z hz
    intro l hl
    rw [leavesAll, List.mem_append] at hl
    rcases hl with hl | hl
    · exact hx l hl
    · exact hrest l hl

/-! ### Pieces that have been read -/

namespace Explained

variable {g : Grammar C} {s : Spec C g.size} {pieces : List (Piece g.size)} {x : Piece g.size}

private theorem snoc (h : Explained g s pieces) (hx : x.Clear g s) (ha : ∀ y ∈ pieces.getLast?, Apart y x) :
    Explained g s (pieces ++ [x]) := by
  refine ⟨?_, List.isChain_append.2 ⟨h.apart, List.isChain_singleton x, ?_⟩⟩
  · intro y hy
    rcases List.mem_append.1 hy with hy | hy
    · exact h.clear y hy
    · exact List.mem_singleton.1 hy ▸ hx
  · intro y hy z hz
    obtain rfl := Option.some.inj hz
    exact ha y hy

private theorem of_append {more : List (Piece g.size)} (h : Explained g s (pieces ++ more)) : Explained g s pieces :=
  ⟨fun x hx => h.clear x (List.mem_append_left more hx), (List.isChain_append.1 h.apart).1⟩

private theorem addRun (h : Explained g s pieces) (hl : ∀ x ∈ pieces.getLast?, x.isGap = false) {text : String}
    (ht : text ≠ "") :
    Explained g s (addRun text pieces) ∧ ∀ x ∈ (Scan.addRun text pieces).getLast?, x.isGap = false := by
  unfold Scan.addRun
  split
  · rename_i r hr
    obtain ⟨front, rfl⟩ := List.getLast?_eq_some_iff.1 hr
    rw [List.dropLast_concat]
    refine ⟨h.of_append.snoc (by simp [Piece.Clear, ht]) fun y hy => ?_, by simp [Piece.isGap]⟩
    -- what the run was next to, it still is
    exact (List.isChain_append.1 h.apart).2.2 y hy (.run r) rfl
  · exact ⟨h.snoc ht fun y hy => apart_of_not_isGap (hl y hy) rfl, by simp [Piece.isGap]⟩

/-- A gap that ends a segment stands behind a split, or at the start. -/
theorem cut (h : Explained g s pieces) (k : Boundary) : Explained g s (cut s.ignoreEmpty k pieces) := by
  unfold Scan.cut
  split
  · rename_i hgap
    obtain ⟨hends, hkept⟩ := Bool.and_eq_true_iff.1 hgap
    refine h.snoc (by simpa [Piece.Clear] using hkept) fun y hy => ?_
    have hstart : atSegmentStart pieces = true := by
      cases k with
      | block => cases hends
      | split => exact hends
      | stop => exact (Bool.and_eq_true_iff.1 hends).1
    have hsplit : y.isSplit = true := by
      rw [atSegmentStart, show pieces.getLast? = some y from hy] at hstart
      exact hstart
    refine ⟨fun hg => ?_, fun _ => hsplit⟩
    rw [Piece.isGap_iff.1 hg] at hsplit
    cases hsplit
  · exact h

/-- The empty leaves of a block have a reason. -/
theorem excused_blockLeaves (h : Explained g s pieces) (hl : ∀ x ∈ pieces.getLast?, x.isGap = false)
    (stop : Option Delimiter) : Excused (blockLeaves g s (Scan.cut s.ignoreEmpty .stop pieces) stop) := by
  refine excused_enclose (excused_leavesAll (h.cut .stop) (fun y hy => by cases hy) (Or.inr ?_))
  unfold Scan.cut
  split
  · rename_i hgap
    -- a gap at the end is not the only piece
    intro hone
    obtain rfl : pieces = [] := by simpa using hone
    cases hgap
  · rintro rfl
    cases hl .gap rfl

end Explained

/-- All that is read is explained, and a gap does not come last as long as the block has not ended. -/
theorem Reads.explained {g : Grammar C} {u : Unterminated} {s : Spec C g.size} {text rest : List Char}
    {pieces : List (Piece g.size)} (h : Reads g u s text pieces rest) :
    Explained g s pieces ∧ ∀ x ∈ pieces.getLast?, x.isGap = false := by
  induction h with
  | nil s text => exact ⟨⟨by simp, .nil⟩, by simp⟩
  | char h hm ih => exact ih.1.addRun ih.2 (by simp)
  | escape h hm ih => exact ih.1.addRun ih.2 (Delimiter.text_ne_empty _)
  | strip h hm ih => exact ih
  | @split s _ _ m _ rest h hm ih =>
    have hsource := nextMove_source g s (m.whole ++ rest)
    rw [hm] at hsource
    obtain ⟨r, -, -, htoken⟩ := hsource
    refine ⟨(ih.1.cut .split).snoc htoken fun y _ => ⟨fun _ => rfl, fun hg => by cases hg⟩, ?_⟩
    simp [Piece.isGap]
  | block h hm hn hc ih ihn =>
    have hx := ihn.1.excused_blockLeaves ihn.2
    refine ⟨ih.1.snoc (hx _) fun y hy => apart_of_not_isGap (ih.2 y hy) rfl, ?_⟩
    simp [Piece.isGap]

/-! ### Results -/

/-- Without handlers every group in a result has at least two members, so that taking the items of the result together
gives the result again. The leaves of the result are those of what the text has been read as, in order, and for each one
that is empty there is a reason. -/
theorem normalForm_of_result {d : Definition C} {g : Grammar C} (hd : d.resolve = .ok g)
    (hg : ∀ slot, (g.spec slot).handler = none) {o : Options} {text : String} {context : C} {p : Part}
    (hp : (scan g o text context).result = .ok p) :
    (∀ ps, (Part.group ps).Within p → 2 ≤ ps.length) ∧ Part.assemble p.items = p ∧
      ∃ pieces, ReadsAs g o.unterminated text.toList pieces ∧ p = blockValue g g.root pieces none ∧
        p.leaves = (blockLeaves g g.root pieces none).map Leaf.part ∧
        ∀ l ∈ blockLeaves g g.root pieces none, l.text = "" → l.source.MayBeEmpty := by
  obtain ⟨pieces, hreads, rfl⟩ := reads_of_result hd hg hp
  have hc : (blockValue g g.root pieces none).Collapsed := collapsed_blockValue (collapsed_of_mem_partsAll pieces)
  refine ⟨hc, hc.assemble_items, pieces, hreads, rfl, (map_part_blockLeaves g g.root pieces none).symm, ?_⟩
  obtain ⟨read, hread, rfl⟩ := hreads
  obtain ⟨he, hl⟩ := hread.explained
  exact he.excused_blockLeaves hl none

/-- Rows that keep a capture group of their commas, with lists in brackets. -/
def gaps : Definition Unit :=
  .mk { split := some (.pattern ",(x?)"), storeSplit := .group 1 } none
    [("list", .inline (.mk { start := some "[", stop := some "]" } none []))]

/-- In this result there are gaps at both ends, capture groups that have matched nothing and an empty list. -/
theorem normalForm_of_result_gaps :
    ∃ (g : Grammar Unit) (p : Part), gaps.resolve = .ok g ∧ (∀ slot, (g.spec slot).handler = none) ∧
      (scan g {} ",a[]," ()).result = .ok p ∧ p.leaves = [.text "", .text "", .text "a", .text "", .text "", .text ""] ∧
      (∀ ps, (Part.group ps).Within p → 2 ≤ ps.length) ∧
      ∃ pieces, ReadsAs g .error ",a[],".toList pieces ∧
        p.leaves = (blockLeaves g g.root pieces none).map Leaf.part ∧
        ∀ l ∈ blockLeaves g g.root pieces none, l.text = "" → l.source.MayBeEmpty := by
  have h : reaches gaps {} ",a[]," () 5 (fun g s => decide (∀ slot, (g.spec slot).handler.isNone) &&
      match s.advance g {}, s.endRun .stop with
      | .ended _, .ok t =>
        decide (t.root.result = .group [.text "", .text "", .text "a", .text "", .text "", .text ""])
      | _, _ => false) = true := by
    cbv
  obtain ⟨g, s, hg, hs, h⟩ := exists_of_reaches h
  obtain ⟨hh, h⟩ := Bool.and_eq_true_iff.1 h
  have hh : ∀ slot, (g.spec slot).handler = none := fun slot => by simpa using of_decide_eq_true hh slot
  split at h
  case h_2 => cases h
  rename_i he ht
  have hp := hs.result_of_ended he
  rw [ht] at hp
  dsimp only at hp
  rw [of_decide_eq_true h] at hp
  obtain ⟨hgroups, -, pieces, hreads, -, hleaves, hempty⟩ := normalForm_of_result hg hh hp
  exact ⟨g, _, hg, hh, hp, rfl, hgroups, pieces, hreads, hleaves, hempty⟩

end Scan

end Delimited
