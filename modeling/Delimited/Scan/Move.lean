import Delimited.Grammar.Spec
import Delimited.Text.ByteLength

/-!
# Moves

`nextMove` decides what a scan does next, from what is left of the text and the spec of the innermost open block. In
this order it looks for the escaped stop of the block, its stop, the escaped starts of its nested blocks, their
starts, its split and its strips; any other character is text. Of several nested blocks the first one wins.

Every move but the last carries what it has recognised, which is never empty and stands at the start of the text
(`recognised_isPrefix`); and every move comes from what the block says, or its nested blocks (`nextMove_source`).
Two texts lead to the same move when the delimiters and rules that are looked for find the same in both of them
(`nextMove_congr`). Where it is known what stands at the start of a text, so is the move (`nextMove_eq_escape` to
`nextMove_eq_char`).
-/

namespace Delimited.Scan

variable {C : Type} {n : Nat}

/-- What a scan does next, in a grammar of `n` blocks. -/
inductive Move (n : Nat) where
  /-- An escaped delimiter stands for a text. -/
  | escape (escaped literal : Delimiter)
  /-- The stop of the block. -/
  | close (stop : Delimiter)
  /-- The start of a nested block. -/
  | enter (name : String) (slot : Fin n) (start : Delimiter)
  /-- A match of the split rule, and the part of it that is kept. -/
  | split (m : RuleMatch) (token : Option String)
  /-- A match of a strip rule. -/
  | strip (m : RuleMatch)
  /-- A character of text. -/
  | char
deriving DecidableEq

/-- The match of a block's split rule, and the part of it that is kept. -/
def splitMatch? (s : Spec C n) (rest : List Char) : Option (RuleMatch × Option String) := do
  let m ← (← s.split).matchStart? rest
  return (m, s.storeSplit.token? m)

/-- The match of the first strip rule that has one. -/
def stripMatch? (s : Spec C n) (rest : List Char) : Option RuleMatch := s.strip.findSome? (·.matchStart? rest)

/-- The delimiter, if it is there and the text starts with it. -/
private def found? (d : Option Delimiter) (rest : List Char) : Option Delimiter := d.filter (·.starts rest)

/-- The escape of a delimiter, if the text starts with it. It stands for itself, or for the bare delimiter. -/
private def escape? (replace : Bool) (escaped bare : Option Delimiter) (rest : List Char) : Option (Move n) :=
  (found? escaped rest).map fun e => .escape e (if replace then bare.getD e else e)

/-- The next move, if it is a nested block's escaped start. -/
private def escapedStart? (g : Grammar C) (s : Spec C g.size) (rest : List Char) : Option (Move g.size) :=
  s.blocks.findSome? fun (_, slot) =>
    let child := g.spec slot
    escape? child.replaceEscapes child.escapedStart child.start rest

/-- The next move, if it is a nested block's start. -/
private def start? (g : Grammar C) (s : Spec C g.size) (rest : List Char) : Option (Move g.size) :=
  s.blocks.findSome? fun (name, slot) => (found? (g.spec slot).start rest).map (Move.enter name slot)

/-- The next move in a block, when `rest` is left of the text, unless it takes a character as text. -/
def recognise? (g : Grammar C) (s : Spec C g.size) (rest : List Char) : Option (Move g.size) :=
  escape? s.replaceEscapes s.escapedStop s.stop rest
    <|> (found? s.stop rest).map Move.close
    <|> escapedStart? g s rest
    <|> start? g s rest
    <|> (splitMatch? s rest).map (fun (m, token) => Move.split m token)
    <|> (stripMatch? s rest).map Move.strip

/-- The next move in a block, when `rest` is left of the text. -/
def nextMove (g : Grammar C) (s : Spec C g.size) (rest : List Char) : Move g.size := (recognise? g s rest).getD .char

/-! ### What a move recognises -/

/-- The text that a move has recognised. -/
def Move.recognised : Move n → List Char
  | .escape escaped _ => escaped.chars
  | .close stop => stop.chars
  | .enter _ _ start => start.chars
  | .split m _ => m.whole
  | .strip m => m.whole
  | .char => []

private theorem prefix_of_found {d : Option Delimiter} {rest : List Char} {x : Delimiter}
    (h : found? d rest = some x) : x.chars <+: rest := by
  rw [found?, Option.filter_eq_some_iff] at h
  exact List.isPrefixOf_iff_prefix.1 h.2

private theorem prefix_of_escape {replace : Bool} {escaped bare : Option Delimiter} {rest : List Char} {st : Move n}
    (h : escape? replace escaped bare rest = some st) : st.recognised <+: rest := by
  obtain ⟨e, he, rfl⟩ := Option.map_eq_some_iff.1 h
  exact prefix_of_found he

private theorem orElse_eq_some {α : Type} {x y : Option α} {a : α} (h : (x <|> y) = some a) :
    x = some a ∨ y = some a := by
  cases x with
  | none => exact Or.inr h
  | some b => exact Or.inl h

private theorem prefix_of_recognise {g : Grammar C} {s : Spec C g.size} {rest : List Char} {st : Move g.size}
    (h : recognise? g s rest = some st) : st.recognised <+: rest := by
  rcases orElse_eq_some h with h | h
  · exact prefix_of_escape h
  rcases orElse_eq_some h with h | h
  · obtain ⟨d, hd, rfl⟩ := Option.map_eq_some_iff.1 h
    exact prefix_of_found hd
  rcases orElse_eq_some h with h | h
  · obtain ⟨b, -, h⟩ := List.exists_of_findSome?_eq_some h
    exact prefix_of_escape h
  rcases orElse_eq_some h with h | h
  · obtain ⟨b, -, h⟩ := List.exists_of_findSome?_eq_some h
    obtain ⟨d, hd, rfl⟩ := Option.map_eq_some_iff.1 h
    exact prefix_of_found hd
  rcases orElse_eq_some h with h | h
  · obtain ⟨⟨m, token⟩, hm, rfl⟩ := Option.map_eq_some_iff.1 h
    simp only [splitMatch?, Option.bind_eq_bind, Option.bind_eq_some_iff, Option.pure_def, Option.some.injEq,
      Prod.mk.injEq] at hm
    obtain ⟨r, -, k, hk, rfl, -⟩ := hm
    exact Rule.whole_prefix hk
  · obtain ⟨m, hm, rfl⟩ := Option.map_eq_some_iff.1 h
    obtain ⟨r, -, hr⟩ := List.exists_of_findSome?_eq_some hm
    exact Rule.whole_prefix hr

/-- What a move has recognised stands at the start of the text. -/
theorem recognised_isPrefix (g : Grammar C) (s : Spec C g.size) (rest : List Char) :
    (nextMove g s rest).recognised <+: rest := by
  unfold nextMove
  cases h : recognise? g s rest with
  | none => exact List.nil_prefix
  | some st => exact prefix_of_recognise h

/-! ### Where a move comes from -/

/-- Where the next move in a block may come from, when `rest` is left of the text. -/
def Move.Source (g : Grammar C) (s : Spec C g.size) (rest : List Char) : Move g.size → Prop
  | .escape escaped literal =>
    (s.escapedStop = some escaped ∧ literal = if s.replaceEscapes then s.stop.getD escaped else escaped) ∨
      ∃ b ∈ s.blocks, (g.spec b.2).escapedStart = some escaped ∧
        literal = if (g.spec b.2).replaceEscapes then (g.spec b.2).start.getD escaped else escaped
  | .close stop => s.stop = some stop
  | .enter name slot start => (name, slot) ∈ s.blocks ∧ (g.spec slot).start = some start
  | .split m token => ∃ r, s.split = some r ∧ r.matchStart? rest = some m ∧ token = s.storeSplit.token? m
  | .strip m => ∃ r ∈ s.strip, r.matchStart? rest = some m
  | .char => True

private theorem eq_some_of_found {d : Option Delimiter} {rest : List Char} {x : Delimiter}
    (h : found? d rest = some x) : d = some x := (Option.filter_eq_some_iff.1 h).1

private theorem source_of_recognise {g : Grammar C} {s : Spec C g.size} {rest : List Char} {m : Move g.size}
    (h : recognise? g s rest = some m) : m.Source g s rest := by
  rcases orElse_eq_some h with h | h
  · obtain ⟨e, he, rfl⟩ := Option.map_eq_some_iff.1 h
    exact Or.inl ⟨eq_some_of_found he, rfl⟩
  rcases orElse_eq_some h with h | h
  · obtain ⟨d, hd, rfl⟩ := Option.map_eq_some_iff.1 h
    exact eq_some_of_found hd
  rcases orElse_eq_some h with h | h
  · obtain ⟨b, hb, h⟩ := List.exists_of_findSome?_eq_some h
    obtain ⟨e, he, rfl⟩ := Option.map_eq_some_iff.1 h
    exact Or.inr ⟨b, hb, eq_some_of_found he, rfl⟩
  rcases orElse_eq_some h with h | h
  · obtain ⟨b, hb, h⟩ := List.exists_of_findSome?_eq_some h
    obtain ⟨d, hd, rfl⟩ := Option.map_eq_some_iff.1 h
    exact ⟨hb, eq_some_of_found hd⟩
  rcases orElse_eq_some h with h | h
  · obtain ⟨⟨k, token⟩, hm, rfl⟩ := Option.map_eq_some_iff.1 h
    simp only [splitMatch?, Option.bind_eq_bind, Option.bind_eq_some_iff, Option.pure_def, Option.some.injEq,
      Prod.mk.injEq] at hm
    obtain ⟨r, hr, k', hk, rfl, rfl⟩ := hm
    exact ⟨r, hr, hk, rfl⟩
  · obtain ⟨k, hk, rfl⟩ := Option.map_eq_some_iff.1 h
    exact List.exists_of_findSome?_eq_some hk

/-- A move comes from what the block says, or from the blocks that may be nested in it. -/
theorem nextMove_source (g : Grammar C) (s : Spec C g.size) (rest : List Char) :
    (nextMove g s rest).Source g s rest := by
  unfold nextMove
  cases h : recognise? g s rest with
  | none => trivial
  | some m => exact source_of_recognise h

theorem Move.eq_char_of_recognised {m : Move n} (h : m.recognised = []) : m = .char := by
  cases m with
  | char => rfl
  | escape escaped literal => exact absurd h escaped.ne_nil
  | close stop => exact absurd h stop.ne_nil
  | enter name slot start => exact absurd h start.ne_nil
  | split m token => exact absurd h m.ne_nil
  | strip m => exact absurd h m.ne_nil

/-- Where nothing is left of the text, nothing is found. -/
theorem nextMove_nil (g : Grammar C) (s : Spec C g.size) : nextMove g s [] = .char :=
  Move.eq_char_of_recognised (List.prefix_nil.1 (recognised_isPrefix g s []))

/-- Only the stop of the block closes it. -/
theorem stop_of_nextMove {g : Grammar C} {s : Spec C g.size} {rest : List Char} {stop : Delimiter}
    (h : nextMove g s rest = .close stop) : s.stop = some stop := by
  have hs := nextMove_source g s rest
  rw [h] at hs
  exact hs

/-! ### What a move looks for -/

/-- The delimiters that may be found in a block. -/
def delimiters (g : Grammar C) (s : Spec C g.size) : List Delimiter :=
  s.escapedStop.toList ++ s.stop.toList ++
    s.blocks.flatMap fun b => (g.spec b.2).escapedStart.toList ++ (g.spec b.2).start.toList

/-- The rules that may match in a block. -/
def rules (s : Spec C n) : List Rule := s.split.toList ++ s.strip

private theorem findSome?_congr {α β : Type} {f f' : α → Option β} {l : List α} (h : ∀ a ∈ l, f a = f' a) :
    l.findSome? f = l.findSome? f' := by
  induction l with
  | nil => rfl
  | cons a l ih =>
    obtain ⟨ha, hl⟩ := List.forall_mem_cons.1 h
    rw [List.findSome?_cons, List.findSome?_cons, ha, ih hl]

private theorem found?_congr {d : Option Delimiter} {rest rest' : List Char}
    (h : ∀ x ∈ d.toList, x.starts rest = x.starts rest') : found? d rest = found? d rest' := by
  cases d with
  | none => rfl
  | some x =>
    unfold found?
    rw [Option.filter_some, Option.filter_some, h x (by simp)]

private theorem escape?_congr {replace : Bool} {escaped bare : Option Delimiter} {rest rest' : List Char}
    (h : ∀ x ∈ escaped.toList, x.starts rest = x.starts rest') :
    (escape? replace escaped bare rest : Option (Move n)) = escape? replace escaped bare rest' := by
  unfold escape?
  rw [found?_congr h]

/-- The next move depends on no more than which delimiters stand at the start of the text, and what the rules match
there. -/
theorem nextMove_congr {g : Grammar C} {s : Spec C g.size} {rest rest' : List Char}
    (hd : ∀ d ∈ delimiters g s, d.starts rest = d.starts rest')
    (hr : ∀ r ∈ rules s, r.matchStart? rest = r.matchStart? rest') : nextMove g s rest = nextMove g s rest' := by
  have hd : (∀ d ∈ s.escapedStop.toList, d.starts rest = d.starts rest') ∧
      (∀ d ∈ s.stop.toList, d.starts rest = d.starts rest') ∧
      ∀ b ∈ s.blocks, (∀ d ∈ (g.spec b.2).escapedStart.toList, d.starts rest = d.starts rest') ∧
        ∀ d ∈ (g.spec b.2).start.toList, d.starts rest = d.starts rest' := by
    simp only [delimiters, List.forall_mem_append, List.forall_mem_flatMap] at hd
    exact ⟨hd.1.1, hd.1.2, hd.2⟩
  obtain ⟨hescaped, hstop, hblocks⟩ := hd
  obtain ⟨hsplit, hstrip⟩ := List.forall_mem_append.1 hr
  have h₁ : escapedStart? g s rest = escapedStart? g s rest' :=
    findSome?_congr fun b hb => escape?_congr (hblocks b hb).1
  have h₂ : start? g s rest = start? g s rest' := by
    refine findSome?_congr fun b hb => ?_
    show (found? (g.spec b.2).start rest).map _ = (found? (g.spec b.2).start rest').map _
    rw [found?_congr (hblocks b hb).2]
  have h₃ : splitMatch? s rest = splitMatch? s rest' := by
    unfold splitMatch?
    cases hs : s.split with
    | none => rfl
    | some r =>
      rw [hs] at hsplit
      simp only [Option.bind_eq_bind, Option.bind_some, hsplit r (by simp)]
  have h₄ : stripMatch? s rest = stripMatch? s rest' := findSome?_congr hstrip
  unfold nextMove recognise?
  rw [escape?_congr hescaped, found?_congr hstop, h₁, h₂, h₃, h₄]

/-! ### Moves in another grammar -/

/-- The move with another slot for the block that is entered. -/
def Move.map {m : Nat} (f : Fin n → Fin m) : Move n → Move m
  | .escape escaped literal => .escape escaped literal
  | .close stop => .close stop
  | .enter name slot start => .enter name (f slot) start
  | .split k token => .split k token
  | .strip k => .strip k
  | .char => .char

theorem Move.map_id (m : Move n) : m.map id = m := by
  cases m <;> rfl

private theorem map_orElse {α β : Type} (f : α → β) (x y : Option α) : (x <|> y).map f = (x.map f <|> y.map f) := by
  cases x <;> rfl

private theorem map_findSome? {α β γ : Type} (f : β → γ) (p : α → Option β) (l : List α) :
    (l.findSome? p).map f = l.findSome? fun a => (p a).map f := by
  induction l with
  | nil => rfl
  | cons a l ih =>
    rw [List.findSome?_cons, List.findSome?_cons]
    cases p a with
    | none => exact ih
    | some b => rfl

private theorem map_escape? {m : Nat} (f : Fin n → Fin m) (replace : Bool) (escaped bare : Option Delimiter)
    (rest : List Char) :
    (escape? replace escaped bare rest : Option (Move n)).map (Move.map f) = escape? replace escaped bare rest := by
  unfold escape?
  rw [Option.map_map]
  rfl

/-- In another grammar the next move in a block that says the same is the same one, when the nested blocks have the same
names and delimiters. -/
theorem nextMove_map {g h : Grammar C} (f : Fin g.size → Fin h.size) {s : Spec C g.size} {s' : Spec C h.size}
    (hstop : s'.stop = s.stop) (hescaped : s'.escapedStop = s.escapedStop) (hreplace : s'.replaceEscapes = s.replaceEscapes)
    (hsplit : s'.split = s.split) (hstore : s'.storeSplit = s.storeSplit) (hstrip : s'.strip = s.strip)
    (hblocks : s'.blocks = s.blocks.map fun b => (b.1, f b.2))
    (hnested : ∀ k, (h.spec (f k)).start = (g.spec k).start ∧ (h.spec (f k)).escapedStart = (g.spec k).escapedStart ∧
      (h.spec (f k)).replaceEscapes = (g.spec k).replaceEscapes) (rest : List Char) :
    nextMove h s' rest = (nextMove g s rest).map f := by
  have h₁ : escapedStart? h s' rest = (escapedStart? g s rest).map (Move.map f) := by
    unfold escapedStart?
    rw [hblocks, List.findSome?_map, map_findSome?]
    refine findSome?_congr fun b _ => ?_
    obtain ⟨hs, he, hr⟩ := hnested b.2
    rw [Function.comp_apply, map_escape?]
    dsimp only
    rw [hs, he, hr]
  have h₂ : start? h s' rest = (start? g s rest).map (Move.map f) := by
    unfold start?
    rw [hblocks, List.findSome?_map, map_findSome?]
    refine findSome?_congr fun b _ => ?_
    rw [Function.comp_apply]
    dsimp only
    rw [(hnested b.2).1, Option.map_map]
    rfl
  have h₃ : splitMatch? s' rest = splitMatch? s rest := by
    unfold splitMatch?
    rw [hsplit, hstore]
  have h₄ : recognise? h s' rest = (recognise? g s rest).map (Move.map f) := by
    unfold recognise?
    rw [hstop, hescaped, hreplace, h₁, h₂, h₃, stripMatch?, hstrip, ← stripMatch?]
    simp only [map_orElse, map_escape?, Option.map_map]
    rfl
  unfold nextMove
  rw [h₄]
  cases recognise? g s rest <;> rfl

/-! ### Moves that cannot be told apart -/

/-- Two moves that a scan cannot tell apart: of a match it uses no more than what is consumed, and the part that is kept. -/
inductive Move.Alike : Move n → Move n → Prop
  | same (m : Move n) : Alike m m
  | split {k k' : RuleMatch} (h : k'.whole = k.whole) (token : Option String) : Alike (.split k token) (.split k' token)
  | strip {k k' : RuleMatch} (h : k'.whole = k.whole) : Alike (.strip k) (.strip k')

namespace Move.Alike

variable {m m' m'' : Move n}

theorem symm (h : Alike m m') : Alike m' m := by
  cases h with
  | same => exact .same _
  | split h token => exact .split h.symm token
  | strip h => exact .strip h.symm

theorem trans (h : Alike m m') (h' : Alike m' m'') : Alike m m'' := by
  cases h with
  | same => exact h'
  | split h token =>
    cases h' with
    | same => exact .split h token
    | split h' => exact .split (h'.trans h) token
  | strip h =>
    cases h' with
    | same => exact .strip h
    | strip h' => exact .strip (h'.trans h)

end Move.Alike

/-! ### Finding a move -/

private theorem found?_of_starts {d : Option Delimiter} {x : Delimiter} {rest : List Char} (hd : d = some x)
    (h : x.starts rest = true) : found? d rest = some x := by
  rw [found?, hd, Option.filter_some, if_pos h]

private theorem found?_eq_none {d : Option Delimiter} {rest : List Char} (h : ∀ x, d = some x → x.starts rest = false) :
    found? d rest = none := by
  rw [found?, Option.filter_eq_none_iff]
  intro x hx
  simp [h x hx]

section

variable {g : Grammar C} {s : Spec C g.size} {rest : List Char}

private theorem escapedStart?_eq_none
    (h : ∀ b ∈ s.blocks, ∀ e, (g.spec b.2).escapedStart = some e → e.starts rest = false) :
    escapedStart? g s rest = none := by
  refine List.findSome?_eq_none_iff.2 fun b hb => ?_
  show (found? (g.spec b.2).escapedStart rest).map _ = none
  rw [found?_eq_none (h b hb)]
  rfl

/-- The escaped stop of the block comes first of all. -/
theorem nextMove_eq_escape {escaped : Delimiter} (hs : s.escapedStop = some escaped) (h : escaped.starts rest = true) :
    nextMove g s rest = .escape escaped (if s.replaceEscapes then s.stop.getD escaped else escaped) := by
  unfold nextMove recognise? escape?
  rw [found?_of_starts hs h]
  rfl

/-- The stop of the block comes first of what is not escaped. -/
theorem nextMove_eq_close {stop : Delimiter} (he : ∀ e, s.escapedStop = some e → e.starts rest = false)
    (hs : s.stop = some stop) (h : stop.starts rest = true) : nextMove g s rest = .close stop := by
  unfold nextMove recognise? escape?
  rw [found?_eq_none he, found?_of_starts hs h]
  rfl

/-- The start of the first nested block, when nothing of the block itself is there and no start is escaped. -/
theorem nextMove_eq_enter {name : String} {slot : Fin g.size} {start : Delimiter} {blocks : List (String × Fin g.size)}
    (he : ∀ e, s.escapedStop = some e → e.starts rest = false) (hs : ∀ d, s.stop = some d → d.starts rest = false)
    (hn : ∀ b ∈ s.blocks, ∀ e, (g.spec b.2).escapedStart = some e → e.starts rest = false)
    (hb : s.blocks = (name, slot) :: blocks) (hstart : (g.spec slot).start = some start)
    (h : start.starts rest = true) : nextMove g s rest = .enter name slot start := by
  have hfound : start? g s rest = some (.enter name slot start) := by
    unfold start?
    rw [hb, List.findSome?_cons]
    dsimp only
    rw [found?_of_starts hstart h]
    rfl
  unfold nextMove recognise? escape?
  rw [found?_eq_none he, found?_eq_none hs, escapedStart?_eq_none hn, hfound]
  rfl

private theorem nextMove_of_not_starts (h : ∀ d ∈ delimiters g s, d.starts rest = false) :
    nextMove g s rest = (((splitMatch? s rest).map fun (m, token) => Move.split m token)
      <|> (stripMatch? s rest).map Move.strip).getD .char := by
  simp only [delimiters, List.forall_mem_append, List.forall_mem_flatMap, Option.mem_toList] at h
  obtain ⟨⟨hescaped, hstop⟩, hblocks⟩ := h
  have hstart : start? g s rest = none := by
    refine List.findSome?_eq_none_iff.2 fun b hb => ?_
    show (found? (g.spec b.2).start rest).map _ = none
    rw [found?_eq_none (hblocks b hb).2]
    rfl
  unfold nextMove recognise? escape?
  rw [found?_eq_none hescaped, found?_eq_none hstop, escapedStart?_eq_none fun b hb => (hblocks b hb).1, hstart]
  rfl

/-- The split of the block, when no delimiter is there. -/
theorem nextMove_eq_split (hd : ∀ d ∈ delimiters g s, d.starts rest = false) {r : Rule} {m : RuleMatch}
    (hs : s.split = some r) (h : r.matchStart? rest = some m) :
    nextMove g s rest = .split m (s.storeSplit.token? m) := by
  have hm : splitMatch? s rest = some (m, s.storeSplit.token? m) := by
    unfold splitMatch?
    rw [hs]
    simp [h]
  rw [nextMove_of_not_starts hd, hm]
  rfl

/-- Where no delimiter is there and no rule matches, a character is text. -/
theorem nextMove_eq_char (hd : ∀ d ∈ delimiters g s, d.starts rest = false)
    (hr : ∀ r ∈ rules s, r.matchStart? rest = none) : nextMove g s rest = .char := by
  obtain ⟨hsplit, hstrip⟩ := List.forall_mem_append.1 hr
  have h₁ : splitMatch? s rest = none := by
    unfold splitMatch?
    cases hs : s.split with
    | none => rfl
    | some r => simp [hsplit r (by simp [hs])]
  have h₂ : stripMatch? s rest = none := List.findSome?_eq_none_iff.2 hstrip
  rw [nextMove_of_not_starts hd, h₁, h₂]
  rfl

end

end Delimited.Scan
