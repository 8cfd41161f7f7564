import Mathlib.Data.List.Forall2
import Delimited.Proofs.Grammar.Block
import Delimited.Proofs.Grammar.Resolved
import Delimited.Proofs.Scan.Run

/-!
# Fields in quotes

A line of fields has a character `d` between one field and the next. A field may stand in quotes `q`; then it may hold
anything, and each quote in it is written twice. A field that holds neither `d` nor `q` may also stand as it is.

`Quoting.definition` is the grammar of such lines. A scan of a line gives back the fields that were written in it
(`scan_written`). A field that stands as it is becomes the run of the root, and a field in quotes a value of the root:
in both cases what comes next ends the field in the same way (`Ended`), also when it is empty.
-/

namespace Delimited

/-- The delimiter of one character. -/
def Delimiter.ofChar (c : Char) : Delimiter := ⟨[c], List.cons_ne_nil c []⟩

@[simp] theorem Delimiter.starts_ofChar (c x : Char) (r : List Char) : (ofChar c).starts (x :: r) = (c == x) := by
  simp [starts, ofChar, List.isPrefixOf]

namespace Quoting

open Scan

variable {C : Type} {d q : Char} {name : String}

/-! ### Written fields -/

/-- A text in which each quote is written twice. -/
def doubled (q : Char) (text : List Char) : List Char := text.flatMap fun c => if c = q then [q, q] else [c]

/-- A field in quotes. -/
def quote (q : Char) (field : String) : String := String.ofList (q :: (doubled q field.toList ++ [q]))

/-- The ways in which a field may be written. -/
inductive Written (d q : Char) (field : String) : String → Prop
  | quoted : Written d q field (quote q field)
  | bare (h : ∀ c ∈ field.toList, c ≠ d ∧ c ≠ q) : Written d q field field

/-! ### The grammar -/

/-- Lines of fields that may stand in quotes. -/
def definition (d q : Char) (name : String) : Definition C :=
  .mk { split := some (.literal (String.ofList [d])) } none
    [(name, .inline (.mk
      { start := some (String.ofList [q]), stop := some (String.ofList [q]),
        escapedStop := some (String.ofList [q, q]), replaceEscapes := true } none []))]

/-- Two quotes. -/
def twoQuotes (q : Char) : Delimiter := ⟨[q, q], List.cons_ne_nil q [q]⟩

/-- The spec of the line. -/
def line (d : Char) (name : String) : Spec C 2 where
  path := rootPath
  start := none
  stop := none
  escapedStart := none
  escapedStop := none
  keepDelimiters := false
  replaceEscapes := false
  split := some (.literal (.ofChar d))
  storeSplit := .no
  strip := []
  ignoreEmpty := false
  blocks := [(name, 1)]
  handler := none
  reparse := false
  handleAll := false

/-- The spec of the quotes. -/
def quotes (q : Char) (name : String) : Spec C 2 where
  path := childPath rootPath name
  start := some (.ofChar q)
  stop := some (.ofChar q)
  escapedStart := none
  escapedStop := some (twoQuotes q)
  keepDelimiters := false
  replaceEscapes := true
  split := none
  storeSplit := .no
  strip := []
  ignoreEmpty := false
  blocks := []
  handler := none
  reparse := false
  handleAll := false

/-- What the definition resolves to. -/
abbrev grammar (d q : Char) (name : String) : Grammar C := ⟨2, Nat.zero_lt_two, #v[line d name, quotes q name]⟩

private theorem resolve_definition : (definition d q name : Definition C).resolve = .ok (grammar d q name) := by
  have hblocks : (definition d q name : Definition C).nestedBlocks =
      .ok (#v[[(name, 1)], []] : Vector (List (String × Fin 2)) 2) := by
    refine vector_mapM_of_eq_ok fun k hk => ?_
    -- neither of the blocks shares its nested blocks, and there are no references
    rw [Index.nestedBlocks_of_not_shared]
    all_goals
      match k, hk with
      | 0, _ => rfl
      | 1, _ => rfl
  have hspecs : ∀ (k : Nat) (hk : k < 2), ((definition d q name : Definition C).index.flat ⟨k, hk⟩).spec
      (#v[[(name, 1)], []] : Vector (List (String × Fin 2)) 2)[k] = .ok (grammar d q name).specs[k] := by
    intro k hk
    match k, hk with
    | 0, _ =>
      exact Flat.spec_eq_ok_iff.2 ⟨rfl, rfl, rfl, rfl, rfl, rfl, rfl, .some (.literal (.ofChar d)), rfl, .nil, rfl, rfl,
        rfl, rfl, rfl, fun h => absurd rfl h⟩
    | 1, _ =>
      exact Flat.spec_eq_ok_iff.2 ⟨rfl, rfl, rfl, rfl, rfl, rfl, rfl, .none, rfl, .nil, rfl, rfl, rfl, rfl, rfl,
        fun _ => rfl⟩
  exact Definition.resolve_of_specs rfl rfl hblocks hspecs

/-! ### Moves -/

private theorem delimiters_line : delimiters (grammar d q name : Grammar C) (line d name) = [.ofChar q] := rfl

private theorem delimiters_quotes :
    delimiters (grammar d q name : Grammar C) (quotes q name) = [twoQuotes q, .ofChar q] := rfl

private theorem starts_twoQuotes {c : Char} {r : List Char} :
    (twoQuotes q).starts (c :: r) = true ↔ c = q ∧ r.head? = some q := by
  cases r <;> simp [twoQuotes, Delimiter.starts, List.isPrefixOf, @eq_comm _ q]

private theorem nextMove_quote (r : List Char) :
    nextMove (grammar d q name : Grammar C) (line d name) (q :: r) = .enter name (1 : Fin 2) (.ofChar q) := by
  refine nextMove_eq_enter (by simp [line]) (by simp [line]) ?_ rfl rfl (by simp)
  intro b hb e he
  obtain rfl := List.mem_singleton.1 hb
  cases he

private theorem nextMove_split (h : d ≠ q) (r : List Char) :
    nextMove (grammar d q name : Grammar C) (line d name) (d :: r) = .split ⟨[d], [], List.cons_ne_nil d []⟩ none := by
  refine nextMove_eq_split ?_ rfl ?_
  · simp [delimiters_line, h.symm]
  · simp [Rule.matchStart?, Delimiter.ofChar, RuleMatch.of?, Delimiter.starts, List.isPrefixOf]

private theorem nextMove_bare {c : Char} (hd : c ≠ d) (hq : c ≠ q) (r : List Char) :
    nextMove (grammar d q name : Grammar C) (line d name) (c :: r) = .char := by
  refine nextMove_eq_char ?_ ?_
  · simp [delimiters_line, hq.symm]
  · simp [rules, line, Rule.matchStart?, hd.symm]

private theorem nextMove_doubled (r : List Char) :
    nextMove (grammar d q name : Grammar C) (quotes q name) (q :: q :: r) = .escape (twoQuotes q) (.ofChar q) :=
  nextMove_eq_escape rfl (starts_twoQuotes.2 ⟨rfl, rfl⟩)

private theorem nextMove_unquote {r : List Char} (hr : r.head? ≠ some q) :
    nextMove (grammar d q name : Grammar C) (quotes q name) (q :: r) = .close (.ofChar q) := by
  refine nextMove_eq_close ?_ rfl (by simp)
  rintro e ⟨⟩
  rw [← Bool.not_eq_true, starts_twoQuotes]
  exact fun h => hr h.2

private theorem nextMove_quoted {c : Char} (hq : c ≠ q) (r : List Char) :
    nextMove (grammar d q name : Grammar C) (quotes q name) (c :: r) = .char := by
  refine nextMove_eq_char ?_ ?_
  · simp [delimiters_quotes, ← Bool.not_eq_true, starts_twoQuotes, hq, hq.symm]
  · simp [rules, quotes]

/-! ### Runs -/

/-- The root in front of a field, with the fields before it. -/
def row (d : Char) (name : String) (fields : List String) : OpenBlock C 2 :=
  { OpenBlock.root (line d name) with parts := (fields.map Part.text).toArray, hasSplit := !fields.isEmpty }

/-- The root behind a field, where it ends as the last one of these. -/
structure Ended (d : Char) (name : String) (fields : List String) (b : OpenBlock C 2) : Prop where
  spec : b.spec = line d name
  split : (b.endRun .split).endSegment = row d name fields
  stop : (b.endRun .stop).result = .assemble (fields.map .text)

/-- A field that stands as it is becomes the run. -/
theorem ended_addText (fields : List String) (field : String) :
    Ended d name (fields ++ [field]) ((row d name fields : OpenBlock C 2).addText field) := by
  refine ⟨rfl, ?_, ?_⟩
  · -- an empty run is a field in front of a split
    have hf : ((row d name fields : OpenBlock C 2).addText field).fragment? .split =
        some (field, row d name fields) := by
      simp [OpenBlock.fragment?, OpenBlock.endsEmptySegment, OpenBlock.addText, row, line, OpenBlock.root]
    rw [OpenBlock.endRun, hf]
    simp [OpenBlock.addValue, OpenBlock.endSegment, row, OpenBlock.root]
  · by_cases he : field = "" ∧ fields = []
    · -- the line is empty, and so is its only field
      obtain ⟨rfl, rfl⟩ := he
      rfl
    · have hf : ((row d name fields : OpenBlock C 2).addText field).fragment? .stop =
          some (field, row d name fields) := by
        have hs : ¬field = "" ∨ ¬fields = [] := by rwa [← not_and_or]
        simpa [OpenBlock.fragment?, OpenBlock.endsEmptySegment, OpenBlock.addText, row, line, OpenBlock.root,
          or_iff_not_imp_left] using hs
      rw [OpenBlock.endRun, hf]
      simp [OpenBlock.addValue, OpenBlock.result, row]

/-- A field in quotes becomes a value. -/
theorem ended_addValue (fields : List String) (field : String) :
    Ended d name (fields ++ [field]) ((row d name fields : OpenBlock C 2).addValue (.text field)) := by
  have hf : ∀ k, ((row d name fields : OpenBlock C 2).addValue (.text field)).fragment? k = none := by
    intro k
    cases k <;> simp [OpenBlock.fragment?, OpenBlock.endsEmptySegment, OpenBlock.addValue, row, OpenBlock.root]
  refine ⟨rfl, ?_, ?_⟩
  · rw [OpenBlock.endRun, hf]
    simp [OpenBlock.addValue, OpenBlock.endSegment, row, OpenBlock.root]
  · rw [OpenBlock.endRun, hf]
    simp [OpenBlock.addValue, OpenBlock.result, row]

/-- Quotes in which a text has been read. -/
def opened (q : Char) (name : String) (i : Nat) (text : String) : OpenBlock C 2 :=
  ((OpenBlock.enter name (quotes q name) i (.ofChar q)).goOnAt 0).addText text

private theorem addText_opened (i : Nat) (text : String) :
    (opened q name i "" : OpenBlock C 2).addText text = opened q name i text := by
  rw [opened, OpenBlock.addText_addText, String.empty_append, opened]

/-- Quotes give the text in them, also when it is empty. -/
theorem result_opened (i : Nat) (text : String) :
    (((opened q name i text : OpenBlock C 2).endRun .stop).addStop (some (.ofChar q))).result = .text text := by
  by_cases ht : text = ""
  · rw [ht]
    rfl
  · have hr : (opened q name i text : OpenBlock C 2).run = text := by
      simp [opened, OpenBlock.addText, OpenBlock.goOnAt, OpenBlock.enter]
    rw [OpenBlock.endRun_of_run (by rwa [hr]), hr]
    rfl

/-- In the middle of a line, with what is left of it behind an offset. -/
abbrev within (i : Nat) (rest : List Char) (b : OpenBlock C 2) (around : List (OpenBlock C 2)) : Situation C 2 :=
  ⟨⟨i, rest⟩, [], b, around, 0⟩

variable {o : Options}

/-- Between quotes the text is read, with one quote for two of them. -/
theorem reaches_doubled {s : Situation C 2} (hspec : s.active.spec = quotes q name) {text r : List Char}
    (hs : s.text.rest = doubled q text ++ r) :
    Situation.Reaches (grammar d q name) o s
      { s with text := s.text.skip (doubled q text), active := s.active.addText (String.ofList text) } := by
  induction text generalizing s with
  | nil => exact .read_nil
  | cons c text ih =>
    by_cases hc : c = q
    · subst hc
      have hd : doubled c (c :: text) = [c, c] ++ doubled c text := by simp [doubled]
      rw [hd, List.append_assoc] at hs
      rw [hd]
      refine .read_append (x := [c]) (.escape (m := twoQuotes c) (x := .ofChar c) hs ?_)
        (ih hspec (by simp [Left.skip, hs]))
      rw [hspec, hs]
      exact nextMove_doubled _
    · have hd : doubled q (c :: text) = [c] ++ doubled q text := by simp [doubled, hc]
      rw [hd, List.append_assoc] at hs
      rw [hd]
      refine .read_append (x := [c]) (.char hs ?_) (ih hspec (by simp [Left.skip, hs]))
      rw [hspec, hs]
      exact nextMove_quoted hc _

variable (name)

/-- A field that stands as it is is read up to its end. -/
theorem reaches_bare {field : String} (h : ∀ c ∈ field.toList, c ≠ d ∧ c ≠ q) (fields : List String) (r : List Char)
    (i : Nat) :
    Situation.Reaches (grammar d q name : Grammar C) o (within i (field.toList ++ r) (row d name fields) [])
      (within (i + byteLength field.toList) r ((row d name fields).addText field) []) := by
  have hchar : ∀ m, m ≠ [] → m <:+ field.toList →
      nextMove (grammar d q name : Grammar C) (line d name) (m ++ r) = .char := by
    intro m hm hs
    obtain ⟨c, m, rfl⟩ := List.exists_cons_of_ne_nil hm
    obtain ⟨hd, hq⟩ := h c (hs.mem List.mem_cons_self)
    exact nextMove_bare hd hq (m ++ r)
  have hread := Situation.Reaches.read (g := grammar d q name) (o := o)
    (s := within i (field.toList ++ r) (row d name fields) []) (r := r) rfl hchar
  rwa [Left.skip_of_append, String.ofList_toList] at hread

/-- A field in quotes is read up to its end. What comes next must not be a quote, which would be one of two. -/
theorem reaches_quote (field : String) (fields : List String) {r : List Char} (hr : r.head? ≠ some q) (i : Nat) :
    Situation.Reaches (grammar d q name : Grammar C) o (within i ((quote q field).toList ++ r) (row d name fields) [])
      (within (i + byteLength (quote q field).toList) r ((row d name fields).addValue (.text field)) []) := by
  let body : List Char := doubled q field.toList
  have htext : (quote q field).toList ++ r = q :: (body ++ (q :: r)) := by simp [quote, body]
  have hlength : byteLength (quote q field).toList = byteLength ([q] ++ body ++ [q]) := by simp [quote, body]
  rw [htext, hlength]
  have henter : Situation.Reaches (grammar d q name : Grammar C) o
      (within i (q :: (body ++ (q :: r))) (row d name fields) [])
      (within (i + byteLength [q]) (body ++ (q :: r)) (opened q name i "") [row d name fields]) :=
    .move (by simp) (nextMove_quote _) (Situation.makeMove_enter rfl rfl name _)
  have hbody : Situation.Reaches (grammar d q name : Grammar C) o
      (within (i + byteLength [q]) (body ++ (q :: r)) (opened q name i "") [row d name fields])
      (within (i + byteLength ([q] ++ body)) (q :: r) (opened q name i field) [row d name fields]) := by
    have hread := reaches_doubled (C := C) (d := d) (o := o)
      (s := within (i + byteLength [q]) (body ++ (q :: r)) (opened q name i "") [row d name fields]) rfl rfl
    rwa [Left.skip_of_append, String.ofList_toList, addText_opened, Nat.add_assoc, ← byteLength_append] at hread
  have hclose : Situation.Reaches (grammar d q name : Grammar C) o
      (within (i + byteLength ([q] ++ body)) (q :: r) (opened q name i field) [row d name fields])
      (within (i + byteLength ([q] ++ body ++ [q])) r ((row d name fields).addValue (.text field)) []) := by
    refine .move (by simp) (nextMove_unquote hr) ?_
    have hskip : (⟨i + byteLength ([q] ++ body), q :: r⟩ : Left).skip (Delimiter.ofChar q).chars =
        ⟨i + byteLength ([q] ++ body ++ [q]), r⟩ := by
      rw [byteLength_append _ [q], ← Nat.add_assoc]
      exact Left.skip_of_append [q] r
    rw [Situation.makeMove_close rfl rfl, result_opened, hskip]
    rfl
  exact henter.trans (hbody.trans hclose)

/-- A field that has been written is read up to its end. -/
theorem reaches_written {field text : String} (h : Written d q field text) (fields : List String) {r : List Char}
    (hr : r.head? ≠ some q) (i : Nat) :
    ∃ b, Ended d name (fields ++ [field]) b ∧
      Situation.Reaches (grammar d q name : Grammar C) o (within i (text.toList ++ r) (row d name fields) [])
        (within (i + byteLength text.toList) r b []) := by
  cases h with
  | bare h => exact ⟨_, ended_addText fields field, reaches_bare name h fields r i⟩
  | quoted => exact ⟨_, ended_addValue fields field, reaches_quote name field fields hr i⟩

/-- Between two fields the first one ends. -/
theorem reaches_split (h : d ≠ q) {fields : List String} {b : OpenBlock C 2} (hb : Ended d name fields b)
    (r : List Char) (i : Nat) :
    Situation.Reaches (grammar d q name : Grammar C) o (within i (d :: r) b [])
      (within (i + byteLength [d]) r (row d name fields) []) := by
  have hm : nextMove (grammar d q name : Grammar C) b.spec (d :: r) = .split ⟨[d], [], List.cons_ne_nil d []⟩ none := by
    rw [hb.spec, nextMove_split h]
  refine .move (by simp) hm ?_
  rw [Situation.makeMove_split (by rw [hb.spec]; rfl), ← hb.split]
  rfl

/-- A line is read up to its end. -/
theorem reaches_line (hdq : d ≠ q) {fields texts : List String} (h : List.Forall₂ (Written d q) fields texts)
    (hne : fields ≠ []) (before : List String) (i : Nat) :
    ∃ b j, Ended d name (before ++ fields) b ∧
      Situation.Reaches (grammar d q name : Grammar C) o
        (within i ((String.ofList [d]).intercalate texts).toList (row d name before) []) (within j [] b []) := by
  induction h generalizing before i with
  | nil => exact absurd rfl hne
  | @cons field text fields texts hw hws ih =>
    cases hws with
    | nil =>
      obtain ⟨b, hb, hfield⟩ := reaches_written name hw before (r := []) (by simp) i
      rw [List.append_nil] at hfield
      exact ⟨b, _, hb, by simpa using hfield⟩
    | @cons field' text' fields texts hw' hws =>
      let rest : List Char := ((String.ofList [d]).intercalate (text' :: texts)).toList
      have htext : ((String.ofList [d]).intercalate (text :: text' :: texts)).toList = text.toList ++ d :: rest := by
        simp [rest]
      obtain ⟨b, hb, hfield⟩ := reaches_written name hw before (r := d :: rest) (by simpa using hdq) i
      obtain ⟨b', j, hb', hrest⟩ := ih (by simp) (before ++ [field]) (i + byteLength text.toList + byteLength [d])
      rw [List.append_assoc, List.singleton_append] at hb'
      refine ⟨b', j, hb', ?_⟩
      rw [htext]
      exact hfield.trans ((reaches_split name hdq hb rest _).trans hrest)

/-- A scan of a line gives back the fields that are written in it. -/
theorem scan_written (hdq : d ≠ q) {fields texts : List String} (hne : fields ≠ [])
    (h : List.Forall₂ (Written d q) fields texts) :
    ∃ g : Grammar C, (definition d q name).resolve = .ok g ∧ ∀ o context,
      (scan g o ((String.ofList [d]).intercalate texts) context).result = .ok (.assemble (fields.map .text)) ∧
        (scan g o ((String.ofList [d]).intercalate texts) context).context = context := by
  refine ⟨grammar d q name, resolve_definition, fun o context => ?_⟩
  obtain ⟨b, j, hb, hreaches⟩ := reaches_line (C := C) (o := o) name hdq h hne [] 0
  rw [List.nil_append] at hb
  rw [← hb.stop]
  exact scan_of_reaches rfl hreaches rfl rfl rfl (by rw [hb.spec]; rfl) context

/-- Bare and quoted fields, of which one is empty and one holds a quote and a comma. -/
theorem scan_written_mixed :
    ',' ≠ '"' ∧ ["a", "", "\"b,c", ""] ≠ [] ∧
      List.Forall₂ (Written ',' '"') ["a", "", "\"b,c", ""] ["a", "\"\"", "\"\"\"b,c\"", ""] ∧
        ∃ g : Grammar Nat, (definition ',' '"' "quotes").resolve = .ok g ∧ ∀ o context,
          (scan g o "a,\"\",\"\"\"b,c\"," context).result =
              .ok (.group [.text "a", .text "", .text "\"b,c", .text ""]) ∧
            (scan g o "a,\"\",\"\"\"b,c\"," context).context = context := by
  have hq₁ : quote '"' "" = "\"\"" := rfl
  have hq₂ : quote '"' "\"b,c" = "\"\"\"b,c\"" := rfl
  have hw : List.Forall₂ (Written ',' '"') ["a", "", "\"b,c", ""] ["a", "\"\"", "\"\"\"b,c\"", ""] := by
    rw [← hq₁, ← hq₂]
    exact .cons (.bare (by simp)) (.cons .quoted (.cons .quoted (.cons (.bare (by simp)) .nil)))
  have hline : (String.ofList [',']).intercalate ["a", "\"\"", "\"\"\"b,c\"", ""] = "a,\"\",\"\"\"b,c\"," := rfl
  rw [← hline]
  exact ⟨by decide, by simp, hw, scan_written "quotes" (by decide) (by simp) hw⟩

end Quoting

end Delimited
