import Delimited.Proofs.Grammar.Resolved
import Delimited.Proofs.GrammarFile.Layout

/-!
# Reading grammar files

A table that is written for a definition is read as this definition (`GrammarFile.toGrammar_of_writtenAs`). The fields of
a block come first, then the nested blocks, by induction over the tree.

Before a file is read, dates are looked for in what is nested in the root. Nothing that is written for a definition is a
date, but a table whose first key is `dateKey` is taken for one. So nothing is found, and the table stays as it is, just
when no nested blocks below those of the root begin with this key (`EntriesWrittenAs.findDatesInEntries?`).
-/

namespace Delimited

open Toml (Value)

variable {C : Type} {registry : Registry C}

/-! ### Attributes -/

private theorem optionalField_map {α : Type} {read? : Value → Option α} {write : α → Value}
    (h : ∀ a, read? (write a) = some a)
    {a : Option α} {field : Option Value} (hf : field = a.map write) : optionalField read? field = some a := by
  subst hf
  cases a <;> simp [optionalField, h]

private theorem fieldOr_of_written {α : Type} {read? : Value → Option α} {write : α → Value} {default a : α}
    (h : read? (write a) = some a) {field : Option Value} (hf : FieldWritten write default a field) :
    fieldOr default read? field = some a := by
  rcases hf with rfl | ⟨rfl, rfl⟩
  · exact h
  · rfl

private theorem readRule_value (dates : Bool) (r : RuleText) : readRule dates r.value = some r := by
  cases r <;> rfl

private theorem readRules_value (dates : Bool) (rules : List RuleText) :
    readRules dates (.array (rules.map RuleText.value)) = some rules := by
  show (rules.map RuleText.value).mapM (readRule dates) = some rules
  induction rules with
  | nil => rfl
  | cons r rules ih => simp [List.mapM_cons, readRule_value, ih]

private theorem readStoreSplit_value (s : StoreSplit) : readStoreSplit s.value = some s := by
  cases s with
  | no => rfl
  | whole => rfl
  | group n => simp [readStoreSplit, StoreSplit.value, readNatural]

/-- The attributes are read as they are written. -/
theorem Attributes.WrittenIn.readAttributes {a : Attributes String} {table : List (String × Value)}
    (h : a.WrittenIn table) (dates : Bool) : readAttributes dates table = some a := by
  have text : ∀ {o : Option String} {field : Option Value}, field = o.map .string →
      optionalField (readText dates) field = some o :=
    optionalField_map fun s => (rfl : readText dates (.string s) = some s)
  have flag : ∀ {b : Bool} {field : Option Value}, FieldWritten .boolean false b field →
      fieldOr false readFlag field = some b := fieldOr_of_written rfl
  unfold Delimited.readAttributes
  dsimp only
  rw [text h.start, text h.stop, text h.escapedStart, text h.escapedStop, flag h.keepDelimiters, flag h.replaceEscapes,
    optionalField_map (readRule_value dates) h.split, fieldOr_of_written (readStoreSplit_value _) h.storeSplit,
    fieldOr_of_written (readRules_value dates _) h.strip, flag h.ignoreEmpty, text h.handler, flag h.reparse,
    flag h.handleAll]
  rfl

/-! ### Dates -/

mutual

/-- Neither in the definition nor in one nested in it do the entries begin with the key of a date. -/
def Definition.undated : Definition C → Bool
  | .mk _ _ entries => entries.head?.map Prod.fst != some dateKey && entriesUndated entries

/-- No definition below the entries has entries that begin with the key of a date. -/
def entriesUndated : List (String × Entry C) → Bool
  | [] => true
  | (_, .inline d) :: es => d.undated && entriesUndated es
  | (_, .ref _) :: es => entriesUndated es

end

private theorem findDatesInEntries?_eq_self {entries : List (String × Value)}
    (h : ∀ e ∈ entries, findDates? e.2 = some e.2) :
    findDatesInEntries? entries = some entries := by
  induction entries with
  | nil => rfl
  | cons e entries ih =>
    rw [List.forall_mem_cons] at h
    simp [findDatesInEntries?, h.1, ih h.2]

private theorem findDatesInEntries?_eq_none {entries : List (String × Value)}
    (h : ∃ e ∈ entries, findDates? e.2 = none) :
    findDatesInEntries? entries = none := by
  induction entries with
  | nil => simp at h
  | cons e entries ih =>
    obtain ⟨x, hx, h⟩ := h
    rcases List.mem_cons.1 hx with rfl | hx
    · simp [findDatesInEntries?, h]
    · simp [findDatesInEntries?, ih ⟨x, hx, h⟩]

/-- A table that does not begin with the key of a date is none. -/
theorem findDates?_table {entries : List (String × Value)} (h : entries.head?.map Prod.fst ≠ some dateKey) :
    findDates? (.table entries) = (findDatesInEntries? entries).map .table := by
  match entries with
  | [] => rfl
  | (key, v) :: rest =>
    have hk : key ≠ dateKey := by simpa using h
    cases hv : findDates? v with
    | none => simp [findDates?, findDatesInEntries?, hk, hv]
    | some w => cases hr : findDatesInEntries? rest <;> simp [findDates?, findDatesInEntries?, hk, hv, hr]

/-! ### Values of attributes -/

private theorem entriesWithin_of_forall {least limit : Int} {entries : List (String × Value)}
    (h : ∀ e ∈ entries, e.2.numbersWithin least limit = true) : Toml.entriesWithin least limit entries = true := by
  induction entries with
  | nil => rfl
  | cons e entries ih =>
    rw [List.forall_mem_cons] at h
    simp [Toml.entriesWithin, h.1, ih h.2]

/-- No date is found in the value, and its integers are in the range that a file has for them. -/
structure Plain (v : Value) : Prop where
  dates : findDates? v = some v
  numbers : ∀ limit, Int.pow 2 63 ≤ limit → v.numbersWithin (-Int.pow 2 63) limit = true

private theorem plain_string (s : String) : Plain (.string s) := ⟨rfl, fun _ _ => rfl⟩

private theorem plain_boolean (b : Bool) : Plain (.boolean b) := ⟨rfl, fun _ _ => rfl⟩

private theorem plain_entry {key : String} (hk : key ≠ dateKey) (s : String) : Plain (.table [(key, .string s)]) :=
  ⟨by simp [findDates?, findDatesInEntries?, hk], fun _ _ => rfl⟩

private theorem plain_rule (r : RuleText) : Plain r.value := by
  cases r with
  | literal s => exact plain_string s
  | pattern s => exact plain_entry (by decide) s

private theorem plain_rules (rules : List RuleText) : Plain (.array (rules.map RuleText.value)) := by
  induction rules with
  | nil => exact ⟨rfl, fun _ _ => rfl⟩
  | cons r rules ih =>
    obtain ⟨hd, hn⟩ := plain_rule r
    refine ⟨?_, fun limit hl => ?_⟩
    · have hd' := ih.dates
      rw [findDates?, Option.map_eq_some_iff] at hd'
      obtain ⟨items, hi, hd'⟩ := hd'
      obtain rfl := Value.array.inj hd'
      simp [findDates?, findDatesInItems?, hd, hi]
    · have hn' := ih.numbers limit hl
      simp only [Value.numbersWithin, List.map_cons, Toml.itemsWithin, Bool.and_eq_true] at hn' ⊢
      exact ⟨hn limit hl, hn'⟩

private theorem plain_storeSplit {s : StoreSplit} (h : ∀ n, s = .group n → n < 2 ^ 63) : Plain s.value := by
  cases s with
  | no => exact plain_boolean false
  | whole => exact plain_boolean true
  | group n =>
    refine ⟨rfl, fun limit hl => ?_⟩
    have hn : (n : Int) < Int.pow 2 63 := Int.ofNat_lt.2 (h n rfl)
    have h₀ : (0 : Int) ≤ Int.pow 2 63 := by decide
    simp only [StoreSplit.value, Value.numbersWithin, Bool.and_eq_true, decide_eq_true_eq]
    omega

/-- All fields but the nested blocks are plain. -/
theorem Attributes.WrittenIn.plain {a : Attributes String} {table : List (String × Value)} (h : a.WrittenIn table)
    {key : String} {v : Value} (hv : table.lookup key = some v) (hk : key ∈ blockFields) (hb : key ≠ "blocks") :
    Plain v := by
  have of_map : ∀ {α : Type} {write : α → Value} {o : Option α}, (∀ a, Plain (write a)) →
      table.lookup key = o.map write → Plain v := by
    intro α write o hw ho
    obtain ⟨a, -, rfl⟩ := Option.map_eq_some_iff.1 (ho.symm.trans hv)
    exact hw a
  have of_written : ∀ {α : Type} {write : α → Value} {default a : α},
      FieldWritten write default a (table.lookup key) → Plain (write a) → Plain v := by
    intro α write default a ho hw
    rcases ho with ho | ⟨ho, -⟩
    · exact Option.some.inj (ho.symm.trans hv) ▸ hw
    · cases ho.symm.trans hv
  simp only [blockFields, List.mem_cons, List.not_mem_nil, or_false] at hk
  rcases hk with rfl | rfl | rfl | rfl | rfl | rfl | rfl | rfl | rfl | rfl | rfl | rfl | rfl | rfl
  · exact of_map plain_string h.start
  · exact of_map plain_string h.stop
  · exact of_map plain_string h.escapedStart
  · exact of_map plain_string h.escapedStop
  · exact of_written h.keepDelimiters (plain_boolean _)
  · exact of_written h.replaceEscapes (plain_boolean _)
  · exact of_map plain_rule h.split
  · exact of_written h.storeSplit (plain_storeSplit h.group)
  · exact of_written h.strip (plain_rules _)
  · exact of_written h.ignoreEmpty (plain_boolean _)
  · exact absurd rfl hb
  · exact of_map plain_string h.handler
  · exact of_written h.reparse (plain_boolean _)
  · exact of_written h.handleAll (plain_boolean _)

/-! ### Tables of blocks -/

/-- What is written for nested blocks has no date just when no entries below begin with the key of one. -/
private theorem findDates?_nested {shared : Option String} {entries : List (String × Entry C)} {nested : Option Value}
    (h : NestedWrittenAs registry shared entries nested)
    (hentries : ∀ values, EntriesWrittenAs registry entries values →
      findDatesInEntries? values = if entriesUndated entries then some values else none) :
    (∀ v, nested = some v → findDates? v =
      if entries.head?.map Prod.fst != some dateKey && entriesUndated entries then some v else none) ∧
    (nested = none → (entries.head?.map Prod.fst != some dateKey && entriesUndated entries) = true) := by
  cases h with
  | missing => exact ⟨by simp, fun _ => by simp [entriesUndated]⟩
  | shared path =>
    refine ⟨?_, by simp⟩
    rintro v ⟨⟩
    rw [(plain_entry (by decide) path).dates]
    simp [entriesUndated]
  | @own entries values distinct h =>
    refine ⟨?_, by simp⟩
    rintro v ⟨⟩
    have hhead : values.head?.map Prod.fst = entries.head?.map Prod.fst := by
      rw [← List.head?_map, ← List.head?_map, h.map_fst]
    by_cases hk : entries.head?.map Prod.fst = some dateKey
    · have hnone : findDates? (.table values) = none := by
        cases h with
        | nil => simp at hk
        | ref name path h | inline name hd h =>
          have hname : name = dateKey := by simpa using hk
          simp [findDates?, hname]
      simp [hnone, hk]
    · rw [findDates?_table (hhead ▸ hk), hentries values h]
      by_cases hu : entriesUndated entries <;> simp [hk, hu]

mutual

/-- A table of a block has no date just when neither its entries nor those of a block nested in it begin with the key of
one. -/
theorem Definition.WrittenAs.findDates? : ∀ {d : Definition C} {table : List (String × Value)},
    d.WrittenAs registry table → findDates? (.table table) = if d.undated then some (.table table) else none
  | .mk _ shared entries, table, h => by
    cases h with
    | mk distinct fields attributes handler nested =>
      -- the table is none of a date itself, since its keys are fields
      have hhead : table.head?.map Prod.fst ≠ some dateKey := by
        intro hk
        obtain ⟨e, he, hk⟩ := Option.map_eq_some_iff.1 hk
        have hm := fields e (List.mem_of_mem_head? he)
        rw [hk] at hm
        exact absurd hm (by decide)
      obtain ⟨hsome, hnone⟩ := findDates?_nested nested fun _ h => h.findDatesInEntries?
      rw [findDates?_table hhead, Definition.undated]
      generalize (entries.head?.map Prod.fst != some dateKey && entriesUndated entries) = p at hsome hnone ⊢
      cases p with
      | true =>
        rw [findDatesInEntries?_eq_self]
        · rfl
        · intro e he
          have hv : table.lookup e.1 = some e.2 := lookup_eq_some_of_mem distinct he
          by_cases hb : e.1 = "blocks"
          · exact (hsome e.2 (hb ▸ hv)).trans rfl
          · exact (attributes.plain hv (fields e he) hb).dates
      | false =>
        cases hv : table.lookup "blocks" with
        | none => exact absurd (hnone hv) (by simp)
        | some v =>
          rw [findDatesInEntries?_eq_none ⟨_, mem_of_lookup_eq_some hv, (hsome v hv).trans rfl⟩]
          rfl

/-- What is written for entries is read as dates just when one of them has the key of a date. -/
theorem EntriesWrittenAs.findDatesInEntries? :
    ∀ {entries : List (String × Entry C)} {values : List (String × Value)}, EntriesWrittenAs registry entries values →
      findDatesInEntries? values = if entriesUndated entries then some values else none
  | [], _, h => by
    cases h
    rfl
  | (name, .ref path) :: entries, _, h => by
    cases h with
    | ref _ _ h =>
      rw [Delimited.findDatesInEntries?, (plain_entry (by decide) path).dates, h.findDatesInEntries?, entriesUndated]
      cases entriesUndated entries <;> rfl
  | (name, .inline d) :: entries, _, h => by
    cases h with
    | inline _ hd h =>
      rw [Delimited.findDatesInEntries?, hd.findDates?, h.findDatesInEntries?, entriesUndated]
      cases d.undated <;> cases entriesUndated entries <;> rfl

end

mutual

/-- The integers in a table of a block are in the range that a file has for them. -/
theorem Definition.WrittenAs.numbersWithin {limit : Int} (hl : Int.pow 2 63 ≤ limit) :
    ∀ {d : Definition C} {table : List (String × Value)}, d.WrittenAs registry table →
      ∀ e ∈ table, e.2.numbersWithin (-Int.pow 2 63) limit = true
  | .mk _ shared entries, table, h, e, he => by
    cases h with
    | mk distinct fields attributes handler nested =>
      have hv : table.lookup e.1 = some e.2 := lookup_eq_some_of_mem distinct he
      by_cases hb : e.1 = "blocks"
      · rw [hb] at hv
        rw [hv] at nested
        generalize e.2 = v at nested
        cases nested with
        | shared path => exact (plain_entry (by decide) path).numbers limit hl
        | own _ h => exact h.entriesWithin hl
      · exact (attributes.plain hv (fields e he) hb).numbers limit hl

private theorem EntriesWrittenAs.entriesWithin {limit : Int} (hl : Int.pow 2 63 ≤ limit) :
    ∀ {entries : List (String × Entry C)} {values : List (String × Value)}, EntriesWrittenAs registry entries values →
      Toml.entriesWithin (-Int.pow 2 63) limit values = true
  | [], _, h => by
    cases h
    rfl
  | (name, .ref path) :: entries, _, h => by
    cases h with
    | ref _ _ h =>
      rw [Toml.entriesWithin, (plain_entry (by decide) path).numbers limit hl, h.entriesWithin hl]
      rfl
  | (name, .inline d) :: entries, _, h => by
    cases h with
    | inline _ hd h =>
      rw [Toml.entriesWithin, Value.numbersWithin, entriesWithin_of_forall (hd.numbersWithin hl), h.entriesWithin hl]
      rfl

end

/-! ### Definitions -/

/-- The handler is found by its name. -/
theorem Registry.Names.findHandler {a : Attributes String} {h : Option (Handler C)} (hn : registry.Names a.handler h)
    (path : String) : a.findHandler registry path = .ok { a with handler := h } := by
  unfold Attributes.findHandler
  generalize a.handler = o at hn
  cases hn with
  | none => rfl
  | some hn =>
    dsimp only
    rw [hn]

private theorem Definition.WrittenAs.fields {d : Definition C} {table : List (String × Value)}
    (h : d.WrittenAs registry table) : ∀ e ∈ table, e.1 ∈ blockFields := by
  cases h
  assumption

/-- What is no field of a block is not among the keys. -/
theorem Definition.WrittenAs.key_ne {d : Definition C} {table : List (String × Value)} (h : d.WrittenAs registry table)
    {key : String} (hk : key ∉ blockFields) : ∀ e ∈ table, e.1 ≠ key := by
  rintro e he rfl
  exact hk (h.fields e he)

/-- A nested block that is written as a table of its fields. -/
theorem readItem_table {entries : List (String × Value)} (h : ∀ e ∈ entries, e.1 ≠ "ref") :
    readItem (.table entries) = (readBlock true entries).map .block := by
  match entries with
  | [] => rfl
  | [(key, v)] =>
    have hk : key ≠ "ref" := h (key, v) List.mem_cons_self
    simp [readItem, hk]
  | _ :: _ :: _ => rfl

/-- The nested blocks of a block are read as they are written. In the root dates are found before. -/
private theorem exists_readNested {shared : Option String} {entries : List (String × Entry C)} {nested : Option Value}
    (h : NestedWrittenAs registry shared entries nested) {dates : Bool}
    (hd : dates = false → entriesUndated entries = true)
    (hentries : ∀ values, EntriesWrittenAs registry entries values →
      ∀ path, toEntries registry path values = .ok entries) :
    ∃ read, fieldOr (.own []) (readNested dates) nested = some read ∧
      ∀ (a : Attributes String) (k : Option (Handler C)), registry.Names a.handler k → ∀ path,
        (FileBlock.mk a read).toDefinition registry path = .ok (.mk { a with handler := k } shared entries) := by
  cases h with
  | missing =>
    refine ⟨.own [], rfl, fun a k hk path => ?_⟩
    rw [FileBlock.toDefinition_own, hk.findHandler, toEntries]
    rfl
  | shared target =>
    refine ⟨.shared target, readNested_ref dates target, fun a k hk path => ?_⟩
    rw [FileBlock.toDefinition_shared, hk.findHandler]
    rfl
  | @own _ values _ h =>
    have hdates : dates = false → findDatesInEntries? values = some values := by
      intro hf
      rw [h.findDatesInEntries?, hd hf]
      rfl
    refine ⟨.own values, readNested_tables h.tables hdates, fun a k hk path => ?_⟩
    rw [FileBlock.toDefinition_own, hk.findHandler, hentries values h]
    rfl

/-- A block is read as it is written. -/
private theorem exists_readBlock {a : Attributes (Handler C)} {shared : Option String}
    {entries : List (String × Entry C)} {table : List (String × Value)}
    (h : (Definition.mk a shared entries).WrittenAs registry table) (dates : Bool)
    (hd : dates = false → entriesUndated entries = true)
    (hentries : ∀ values, EntriesWrittenAs registry entries values →
      ∀ path, toEntries registry path values = .ok entries) :
    ∃ b, readBlock dates table = some b ∧ ∀ path, b.toDefinition registry path = .ok (.mk a shared entries) := by
  cases h with
  | @mk b k _ _ _ distinct fields attributes handler nested =>
    obtain ⟨read, hread, hdef⟩ := exists_readNested nested hd hentries
    refine ⟨⟨b, read⟩, ?_, hdef b k handler⟩
    rw [readBlock, attributes.readAttributes, hread]
    rfl

/-- Entries are read as they are written. -/
theorem EntriesWrittenAs.toEntries (path : String) :
    ∀ {entries : List (String × Entry C)} {values : List (String × Value)}, EntriesWrittenAs registry entries values →
      toEntries registry path values = .ok entries
  | [], _, h => by
    cases h
    rw [Delimited.toEntries]
  | (name, .ref target) :: entries, _, h => by
    cases h with
    | ref _ _ h =>
      have hitem : readItem (.table [("ref", .string target)]) = some (.ref target) := rfl
      rw [toEntries_cons, hitem]
      dsimp only
      rw [h.toEntries path]
      rfl
  | (name, .inline (.mk a shared es)) :: entries, _, h => by
    cases h with
    | @inline _ _ table _ _ hd h =>
      have hes : ∀ values, EntriesWrittenAs registry es values →
          ∀ path, Delimited.toEntries registry path values = .ok es := fun _ h path => h.toEntries path
      obtain ⟨b, hb, hdef⟩ := exists_readBlock hd true (fun ht => absurd ht (by decide)) hes
      have hitem : readItem (.table table) = some (.block b) := by
        rw [readItem_table (hd.key_ne (by decide)), hb]
        rfl
      rw [toEntries_block hitem, hdef, h.toEntries path]
      rfl

/-! ### Files -/

namespace GrammarFile

variable {d : Definition C} {table : List (String × Value)}

private theorem lookup_eq_none (h : d.WrittenAs registry table) {key : String} (hk : key ∉ blockFields) :
    table.lookup key = none :=
  List.lookup_eq_none_iff.2 fun e he => bne_iff_ne.2 (h.key_ne hk e he).symm

private theorem inRange (h : d.WrittenAs registry table) : (table.all fun (key, v) => key = "options" ||
      v.numbersWithin (-Int.pow 2 63) (if key = "blocks" then Int.pow 2 63 else Int.pow 2 64)) = true := by
  refine List.all_eq_true.2 fun e he => ?_
  rw [Bool.or_eq_true]
  refine .inr (h.numbersWithin ?_ e he)
  split <;> decide

/-- A table that is written for a definition is read as this definition, as long as no entries below those of the root
begin with the key of a date. -/
private theorem exists_ofTable (h : d.WrittenAs registry table) (hu : entriesUndated d.entries = true) :
    ∃ f, ofTable? table = some f ∧ f.debug = none ∧ f.toDefinition registry = .ok d := by
  obtain ⟨a, shared, entries⟩ := d
  obtain ⟨b, hb, hdef⟩ := exists_readBlock h false (fun _ => hu) fun _ h path => h.toEntries path
  refine ⟨⟨none, {}, b⟩, ?_, rfl, hdef rootPath⟩
  have hrange := inRange h
  unfold ofTable?
  rw [if_pos hrange, lookup_eq_none h (by decide : "debug" ∉ blockFields),
    lookup_eq_none h (by decide : "options" ∉ blockFields), hb]
  rfl

/-- Other tables that are written for a definition are not read. -/
private theorem ofTable?_eq_none (h : d.WrittenAs registry table) (hu : entriesUndated d.entries = false) :
    ofTable? table = none := by
  have hblock : readBlock false table = none := by
    cases h with
    | @mk a k shared entries _ distinct fields attributes handler nested =>
      have hnested : fieldOr (.own []) (readNested false) (table.lookup "blocks") = none := by
        generalize table.lookup "blocks" = field at nested
        cases nested with
        | missing => cases hu
        | shared path => cases hu
        | @own _ values _ h =>
          have hu : entriesUndated entries = false := hu
          have hnone : findDatesInEntries? values = none := by rw [h.findDatesInEntries?, hu]; rfl
          show (findDatesInEntries? values).bind _ = none
          rw [hnone]
          rfl
      rw [readBlock, attributes.readAttributes, hnested]
      rfl
  unfold ofTable?
  rw [if_pos (inRange h), lookup_eq_none h (by decide : "debug" ∉ blockFields),
    lookup_eq_none h (by decide : "options" ∉ blockFields), hblock]
  rfl

/-- Every definition that can be built can be written as the table of a grammar file. Each such table leads back to the
definition, so the grammar of the file is the one that the definition resolves to, or there is the same error. The only
exception are tables in which a block nested in the root begins its own nested blocks with the key of a date: these are
malformed. -/
theorem toGrammar_of_writtenAs (hd : d.Writable registry) : (∃ table, d.WrittenAs registry table) ∧
    ∀ table, d.WrittenAs registry table →
      (entriesUndated d.entries = true → ∃ f, ofTable? table = some f ∧
        (∀ text, Toml.read text = .ok table → parse text = .ok f) ∧
        f.toDefinition registry = .ok d ∧ f.toGrammar registry = d.resolve.mapError .grammar) ∧
      (entriesUndated d.entries = false → ofTable? table = none ∧
        ∀ text, Toml.read text = .ok table → parse text = .error (.malformed .malformed)) := by
  refine ⟨hd.exists_writtenAs, fun table h => ⟨fun hu => ?_, fun hu => ?_⟩⟩
  · obtain ⟨f, hf, hdebug, hdef⟩ := exists_ofTable h hu
    refine ⟨f, hf, fun text ht => ?_, hdef, toGrammar_of_toDefinition hdef⟩
    have hof : ofText text = .ok f := by
      rw [ofText, ht]
      show Toml.orMalformed (ofTable? table) = .ok f
      rw [hf]
      rfl
    rw [parse, hof]
    show f.validate = .ok f
    rw [validate, hdebug]
  · have hnone := ofTable?_eq_none h hu
    refine ⟨hnone, fun text ht => ?_⟩
    have hof : ofText text = .error .malformed := by
      rw [ofText, ht]
      show Toml.orMalformed (ofTable? table) = .error .malformed
      rw [hnone]
      rfl
    rw [parse, hof]

/-- Parentheses, made upper case, in which the same is nested under a name. -/
def nestedParens (name : String) : Definition Unit :=
  .mk {} none
    [("ref", .inline (.mk { start := some "(", stop := some ")", handler := some (.ofFunction Part.uppered) } none
      [(name, .ref "/blocks/ref")]))]

/-- The table that this is written as. -/
def nestedParensTable (name : String) : List (String × Value) :=
  [("blocks", .table [("ref", .table [("handle", .string "upper"), ("start", .string "("),
    ("blocks", .table [(name, .table [("ref", .string "/blocks/ref")])]), ("stop", .string ")")])])]

private theorem get?_upper : (Registry.builtins : Registry Unit).get? "upper" = some (.ofFunction Part.uppered) := by
  simp [Registry.builtins, Registry.get?_register]

private theorem writable_nestedParens (name : String) : (nestedParens name).Writable .builtins := by
  intro b hb
  simp only [nestedParens, Definition.preorder, entriesPreorder, List.append_nil, List.mem_cons, List.not_mem_nil,
    or_false] at hb
  rcases hb with rfl | rfl
  · exact ⟨by simp [Definition.entries], by simp [Definition.shared], by simp [Definition.attributes],
      by simp [Definition.attributes]⟩
  · refine ⟨by simp [Definition.entries], by simp [Definition.shared], ?_, by simp [Definition.attributes]⟩
    rintro h ⟨⟩
    exact ⟨"upper", get?_upper⟩

private theorem writtenAs_nestedParens (name : String) :
    (nestedParens name).WrittenAs .builtins (nestedParensTable name) := by
  have hroot : ({} : Attributes String).WrittenIn (nestedParensTable name) := by
    constructor <;> first | rfl | exact .inr ⟨rfl, rfl⟩ | simp
  have hparens : ({ start := some "(", stop := some ")", handler := some "upper" } : Attributes String).WrittenIn
      [("handle", .string "upper"), ("start", .string "("),
        ("blocks", .table [(name, .table [("ref", .string "/blocks/ref")])]), ("stop", .string ")")] := by
    constructor <;> first | rfl | exact .inr ⟨rfl, rfl⟩ | simp
  refine .mk (by simp [nestedParensTable]) (by simp [nestedParensTable, blockFields]) hroot .none
    (.own (by simp) (.inline "ref" ?_ .nil))
  exact .mk (by simp) (by simp [blockFields]) hparens (.some get?_upper) (.own (by simp) (.ref name _ .nil))

/-- A block that is called `ref`, and refers to itself under this name. -/
theorem toGrammar_of_writtenAs_ref : (nestedParens "ref").Writable .builtins ∧
    (nestedParens "ref").WrittenAs .builtins (nestedParensTable "ref") ∧
    ∃ f g, ofTable? (nestedParensTable "ref") = some f ∧ (nestedParens "ref").resolve = .ok g ∧
      f.toGrammar .builtins = .ok g := by
  have hd := writable_nestedParens "ref"
  have ht := writtenAs_nestedParens "ref"
  have hok : (nestedParens "ref").resolvesTo (fun _ => true) = true := by cbv
  obtain ⟨g, hg, -⟩ := Definition.exists_of_resolvesTo hok
  obtain ⟨f, hf, -, -, hgrammar⟩ := ((toGrammar_of_writtenAs hd).2 _ ht).1 (by decide)
  exact ⟨hd, ht, f, g, hf, hg, by rw [hgrammar, hg]; rfl⟩

/-- The table is not read in which the block nested in the root begins its own nested blocks with the key of a date,
though it is written for a definition that resolves. -/
theorem nestedParens_dateKey_not_read : (nestedParens dateKey).Writable .builtins ∧
    (nestedParens dateKey).WrittenAs .builtins (nestedParensTable dateKey) ∧
    (∃ g, (nestedParens dateKey).resolve = .ok g) ∧ ofTable? (nestedParensTable dateKey) = none := by
  have hok : (nestedParens dateKey).resolvesTo (fun _ => true) = true := by cbv
  obtain ⟨g, hg, -⟩ := Definition.exists_of_resolvesTo hok
  exact ⟨writable_nestedParens dateKey, writtenAs_nestedParens dateKey, ⟨g, hg⟩, rfl⟩

end GrammarFile

end Delimited
