import Mathlib
import Delimited.GrammarFile
import Delimited.Proofs.Grammar.Tree

/-!
# The layout of grammar files

How a definition is written as a table (`Definition.WrittenAs`). The fields of a block stand in any order, and one that
has its default may be left out. A reference is a table with nothing but a `ref`, and so are nested blocks that are
taken over from another block. Handlers are written by their names in a registry.

Every definition that can be built has such a table (`Definition.Writable.exists_writtenAs`), in which no key is there
twice.
-/

namespace Delimited

open Toml (Value)

variable {C : Type}

/-! ### Fields -/

/-- The value that a rule is written as. -/
def RuleText.value : RuleText → Value
  | .literal s => .string s
  | .pattern s => .table [("pattern", .string s)]

/-- The value that is written for what is stored of a split. -/
def StoreSplit.value : StoreSplit → Value
  | .no => .boolean false
  | .whole => .boolean true
  | .group n => .integer n

/-- A field in which `a` is written; it may be left out if this is the default. -/
def FieldWritten {α : Type} (write : α → Value) (default a : α) (field : Option Value) : Prop :=
  field = some (write a) ∨ field = none ∧ a = default

/-- The attributes stand in the fields of a table. An integer in a file is less than `2 ^ 63`. -/
structure Attributes.WrittenIn (a : Attributes String) (table : List (String × Value)) : Prop where
  start : table.lookup "start" = a.start.map .string
  stop : table.lookup "stop" = a.stop.map .string
  escapedStart : table.lookup "escaped_start" = a.escapedStart.map .string
  escapedStop : table.lookup "escaped_stop" = a.escapedStop.map .string
  keepDelimiters : FieldWritten .boolean false a.keepDelimiters (table.lookup "keep_start_stop")
  replaceEscapes : FieldWritten .boolean false a.replaceEscapes (table.lookup "replace_escapes")
  split : table.lookup "split" = a.split.map RuleText.value
  storeSplit : FieldWritten StoreSplit.value .no a.storeSplit (table.lookup "store_split")
  group : ∀ n, a.storeSplit = .group n → n < 2 ^ 63
  strip : FieldWritten (fun rules => .array (rules.map RuleText.value)) [] a.strip (table.lookup "strip")
  ignoreEmpty : FieldWritten .boolean false a.ignoreEmpty (table.lookup "ignore_empty")
  handler : table.lookup "handle" = a.handler.map .string
  reparse : FieldWritten .boolean false a.reparse (table.lookup "reparse")
  handleAll : FieldWritten .boolean false a.handleAll (table.lookup "handle_all")

/-- A handler, if there is one, has a name in the registry. -/
inductive Registry.Names (registry : Registry C) : Option String → Option (Handler C) → Prop
  | none : Names registry none none
  | some {name : String} {h : Handler C} (hn : registry.get? name = .some h) : Names registry (.some name) (.some h)

/-! ### Blocks -/

mutual

/-- A definition is written as a table of fields of its block. -/
inductive Definition.WrittenAs (registry : Registry C) : Definition C → List (String × Value) → Prop
  | mk {a : Attributes String} {h : Option (Handler C)} {shared : Option String} {entries : List (String × Entry C)}
      {table : List (String × Value)} (distinct : (table.map Prod.fst).Nodup)
      (fields : ∀ e ∈ table, e.1 ∈ blockFields) (attributes : a.WrittenIn table) (handler : registry.Names a.handler h)
      (nested : NestedWrittenAs registry shared entries (table.lookup "blocks")) :
      Definition.WrittenAs registry (.mk { a with handler := h } shared entries) table

/-- The nested blocks stand in a field: those of another block by its path, own ones in order. -/
inductive NestedWrittenAs (registry : Registry C) :
    Option String → List (String × Entry C) → Option Value → Prop
  | missing : NestedWrittenAs registry none [] none
  | shared (path : String) : NestedWrittenAs registry (some path) [] (some (.table [("ref", .string path)]))
  | own {entries : List (String × Entry C)} {values : List (String × Value)}
      (distinct : (entries.map Prod.fst).Nodup) (h : EntriesWrittenAs registry entries values) :
      NestedWrittenAs registry none entries (some (.table values))

/-- Entries are written under their names, as references or tables. -/
inductive EntriesWrittenAs (registry : Registry C) : List (String × Entry C) → List (String × Value) → Prop
  | nil : EntriesWrittenAs registry [] []
  | ref (name path : String) {entries : List (String × Entry C)} {values : List (String × Value)}
      (h : EntriesWrittenAs registry entries values) :
      EntriesWrittenAs registry ((name, .ref path) :: entries) ((name, .table [("ref", .string path)]) :: values)
  | inline (name : String) {d : Definition C} {table : List (String × Value)} {entries : List (String × Entry C)}
      {values : List (String × Value)} (hd : d.WrittenAs registry table)
      (h : EntriesWrittenAs registry entries values) :
      EntriesWrittenAs registry ((name, .inline d) :: entries) ((name, .table table) :: values)

end

/-- The names of entries are their keys. -/
theorem EntriesWrittenAs.map_fst {registry : Registry C} {entries : List (String × Entry C)}
    {values : List (String × Value)} (h : EntriesWrittenAs registry entries values) : values.map Prod.fst = entries.map Prod.fst := by
  induction entries generalizing values with
  | nil => cases h; rfl
  | cons e entries ih => cases h <;> simp [ih ‹_›]

/-- Entries are written as tables. -/
theorem EntriesWrittenAs.tables {registry : Registry C} {entries : List (String × Entry C)}
    {values : List (String × Value)} (h : EntriesWrittenAs registry entries values) : ∀ e ∈ values, ∃ table, e.2 = .table table := by
  induction entries generalizing values with
  | nil => cases h; simp
  | cons e entries ih => cases h <;> simpa using ih ‹_›

/-! ### Definitions that can be written -/

/-- A block as it can be built, with a handler from a registry. The names of its entries are distinct, it has none if it
takes over those of another block, and a group has a number as files have them. -/
structure Definition.BlockWritable (registry : Registry C) (d : Definition C) : Prop where
  distinct : (d.entries.map Prod.fst).Nodup
  unmixed : d.shared ≠ none → d.entries = []
  handler : ∀ h, d.attributes.handler = some h → ∃ name, registry.get? name = some h
  group : ∀ n, d.attributes.storeSplit = .group n → n < 2 ^ 63

/-- A tree of blocks that can be written. -/
def Definition.Writable (registry : Registry C) (d : Definition C) : Prop :=
  ∀ b ∈ d.preorder rootPath, b.2.BlockWritable registry

/-- The entries of a table with these fields, of which some may be missing. -/
def presentFields (fields : List (String × Option Value)) : List (String × Value) :=
  fields.filterMap fun f => f.2.map (f.1, ·)

/-- A key of a table leads to the value that stands there. -/
theorem lookup_eq_some_of_mem {α : Type} {l : List (String × α)} (h : (l.map Prod.fst).Nodup) {key : String} {v : α}
    (hm : (key, v) ∈ l) : l.lookup key = some v := by
  obtain ⟨before, after, rfl⟩ := List.append_of_mem hm
  refine List.lookup_eq_some_iff.2 ⟨before, after, rfl, fun e he => bne_iff_ne.2 fun hk => ?_⟩
  rw [List.map_append, List.nodup_append] at h
  exact h.2.2 e.1 (List.mem_map_of_mem he) key (by simp) hk.symm

theorem mem_of_lookup_eq_some {α : Type} {l : List (String × α)} {key : String} {v : α} (h : l.lookup key = some v) :
    (key, v) ∈ l := by
  obtain ⟨before, after, rfl, -⟩ := List.lookup_eq_some_iff.1 h
  simp

private theorem nodup_presentFields {fields : List (String × Option Value)} (h : (fields.map Prod.fst).Nodup) :
    ((presentFields fields).map Prod.fst).Nodup := by
  refine List.Nodup.sublist ?_ h
  induction fields with
  | nil => exact .slnil
  | cons f fields ih =>
    rw [List.map_cons, List.nodup_cons] at h
    obtain ⟨k, o⟩ := f
    cases o with
    | none => exact (ih h.2).cons k
    | some v => exact (ih h.2).cons_cons k

private theorem lookup_presentFields {fields : List (String × Option Value)} (h : (fields.map Prod.fst).Nodup)
    {key : String} {o : Option Value} (hm : (key, o) ∈ fields) : (presentFields fields).lookup key = o := by
  cases o with
  | some v =>
    exact lookup_eq_some_of_mem (nodup_presentFields h) (List.mem_filterMap.2 ⟨_, hm, rfl⟩)
  | none =>
    refine List.lookup_eq_none_iff.2 fun e he => bne_iff_ne.2 fun hk => ?_
    obtain ⟨f, hf, ho⟩ := List.mem_filterMap.1 he
    obtain ⟨v, hv, rfl⟩ := Option.map_eq_some_iff.1 ho
    have hfm : f = (key, none) := List.inj_on_of_nodup_map h hf hm hk.symm
    rw [hfm] at hv
    cases hv

/-- All fields of a block, in order, with their values. -/
private def blockValues (a : Attributes String) (nested : Option Value) : List (String × Option Value) :=
  [("start", a.start.map .string), ("stop", a.stop.map .string), ("escaped_start", a.escapedStart.map .string),
    ("escaped_stop", a.escapedStop.map .string), ("keep_start_stop", some (.boolean a.keepDelimiters)),
    ("replace_escapes", some (.boolean a.replaceEscapes)), ("split", a.split.map RuleText.value),
    ("store_split", some a.storeSplit.value), ("strip", some (.array (a.strip.map RuleText.value))),
    ("ignore_empty", some (.boolean a.ignoreEmpty)), ("blocks", nested), ("handle", a.handler.map .string),
    ("reparse", some (.boolean a.reparse)), ("handle_all", some (.boolean a.handleAll))]

private theorem nodup_blockValues (a : Attributes String) (nested : Option Value) :
    ((blockValues a nested).map Prod.fst).Nodup := by
  show blockFields.Nodup
  decide

private theorem writtenIn_blockValues {a : Attributes String} (nested : Option Value)
    (hg : ∀ n, a.storeSplit = .group n → n < 2 ^ 63) : a.WrittenIn (presentFields (blockValues a nested)) := by
  have h : ∀ {key o}, (key, o) ∈ blockValues a nested → (presentFields (blockValues a nested)).lookup key = o :=
    lookup_presentFields (nodup_blockValues a nested)
  constructor
  case group => exact hg
  case keepDelimiters => exact .inl (h (by simp [blockValues]))
  case replaceEscapes => exact .inl (h (by simp [blockValues]))
  case storeSplit => exact .inl (h (by simp [blockValues]))
  case strip => exact .inl (h (by simp [blockValues]))
  case ignoreEmpty => exact .inl (h (by simp [blockValues]))
  case reparse => exact .inl (h (by simp [blockValues]))
  case handleAll => exact .inl (h (by simp [blockValues]))
  all_goals exact h (by simp [blockValues])

/-- The attributes with the name of their handler. -/
private theorem exists_named {registry : Registry C} {a : Attributes (Handler C)}
    (h : ∀ k, a.handler = some k → ∃ name, registry.get? name = some k) :
    ∃ (b : Attributes String) (k : Option (Handler C)), registry.Names b.handler k ∧ a = { b with handler := k } := by
  cases hk : a.handler with
  | none => exact ⟨{ a with handler := none }, none, .none, by simp [← hk]⟩
  | some k =>
    obtain ⟨name, hn⟩ := h k hk
    exact ⟨{ a with handler := some name }, some k, .some hn, by simp [← hk]⟩

/-- A block is written with all its fields. -/
private theorem writtenAs_of_nested {registry : Registry C} {a : Attributes (Handler C)} {shared : Option String}
    {entries : List (String × Entry C)} (h : (Definition.mk a shared entries).BlockWritable registry)
    {nested : Option Value} (hn : NestedWrittenAs registry shared entries nested) :
    ∃ table, (Definition.mk a shared entries).WrittenAs registry table := by
  obtain ⟨b, k, hb, rfl⟩ := exists_named (a := a) h.handler
  have hnodup := nodup_blockValues b nested
  refine ⟨presentFields (blockValues b nested),
    .mk (nodup_presentFields hnodup) ?_ (writtenIn_blockValues nested h.group) hb ?_⟩
  · intro e he
    obtain ⟨f, hf, ho⟩ := List.mem_filterMap.1 he
    obtain ⟨v, -, rfl⟩ := Option.map_eq_some_iff.1 ho
    exact List.mem_map_of_mem (f := Prod.fst) hf
  · rw [lookup_presentFields hnodup (by simp [blockValues] : ("blocks", nested) ∈ _)]
    exact hn

mutual

private theorem exists_writtenAs_of_preorder {registry : Registry C} {path : String} :
    ∀ {d : Definition C}, (∀ b ∈ d.preorder path, b.2.BlockWritable registry) → ∃ table, d.WrittenAs registry table
  | .mk a shared entries, h => by
    rw [Definition.preorder, List.forall_mem_cons] at h
    cases shared with
    | some target =>
      obtain rfl : entries = [] := h.1.unmixed (by simp [Definition.shared])
      exact writtenAs_of_nested h.1 (.shared target)
    | none =>
      obtain ⟨values, hv⟩ := exists_entriesWrittenAs h.2
      exact writtenAs_of_nested h.1 (.own h.1.distinct hv)

private theorem exists_entriesWrittenAs {registry : Registry C} {path : String} :
    ∀ {entries : List (String × Entry C)}, (∀ b ∈ entriesPreorder path entries, b.2.BlockWritable registry) →
      ∃ values, EntriesWrittenAs registry entries values
  | [], _ => ⟨[], .nil⟩
  | (name, .ref target) :: entries, h => by
    rw [entriesPreorder] at h
    obtain ⟨values, hv⟩ := exists_entriesWrittenAs h
    exact ⟨_, .ref name target hv⟩
  | (name, .inline d) :: entries, h => by
    rw [entriesPreorder, List.forall_mem_append] at h
    obtain ⟨table, ht⟩ := exists_writtenAs_of_preorder h.1
    obtain ⟨values, hv⟩ := exists_entriesWrittenAs h.2
    exact ⟨_, .inline name ht hv⟩

end

/-- Every tree of blocks that can be written has a table that it is written as. -/
theorem Definition.Writable.exists_writtenAs {registry : Registry C} {d : Definition C} (h : d.Writable registry) :
    ∃ table, d.WrittenAs registry table :=
  exists_writtenAs_of_preorder h

end Delimited
