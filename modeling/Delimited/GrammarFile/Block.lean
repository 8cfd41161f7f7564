import Delimited.Grammar.Definition
import Delimited.Toml.Scalar

/-!
# Blocks in grammar files

How a block is read from a table. The fields that a table does not have get their defaults, and other keys count for
nothing. A block may also be given as an array of its fields in order. Its nested blocks are kept as they are
written and read one by one, so that a mistake in one of them can be told by its path.

Dates count as text inside the `blocks` of the root, but not in the root's own fields.
-/

namespace Delimited

open Toml (Value)

/-- The nested blocks of a block in a file: those of another block, or its own. -/
inductive NestedBlocks where
  | shared (path : String)
  | own (entries : List (String × Value))

instance : Inhabited NestedBlocks := ⟨.own []⟩

/-- The entries under which the nested blocks are written. -/
def NestedBlocks.entries : NestedBlocks → List (String × Value)
  | .shared path => [("ref", .string path)]
  | .own entries => entries

/-- A block in a file. Its handler is given by name. -/
structure FileBlock where
  attributes : Attributes String
  nested : NestedBlocks

instance : Inhabited FileBlock := ⟨⟨{}, default⟩⟩

/-- A nested block in a file: a reference to another block, or a block of its own. -/
inductive FileItem where
  | ref (path : String)
  | block (b : FileBlock)

/-! ### Fields -/

/-- A field that may be missing. -/
def optionalField {α : Type} (read? : Value → Option α) : Option Value → Option (Option α)
  | none => some none
  | some v => (read? v).map some

/-- A field that is as given when it is missing. -/
def fieldOr {α : Type} (missing : α) (read? : Value → Option α) : Option Value → Option α
  | none => some missing
  | some v => read? v

/-- A text; with `dates`, dates count as texts. -/
def readText (dates : Bool) : Value → Option String
  | .string s => some s
  | .datetime s => if dates then some s else none
  | _ => none

/-- A truth value. -/
def readFlag : Value → Option Bool
  | .boolean b => some b
  | _ => none

/-- A natural number. -/
def readNatural : Value → Option Nat
  | .integer n => if 0 ≤ n then some n.toNat else none
  | _ => none

/-- A rule: the text that it matches, or a table with a pattern. -/
def readRule (dates : Bool) : Value → Option RuleText
  | .table entries => ((entries.lookup "pattern").bind (readText dates)).map .pattern
  | v => (readText dates v).map .literal

/-- A list of rules. -/
def readRules (dates : Bool) : Value → Option (List RuleText)
  | .array items => items.mapM (readRule dates)
  | _ => none

/-- What is stored of a split: nothing, all or a group. -/
def readStoreSplit : Value → Option StoreSplit
  | .boolean b => some (if b then .whole else .no)
  | v => (readNatural v).map .group

/-! ### Nested blocks -/

/-- The key under which a date stands where it is taken for a table. -/
def dateKey : String := "$__toml_private_datetime"

mutual

/-- The value in which every table that begins with `dateKey` is the date that stands there. Such a table has no other
entries. -/
def findDates? : Value → Option Value
  | .array items => (findDatesInItems? items).map .array
  | .table [] => some (.table [])
  | .table ((key, v) :: rest) =>
    if key = dateKey then
      match v, rest with
      | .string s, [] => (Toml.datetimeOf? s.toList).map .datetime
      | _, _ => none
    else do
      let v ← findDates? v
      return .table ((key, v) :: (← findDatesInEntries? rest))
  | v => some v

/-- `findDates?` in every item. -/
def findDatesInItems? : List Value → Option (List Value)
  | [] => some []
  | v :: rest => do
    let v ← findDates? v
    return v :: (← findDatesInItems? rest)

/-- `findDates?` in the value of every entry. -/
def findDatesInEntries? : List (String × Value) → Option (List (String × Value))
  | [] => some []
  | (key, v) :: rest => do
    let v ← findDates? v
    return (key, v) :: (← findDatesInEntries? rest)

end

/-- Nested blocks in which dates have been found. A table whose only entry is a `ref` with a path shares those of the
block there. -/
private def nestedOf? (dates : Bool) : Value → Option NestedBlocks
  | .table [(key, v)] =>
    match if key = "ref" then readText dates v else none with
    | some path => some (.shared path)
    | none => some (.own [(key, v)])
  | .table entries => some (.own entries)
  | .datetime s => if dates then none else some (.own [(dateKey, .string s)])
  | _ => none

/-- Nested blocks. In those of the root dates are found first, and with them all that are deeper. -/
def readNested : Bool → Value → Option NestedBlocks
  | false, .table entries => (findDatesInEntries? entries).bind fun es => nestedOf? false (.table es)
  | dates, v => nestedOf? dates v

theorem readNested_ref (dates : Bool) (path : String) :
    readNested dates (.table [("ref", .string path)]) = some (.shared path) := by
  cases dates <;> rfl

private theorem nestedOf?_tables (dates : Bool) {entries : List (String × Value)}
    (h : ∀ e ∈ entries, ∃ table, e.2 = .table table) : nestedOf? dates (.table entries) = some (.own entries) := by
  match entries with
  | [] => rfl
  | [(key, v)] =>
    obtain ⟨table, rfl⟩ : ∃ table, v = .table table := h (key, v) List.mem_cons_self
    simp [nestedOf?, readText]
  | _ :: _ :: _ => rfl

/-- Nested blocks that are all written as tables are kept. -/
theorem readNested_tables {dates : Bool} {entries : List (String × Value)}
    (h : ∀ e ∈ entries, ∃ table, e.2 = .table table) (hd : dates = false → findDatesInEntries? entries = some entries) :
    readNested dates (.table entries) = some (.own entries) := by
  cases dates with
  | true => exact nestedOf?_tables true h
  | false =>
    rw [readNested, hd rfl]
    exact nestedOf?_tables false h

/-! ### Blocks -/

/-- The fields of a block, in order. -/
def blockFields : List String :=
  ["start", "stop", "escaped_start", "escaped_stop", "keep_start_stop", "replace_escapes", "split", "store_split",
    "strip", "ignore_empty", "blocks", "handle", "reparse", "handle_all"]

/-- All fields of a block but for its nested blocks. -/
def readAttributes (dates : Bool) (entries : List (String × Value)) : Option (Attributes String) := do
  let text := fun key => optionalField (readText dates) (entries.lookup key)
  let flag := fun key => fieldOr false readFlag (entries.lookup key)
  return {
    start := ← text "start"
    stop := ← text "stop"
    escapedStart := ← text "escaped_start"
    escapedStop := ← text "escaped_stop"
    keepDelimiters := ← flag "keep_start_stop"
    replaceEscapes := ← flag "replace_escapes"
    split := ← optionalField (readRule dates) (entries.lookup "split")
    storeSplit := ← fieldOr .no readStoreSplit (entries.lookup "store_split")
    strip := ← fieldOr [] (readRules dates) (entries.lookup "strip")
    ignoreEmpty := ← flag "ignore_empty"
    handler := ← text "handle"
    reparse := ← flag "reparse"
    handleAll := ← flag "handle_all" }

/-- A block that is given by its fields. -/
def readBlock (dates : Bool) (entries : List (String × Value)) : Option FileBlock := do
  let attributes ← readAttributes dates entries
  let nested ← fieldOr (.own []) (readNested dates) (entries.lookup "blocks")
  return ⟨attributes, nested⟩

/-- A nested block: a table whose only entry is a `ref`, a table of fields, or one of the two as an array. In an
array of fields only the last two may be missing. -/
def readItem : Value → Option FileItem
  | .table [(key, v)] =>
    match if key = "ref" then readText true v else none with
    | some path => some (.ref path)
    | none => (readBlock true [(key, v)]).map .block
  | .table entries => (readBlock true entries).map .block
  | .array [v] => (readText true v).map .ref
  | .array items =>
    if blockFields.length ≤ items.length + 2 ∧ items.length ≤ blockFields.length then
      (readBlock true (blockFields.zip items)).map .block
    else none
  | _ => none

/-! ### Sizes -/

private theorem sizeOf_lt_of_lookup {key : String} {v : Value} {entries : List (String × Value)}
    (h : entries.lookup key = some v) : sizeOf v < sizeOf entries := by
  induction entries with
  | nil => simp at h
  | cons e rest ih =>
    obtain ⟨k, w⟩ := e
    rw [List.lookup_cons] at h
    split at h
    · cases h
      simp only [List.cons.sizeOf_spec, Prod.mk.sizeOf_spec]
      omega
    · have := ih h
      simp only [List.cons.sizeOf_spec]
      omega

private theorem sizeOf_lt_of_lookup_zip {key : String} {v : Value} {keys : List String} {items : List Value}
    (h : (keys.zip items).lookup key = some v) : sizeOf v < sizeOf items := by
  induction keys generalizing items with
  | nil => simp at h
  | cons k keys ih =>
    cases items with
    | nil => simp at h
    | cons w rest =>
      rw [List.zip_cons_cons, List.lookup_cons] at h
      split at h
      · cases h
        simp only [List.cons.sizeOf_spec]
        omega
      · have := ih h
        simp only [List.cons.sizeOf_spec]
        omega

private theorem sizeOf_lt_of_readText {v : Value} {s : String} (h : readText true v = some s) :
    sizeOf s < sizeOf v := by
  unfold readText at h
  split at h
  · cases h
    simp only [Value.string.sizeOf_spec]
    omega
  · simp only [if_true, Option.some.injEq] at h
    subst h
    simp only [Value.datetime.sizeOf_spec]
    omega
  · cases h

private theorem sizeOf_le_of_readNested {v : Value} {n : NestedBlocks} (h : readNested true v = some n) :
    sizeOf n ≤ sizeOf v := by
  change nestedOf? true v = some n at h
  unfold nestedOf? at h
  split at h
  · split at h
    · rename_i ht
      split at ht
      · have := sizeOf_lt_of_readText ht
        cases h
        simp only [NestedBlocks.shared.sizeOf_spec, Value.table.sizeOf_spec, List.cons.sizeOf_spec, Prod.mk.sizeOf_spec]
        omega
      · cases ht
    · cases h
      simp
  · cases h
    simp
  · cases h
  · cases h

private theorem nested_of_readBlock {dates : Bool} {fields : List (String × Value)} {b : FileBlock}
    (h : readBlock dates fields = some b) :
    fieldOr (.own []) (readNested dates) (fields.lookup "blocks") = some b.nested := by
  simp only [readBlock, Option.pure_def, Option.bind_eq_bind, Option.bind_eq_some_iff, Option.some.injEq] at h
  obtain ⟨_, _, nested, hn, rfl⟩ := h
  exact hn

private theorem sizeOf_nested_of_readBlock {fields : List (String × Value)} {b : FileBlock} {n : Nat} (hn : 2 ≤ n)
    (h : readBlock true fields = some b) (hv : ∀ v, fields.lookup "blocks" = some v → sizeOf v ≤ n) :
    sizeOf b.nested ≤ n := by
  have h := nested_of_readBlock h
  unfold fieldOr at h
  split at h
  · simp only [Option.some.injEq] at h
    rw [← h]
    simpa using hn
  · rename_i v hl
    exact Nat.le_trans (sizeOf_le_of_readNested h) (hv v hl)

/-- The nested blocks of a block are not greater than the value that it is read from. -/
theorem sizeOf_nested_le_of_readItem {v : Value} {b : FileBlock} (h : readItem v = some (.block b)) :
    sizeOf b.nested ≤ sizeOf v := by
  have table : ∀ fields, readBlock true fields = some b → sizeOf b.nested ≤ sizeOf (Value.table fields) := by
    intro fields h
    have : 1 ≤ sizeOf fields := by cases fields <;> simp +arith
    refine sizeOf_nested_of_readBlock (by simp; omega) h fun w hl => ?_
    have := sizeOf_lt_of_lookup hl
    simp only [Value.table.sizeOf_spec]
    omega
  unfold readItem at h
  split at h
  · split at h
    · cases h
    · simp only [Option.map_eq_some_iff, FileItem.block.injEq] at h
      obtain ⟨b', hb, rfl⟩ := h
      exact table _ hb
  · simp only [Option.map_eq_some_iff, FileItem.block.injEq] at h
    obtain ⟨b', hb, rfl⟩ := h
    exact table _ hb
  · simp at h
  · split at h
    · simp only [Option.map_eq_some_iff, FileItem.block.injEq] at h
      obtain ⟨b', hb, rfl⟩ := h
      rename_i items _ _
      have : 1 ≤ sizeOf items := by cases items <;> simp +arith
      refine sizeOf_nested_of_readBlock (by simp; omega) hb fun w hl => ?_
      have := sizeOf_lt_of_lookup_zip hl
      simp only [Value.array.sizeOf_spec]
      omega
    · cases h
  · cases h

/-! ### A `ref` by itself -/

/-- A `ref` with a path that stands by itself is not taken for an entry. -/
private theorem readNested_ne_own_ref {dates : Bool} {v : Value} {n : NestedBlocks} (h : readNested dates v = some n)
    (path : String) : n ≠ .own [("ref", .string path)] := by
  have hnested : ∀ {v}, nestedOf? dates v = some n → n ≠ .own [("ref", .string path)] := by
    rintro v h rfl
    unfold nestedOf? at h
    split at h
    · split at h
      · cases h
      · rename_i hn
        cases h
        cases hn
    · rename_i hne
      cases h
      exact hne _ _ rfl
    · split at h
      · cases h
      · have hkey : [dateKey] = ["ref"] :=
          congrArg (fun n : NestedBlocks => n.entries.map Prod.fst) (Option.some.inj h)
        exact absurd hkey (by decide)
    · cases h
  unfold readNested at h
  split at h
  · obtain ⟨es, -, h⟩ := Option.bind_eq_some_iff.1 h
    exact hnested h
  · exact hnested h

/-- In a block that is read, a `ref` with a path that stands by itself shares the nested blocks there. -/
theorem nested_of_readBlock_of_entries {dates : Bool} {fields : List (String × Value)} {b : FileBlock}
    (h : readBlock dates fields = some b) {path : String} (he : b.nested.entries = [("ref", .string path)]) :
    b.nested = .shared path := by
  have hn := nested_of_readBlock h
  unfold fieldOr at hn
  split at hn
  · have := congrArg NestedBlocks.entries (Option.some.inj hn)
    rw [he] at this
    cases this
  · have hne := readNested_ne_own_ref hn path
    cases hb : b.nested with
    | shared target =>
      rw [hb] at he
      cases he
      rfl
    | own entries =>
      rw [hb] at he hne
      obtain rfl : entries = [("ref", .string path)] := he
      exact absurd rfl hne

/-- A nested block that is read has been read from its fields. -/
theorem exists_readBlock_of_readItem {v : Value} {b : FileBlock} (h : readItem v = some (.block b)) :
    ∃ fields, readBlock true fields = some b := by
  unfold readItem at h
  split at h
  · split at h
    · cases h
    · obtain ⟨b', hb, h⟩ := Option.map_eq_some_iff.1 h
      exact ⟨_, FileItem.block.inj h ▸ hb⟩
  · obtain ⟨b', hb, h⟩ := Option.map_eq_some_iff.1 h
    exact ⟨_, FileItem.block.inj h ▸ hb⟩
  · obtain ⟨_, -, h⟩ := Option.map_eq_some_iff.1 h
    cases h
  · split at h
    · obtain ⟨b', hb, h⟩ := Option.map_eq_some_iff.1 h
      exact ⟨_, FileItem.block.inj h ▸ hb⟩
    · cases h
  · cases h

end Delimited
