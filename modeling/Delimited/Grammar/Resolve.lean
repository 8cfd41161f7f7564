import Delimited.Grammar.Definition
import Delimited.Grammar.Error

/-!
# Resolution

`Definition.resolve` turns a definition into a grammar. The definitions of the tree get slots in the order in which
they are met, the root first; references become slots; patterns are read; and delimiters are checked.

A reference is followed from path to path until it meets a definition. Every path is followed at most once, and so
is every block on the way from a block to those that share their nested blocks with it, so both walks end, and one
that comes back to where it was is an error.
-/

namespace Delimited

variable {C : Type}

/-! ### Slots -/

/-- What an entry stands for: the slot of its definition, or a path that is still to be followed. -/
inductive Target (n : Nat) where
  | slot (k : Fin n)
  | ref (path : String)
deriving DecidableEq, Repr

/-- A definition taken out of its tree of `n`, with its path. -/
structure Flat (C : Type) (n : Nat) where
  path : String
  attributes : Attributes (Handler C)
  shared : Option String
  targets : List (String × Target n)

/-- The targets of entries, when the first definition among them gets the slot `next`. -/
def targetsOf (n next : Nat) : (es : List (String × Entry C)) → next + entriesSize es ≤ n → List (String × Target n)
  | [], _ => []
  | (name, .inline d) :: es, h =>
    have hd := d.size_pos
    (name, .slot ⟨next, by simp only [entriesSize] at h; omega⟩) ::
      targetsOf n (next + d.size) es (by simp only [entriesSize] at h; omega)
  | (name, .ref path) :: es, h => (name, .ref path) :: targetsOf n next es (by simpa only [entriesSize] using h)

mutual

/-- The definitions of a tree in the order of their slots, when its root gets the slot `next`. -/
def Definition.flatten (n next : Nat) (path : String) : (d : Definition C) → next + d.size ≤ n → List (Flat C n)
  | .mk attributes shared entries, h =>
    have h : next + 1 + entriesSize entries ≤ n := by simp only [Definition.size] at h; omega
    ⟨path, attributes, shared, targetsOf n (next + 1) entries h⟩ :: flattenEntries n (next + 1) path entries h

/-- The definitions below entries, in the order of their slots. -/
def flattenEntries (n next : Nat) (path : String) :
    (es : List (String × Entry C)) → next + entriesSize es ≤ n → List (Flat C n)
  | [], _ => []
  | (name, .inline d) :: es, h =>
    Definition.flatten n next (childPath path name) d (by simp only [entriesSize] at h; omega) ++
      flattenEntries n (next + d.size) path es (by simp only [entriesSize] at h; omega)
  | (_, .ref _) :: es, h => flattenEntries n next path es (by simpa only [entriesSize] using h)

end

mutual

theorem Definition.length_flatten {n next : Nat} {path : String} :
    ∀ {d : Definition C} {h : next + d.size ≤ n}, (d.flatten n next path h).length = d.size
  | .mk _ _ entries, h => by simp [Definition.flatten, Definition.size, length_flattenEntries]

theorem length_flattenEntries {n next : Nat} {path : String} :
    ∀ {es : List (String × Entry C)} {h : next + entriesSize es ≤ n},
      (flattenEntries n next path es h).length = entriesSize es
  | [], _ => by simp [flattenEntries, entriesSize]
  | (_, .inline d) :: es, h => by
    simp [flattenEntries, entriesSize, Definition.length_flatten, length_flattenEntries]
  | (_, .ref _) :: es, h => by
    simp only [flattenEntries, entriesSize]
    exact length_flattenEntries

end

mutual

/-- The references of a tree: the path of each and the path that it leads to, in the order in which they are met. -/
def Definition.references (path : String) : Definition C → List (String × String)
  | .mk _ _ entries => entriesReferences path entries

/-- The references among entries and below them. -/
def entriesReferences (path : String) : List (String × Entry C) → List (String × String)
  | [] => []
  | (name, .inline d) :: es => d.references (childPath path name) ++ entriesReferences path es
  | (name, .ref target) :: es => (childPath path name, target) :: entriesReferences path es

end

/-! ### Following references -/

/-- The definitions of a tree, in order, and its references. -/
structure Index (C : Type) (n : Nat) where
  flats : Vector (Flat C n) n
  references : List (String × String)

namespace Index

variable {n : Nat}

/-- The definition in a slot. -/
def flat (t : Index C n) (slot : Fin n) : Flat C n := t.flats[slot]

/-- The slot of the definition with a path; of several the last one. -/
def slot? (t : Index C n) (path : String) : Option (Fin n) :=
  (List.finRange n).reverse.find? fun k => (t.flat k).path = path

/-- The path that a reference leads to; of several references with one path the last one counts. -/
private def next? (references : List (String × String)) (path : String) : Option String :=
  references.reverse.lookup path

/-- The references that do not have a path. -/
private def without (references : List (String × String)) (path : String) : List (String × String) :=
  references.filter (·.1 ≠ path)

private theorem length_without_lt {references : List (String × String)} {path next : String}
    (h : next? references path = some next) : (without references path).length < references.length := by
  have hmem : ∃ r ∈ references, r.1 = path := by
    simp only [next?, List.lookup_eq_some_iff] at h
    obtain ⟨l₁, l₂, h, -⟩ := h
    exact ⟨(path, next), by rw [← List.mem_reverse, h]; simp, rfl⟩
  obtain ⟨r, hr, rfl⟩ := hmem
  exact List.length_filter_lt_length_iff_exists.2 ⟨r, hr, by simp⟩

/-- Follows a path until it meets a definition; `unused` are the references that have not been followed. -/
def follow (t : Index C n) (error : GrammarError) (path : String) (unused : List (String × String))
    (current : String) : Except GrammarError (Fin n) :=
  match t.slot? current with
  | some k => .ok k
  | none =>
    match h : next? unused current with
    | some next =>
      have := length_without_lt h
      t.follow error path (without unused current) next
    | none => if t.references.any (·.1 = current) then .error (.referenceCycle path) else .error error
termination_by unused.length

/-- The slot that a path leads to, seen from a block. -/
def lookup (t : Index C n) (path source : String) : Except GrammarError (Fin n) :=
  t.follow (.unresolvedReference path source) path t.references path

/-! ### Nested blocks -/

/-- The path of the block that a shared path means: the path itself, or what stands in front of `/blocks`. -/
def ownerPath (path : String) : String :=
  let ending := "/blocks".toList
  if ending.isSuffixOf path.toList then
    let owner := path.toList.take (path.toList.length - ending.length)
    if owner.isEmpty then rootPath else String.ofList owner
  else path

/-- Adds a block's own entries to the nested blocks that it shares. -/
def addTargets (t : Index C n) (source : String) (blocks : List (String × Fin n)) :
    List (String × Target n) → Except GrammarError (List (String × Fin n))
  | [] => .ok blocks
  | (name, .slot k) :: targets => t.addTargets source (assign name k blocks) targets
  | (name, .ref path) :: targets => do
    let k ← t.lookup path source
    t.addTargets source (assign name k blocks) targets

/-- The nested blocks of a slot: those that it shares, then its own. `unused` are the slots whose shared path has
not been followed. -/
def nestedBlocks (t : Index C n) (unused : List (Fin n)) (slot : Fin n) :
    Except GrammarError (List (String × Fin n)) := do
  let flat := t.flat slot
  match flat.shared with
  | none => t.addTargets flat.path [] flat.targets
  | some path =>
    let owner ← t.lookup (ownerPath path) flat.path
    if h : slot ∈ unused then
      have := List.length_erase_of_mem h
      have := List.length_pos_of_mem h
      let blocks ← t.nestedBlocks (unused.erase slot) owner
      t.addTargets flat.path blocks flat.targets
    else .error (.referenceCycle path)
termination_by unused.length

/-- The nested blocks of a slot that shares with none are its own. -/
theorem nestedBlocks_of_not_shared {t : Index C n} {slot : Fin n} (h : (t.flat slot).shared = none)
    (unused : List (Fin n)) :
    t.nestedBlocks unused slot = t.addTargets (t.flat slot).path [] (t.flat slot).targets := by
  rw [nestedBlocks]
  simp only [h]

end Index

/-! ### Specs -/

/-- A delimiter that must not be empty if there is one. -/
def checkDelimiter (field block : String) : Option String → Except GrammarError (Option Delimiter)
  | none => .ok none
  | some s =>
    match Delimiter.ofString? s with
    | some d => .ok (some d)
    | none => .error (.emptyDelimiter field block)

theorem checkDelimiter_eq_ok_iff {field block : String} {s : Option String} {d : Option Delimiter} :
    checkDelimiter field block s = .ok d ↔ d.map Delimiter.text = s := by
  cases s with
  | none => simp [checkDelimiter, eq_comm]
  | some s =>
    have hs : checkDelimiter field block (some s) = .ok d ↔ ∃ d', d = some d' ∧ Delimiter.ofString? s = some d' := by
      simp only [checkDelimiter]
      cases Delimiter.ofString? s <;> simp [eq_comm]
    simp [hs, Delimiter.ofString?_eq_some_iff]

theorem checkDelimiter_eq_error_iff {field block : String} {s : Option String} {fault : GrammarError} :
    checkDelimiter field block s = .error fault ↔ s = some "" ∧ fault = .emptyDelimiter field block := by
  cases s with
  | none => simp [checkDelimiter]
  | some s =>
    rw [Option.some.injEq, ← Delimiter.ofString?_eq_none_iff]
    simp only [checkDelimiter]
    cases Delimiter.ofString? s <;> simp [eq_comm]

/-- A rule of a block. -/
def RuleText.resolve (field block : String) : RuleText → Except GrammarError Rule
  | .literal s =>
    match Delimiter.ofString? s with
    | some d => .ok (.literal d)
    | none => .error (.emptyDelimiter field block)
  | .pattern source =>
    match Pattern.ofSource source with
    | .ok p => .ok (.pattern p)
    | .error fault => .error (.invalidPattern source block fault)

/-- The spec of a definition with its nested blocks. -/
def Flat.spec {n : Nat} (f : Flat C n) (blocks : List (String × Fin n)) : Except GrammarError (Spec C n) := do
  let a := f.attributes
  let start ← checkDelimiter "start" f.path a.start
  let stop ← checkDelimiter "stop" f.path a.stop
  let escapedStart ← checkDelimiter "escaped_start" f.path a.escapedStart
  let escapedStop ← checkDelimiter "escaped_stop" f.path a.escapedStop
  if f.path ≠ rootPath ∧ start.isNone then throw (.missingStart f.path)
  let split ← a.split.mapM (RuleText.resolve "split" f.path)
  let strip ← a.strip.mapM (RuleText.resolve "strip" f.path)
  return {
    path := f.path, start, stop, escapedStart, escapedStop, keepDelimiters := a.keepDelimiters,
    replaceEscapes := a.replaceEscapes, split, storeSplit := a.storeSplit, strip, ignoreEmpty := a.ignoreEmpty, blocks,
    handler := a.handler, reparse := a.reparse, handleAll := a.handleAll }

namespace Definition

/-- The definitions of a tree by their slots. -/
def index (d : Definition C) : Index C d.size :=
  ⟨⟨(d.flatten d.size 0 rootPath (by omega)).toArray, by simp [Definition.length_flatten]⟩, d.references rootPath⟩

/-- The nested blocks of every slot. -/
def nestedBlocks (d : Definition C) : Except GrammarError (Vector (List (String × Fin d.size)) d.size) :=
  let t := d.index
  (Vector.finRange d.size).mapM (t.nestedBlocks (List.finRange d.size))

/-- The grammar whose root is the definition. -/
def resolve (d : Definition C) : Except GrammarError (Grammar C) := do
  if d.attributes.start.isSome then throw (.rootDelimiter "start")
  if d.attributes.stop.isSome then throw (.rootDelimiter "stop")
  let blocks ← d.nestedBlocks
  let t := d.index
  let specs ← (Vector.finRange d.size).mapM fun k => (t.flat k).spec blocks[k]
  return ⟨d.size, d.size_pos, specs⟩

end Definition

end Delimited
