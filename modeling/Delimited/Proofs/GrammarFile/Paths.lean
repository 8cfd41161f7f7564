import Mathlib
import Delimited.Proofs.GrammarFile.Sharing

/-!
# Paths in the errors of grammar files

The blocks of a file are found by following names from the root (`FileBlock.Nests`). The path by which resolution knows a
block is made of these names (`pathOf`), and so is the path under which a mistake in the block is reported
(`reportedPathOf`), but the two are not made in the same way: where the path of a block ends in a `/`, this `/` is left out
of what is reported about the blocks nested in it. So the two are the same just when none of the blocks around has a name
that is empty or ends in a `/` (`reportedPathOf_eq_iff`).

What is reported is the first fault on the way through the file (`FileBlock.FirstFault`): the handler of a block comes
before its nested blocks, and these come in order.
-/

namespace Delimited

open Toml (Value)

variable {C : Type}

/-! ### Two ways to make a path -/

/-- The path of the block that names lead to, one after the other from the root. -/
def pathOf (names : List String) : String := names.foldl childPath rootPath

/-- The path under which the block is reported that names lead to. -/
def reportedPathOf (names : List String) : String := names.foldl reportedPath rootPath

/-- The name is not empty and does not end in a `/`. -/
def EndsPlainly (name : String) : Prop := name ≠ "" ∧ name.toList.getLast? ≠ some '/'

instance : DecidablePred EndsPlainly := fun _ => inferInstanceAs (Decidable (_ ∧ _))

private theorem pathOf_concat (names : List String) (name : String) :
    pathOf (names ++ [name]) = childPath (pathOf names) name := List.foldl_concat ..

private theorem reportedPathOf_concat (names : List String) (name : String) :
    reportedPathOf (names ++ [name]) = reportedPath (reportedPathOf names) name := List.foldl_concat ..

/-- A path without the `/` at its end. -/
private def trimmed (path : String) : List Char := path.toList.rdropWhile (· = '/')

private theorem toList_reportedPath (path name : String) :
    (reportedPath path name).toList = trimmed path ++ ("/blocks/".toList ++ name.toList) := by
  simp [reportedPath, trimmed, List.rdropWhile]

private theorem toList_childPath_of_ne {path : String} (h : path ≠ rootPath) (name : String) :
    (childPath path name).toList = path.toList ++ ("/blocks/".toList ++ name.toList) := by
  simp [childPath, h]

private theorem length_trimmed_le (path : String) : (trimmed path).length ≤ path.toList.length :=
  List.IsPrefix.length_le (List.rdropWhile_prefix ..)

/-- Nothing is left out at the end of a path just when the name there ends plainly. -/
private theorem trimmed_reportedPath_iff (path name : String) :
    trimmed (reportedPath path name) = (reportedPath path name).toList ↔ EndsPlainly name := by
  rw [trimmed, List.rdropWhile_eq_self_iff, toList_reportedPath, EndsPlainly, ← String.toList_inj.ne]
  cases name.toList using List.reverseRecOn with
  | nil => simp
  | append_singleton init c => simp

/-- What is reported is no longer than the path, and is the path just when the blocks around have names that end
plainly. -/
private theorem reportedPathOf_spec (names : List String) :
    (reportedPathOf names).toList.length ≤ (pathOf names).toList.length ∧
      (reportedPathOf names = pathOf names ↔ ∀ name ∈ names.dropLast, EndsPlainly name) := by
  induction names using List.reverseRecOn with
  | nil => exact ⟨le_rfl, by simp [reportedPathOf, pathOf]⟩
  | append_singleton names name ih =>
    rw [reportedPathOf_concat, pathOf_concat, List.dropLast_concat]
    obtain ⟨hle, hiff⟩ := ih
    cases names using List.reverseRecOn with
    | nil =>
      have hfirst : reportedPath rootPath name = childPath rootPath name := by
        rw [← String.toList_inj, toList_reportedPath, show trimmed rootPath = [] by decide, childPath, if_pos rfl]
        simp
      exact ⟨(congrArg (·.toList.length) hfirst).le, by simp [reportedPathOf, pathOf, hfirst]⟩
    | append_singleton init last =>
      rw [List.dropLast_concat] at hiff
      have hne : pathOf (init ++ [last]) ≠ rootPath := by
        rw [pathOf_concat]
        exact childPath_ne_rootPath _ _
      have htrim := trimmed_reportedPath_iff (reportedPathOf init) last
      rw [← reportedPathOf_concat] at htrim
      have hshort := length_trimmed_le (reportedPathOf (init ++ [last]))
      generalize reportedPathOf (init ++ [last]) = reported at *
      generalize pathOf (init ++ [last]) = path at *
      rw [← String.toList_inj, toList_reportedPath, toList_childPath_of_ne hne, List.append_left_inj]
      refine ⟨by simp only [List.length_append]; omega, ?_⟩
      rw [List.forall_mem_append, List.forall_mem_singleton, ← hiff, ← htrim]
      constructor
      · intro h
        -- nothing can have been left out, since what is left is as long as the path
        have hlen : (trimmed reported).length = path.toList.length := by rw [h]
        have hsame : trimmed reported = reported.toList :=
          (List.rdropWhile_prefix _ _).eq_of_length (by rw [← trimmed]; omega)
        exact ⟨String.toList_inj.1 (hsame.symm.trans h), hsame⟩
      · rintro ⟨rfl, h⟩
        exact h

/-- A block is reported under its path just when the blocks around it have names that end plainly. -/
theorem reportedPathOf_eq_iff (names : List String) :
    reportedPathOf names = pathOf names ↔ ∀ name ∈ names.dropLast, EndsPlainly name := (reportedPathOf_spec names).2

/-! ### The blocks of a file -/

namespace FileBlock

/-- The blocks of a file whose root is given, each with the names that lead to it. -/
inductive Nests (root : FileBlock) : List String → FileBlock → Prop
  | root : Nests root [] root
  | nested {names : List String} {name : String} {b c : FileBlock} {v : Value} (h : Nests root names b)
    (hm : (name, v) ∈ b.nested.entries) (hv : readItem v = some (.block c)) : Nests root (names ++ [name]) c

variable {root b c : FileBlock} {names : List String}

private theorem Nests.holds (h : root.Nests names b) : root.Holds (pathOf names) b := by
  induction h with
  | root => exact .root
  | nested _ hm hv ih =>
    rw [pathOf_concat]
    exact .nested ih hm hv

/-- The names that lead on from a nested block lead on from the block around it. -/
theorem Nests.of_nested {name : String} {v : Value} (hm : (name, v) ∈ root.nested.entries)
    (hv : readItem v = some (.block b)) (h : b.Nests names c) : root.Nests (name :: names) c := by
  induction h with
  | root => exact .nested .root hm hv
  | nested _ hm' hv' ih => exact .nested ih hm' hv'

end FileBlock

/-! ### Faults -/

/-- What can be wrong with an entry of a file. -/
inductive EntryFault where
  /-- No handler has the name that the block gives. -/
  | unknownHandler (handler : String)
  /-- The entry is neither a block nor a reference. -/
  | invalid

/-- The fault as it is reported of a block. -/
def EntryFault.error (path : String) : EntryFault → FileError
  | .unknownHandler handler => .unknownHandler path handler
  | .invalid => .invalidBlock path

/-- The entry that names lead to is the one in which the fault lies. -/
def EntryFault.LiesIn (root : FileBlock) (names : List String) : EntryFault → Prop
  | .unknownHandler handler => ∃ b, root.Nests names b ∧ b.attributes.handler = some handler
  | .invalid => ∃ around name b v, names = around ++ [name] ∧ root.Nests around b ∧
      (name, v) ∈ b.nested.entries ∧ readItem v = none

namespace FileBlock

/-- The first fault of a block that is reported under a path, and the names that lead to it: the handler is found before
the nested blocks are read, and these are read in order. -/
inductive FirstFault (registry : Registry C) : String → FileBlock → List String → EntryFault → Prop
  | handler {path handler : String} {b : FileBlock} (hb : b.attributes.handler = some handler)
    (hr : registry.get? handler = none) : FirstFault registry path b [] (.unknownHandler handler)
  | invalid {path name : String} {a : Attributes String} {a' : Attributes (Handler C)} {v : Value}
    {before after : List (String × Value)} {es : List (String × Entry C)}
    (ha : a.findHandler registry path = .ok a') (hb : toEntries registry path before = .ok es)
    (hv : readItem v = none) : FirstFault registry path ⟨a, .own (before ++ (name, v) :: after)⟩ [name] .invalid
  | nested {path name : String} {a : Attributes String} {a' : Attributes (Handler C)} {v : Value}
    {before after : List (String × Value)} {es : List (String × Entry C)} {c : FileBlock} {names : List String}
    {fault : EntryFault} (ha : a.findHandler registry path = .ok a') (hb : toEntries registry path before = .ok es)
    (hv : readItem v = some (.block c)) (hc : FirstFault registry (reportedPath path name) c names fault) :
    FirstFault registry path ⟨a, .own (before ++ (name, v) :: after)⟩ (name :: names) fault

variable {registry : Registry C} {path : String} {b : FileBlock} {names : List String} {fault : EntryFault}

/-- The names lead to the entry in which the fault lies. -/
theorem FirstFault.liesIn (h : FirstFault registry path b names fault) : fault.LiesIn b names := by
  induction h with
  | handler hb _ => exact ⟨_, .root, hb⟩
  | @invalid _ name _ _ v before after _ _ _ hv => exact ⟨[], name, _, v, rfl, .root, by simp [NestedBlocks.entries], hv⟩
  | @nested _ name a _ v before after _ c names fault _ _ hv _ ih =>
    have hm : (name, v) ∈ (FileBlock.mk a (.own (before ++ (name, v) :: after))).nested.entries := by
      simp [NestedBlocks.entries]
    cases fault with
    | unknownHandler handler =>
      obtain ⟨e, he, hh⟩ := ih
      exact ⟨e, he.of_nested hm hv, hh⟩
    | invalid =>
      obtain ⟨around, last, e, w, rfl, he, hw, hn⟩ := ih
      exact ⟨name :: around, last, e, w, rfl, he.of_nested hm hv, hw, hn⟩

/-- The first fault is reported, under the path that is made of the names. -/
theorem FirstFault.toDefinition_eq (h : FirstFault registry path b names fault) :
    b.toDefinition registry path = .error (fault.error (names.foldl reportedPath path)) := by
  induction h with
  | @handler path handler b hb hr =>
    have ha : b.attributes.findHandler registry path = .error (.unknownHandler path handler) := by
      rw [Attributes.findHandler, hb]
      dsimp only
      rw [hr]
    obtain ⟨a, shared | entries⟩ := b
    all_goals
      rw [toDefinition, ha]
      rfl
  | invalid ha hb hv =>
    rw [toDefinition_own, ha, toEntries_append, hb, toEntries_cons, hv]
    rfl
  | nested ha hb hv _ ih =>
    rw [toDefinition_own, ha, toEntries_append, hb, toEntries_block hv, ih]
    rfl

end FileBlock

section

variable {registry : Registry C} {path : String} {e : FileError}

/-- Why an entry is not read. -/
private theorem unread_cases {name : String} {v : Value} (h : toEntries registry path [(name, v)] = .error e) :
    (readItem v = none ∧ e = .invalidBlock (reportedPath path name)) ∨
      ∃ c, readItem v = some (.block c) ∧ c.toDefinition registry (reportedPath path name) = .error e := by
  cases hv : readItem v with
  | none =>
    rw [toEntries_cons, hv] at h
    exact Or.inl ⟨rfl, (Except.error.inj h).symm⟩
  | some item =>
    cases item with
    | ref target =>
      rw [toEntries_cons, hv, toEntries] at h
      cases h
    | block c =>
      rw [toEntries_block hv, toEntries] at h
      rcases bind_eq_error_iff.1 h with hc | ⟨d, -, h⟩
      · exact Or.inr ⟨c, rfl, hc⟩
      · cases h

/-- Of entries that are not read, a first one is not. -/
private theorem exists_first_unread {entries : List (String × Value)} (h : toEntries registry path entries = .error e) :
    ∃ before name v after es, entries = before ++ (name, v) :: after ∧ toEntries registry path before = .ok es ∧
      toEntries registry path [(name, v)] = .error e := by
  induction entries with
  | nil =>
    rw [toEntries] at h
    cases h
  | cons entry entries ih =>
    rw [← List.singleton_append, toEntries_append] at h
    rcases bind_eq_error_iff.1 h with hentry | ⟨es, hentry, h⟩
    · exact ⟨[], entry.1, entry.2, entries, [], rfl, by rw [toEntries], hentry⟩
    · rcases bind_eq_error_iff.1 h with hrest | ⟨es', -, h⟩
      · obtain ⟨before, name, v, after, es', rfl, hb, hv⟩ := ih hrest
        refine ⟨entry :: before, name, v, after, es ++ es', rfl, ?_, hv⟩
        rw [← List.singleton_append, toEntries_append, hentry, hb]
        rfl
      · cases h

/-- A handler that is not found is a fault of the block that names it. -/
private theorem firstFault_of_findHandler {b : FileBlock} (h : b.attributes.findHandler registry path = .error e) :
    ∃ names fault, b.FirstFault registry path names fault ∧ e = fault.error (names.foldl reportedPath path) := by
  unfold Attributes.findHandler at h
  split at h
  · cases h
  · split at h
    · cases h
    · exact ⟨[], .unknownHandler _, .handler ‹_› ‹_›, (Except.error.inj h).symm⟩

/-- Why a block has no definition. -/
private theorem undefined_cases {b : FileBlock} (h : b.toDefinition registry path = .error e) :
    b.attributes.findHandler registry path = .error e ∨
      ∃ a a' entries, b = ⟨a, .own entries⟩ ∧ a.findHandler registry path = .ok a' ∧
        toEntries registry path entries = .error e := by
  obtain ⟨a, target | entries⟩ := b
  · rw [FileBlock.toDefinition_shared] at h
    rcases bind_eq_error_iff.1 h with ha | ⟨_, -, h⟩
    · exact Or.inl ha
    · cases h
  · rw [FileBlock.toDefinition_own] at h
    rcases bind_eq_error_iff.1 h with ha | ⟨a', ha, h⟩
    · exact Or.inl ha
    · rcases bind_eq_error_iff.1 h with hes | ⟨_, -, h⟩
      · exact Or.inr ⟨a, a', entries, rfl, ha, hes⟩
      · cases h

end

/-- Every error of a block is that of its first fault. -/
private theorem exists_firstFault {registry : Registry C} {path : String} {e : FileError} (b : FileBlock)
    (h : b.toDefinition registry path = .error e) :
    ∃ names fault, b.FirstFault registry path names fault ∧ e = fault.error (names.foldl reportedPath path) := by
  rcases undefined_cases h with h | ⟨a, a', entries, hown, ha, hes⟩
  · exact firstFault_of_findHandler h
  · obtain ⟨before, name, v, after, es, rfl, hb, hv⟩ := exists_first_unread hes
    rcases unread_cases hv with ⟨hnone, rfl⟩ | ⟨c, hblock, hc⟩
    · subst hown
      exact ⟨[name], .invalid, .invalid ha hb hnone, rfl⟩
    · have hsize : sizeOf c.nested < sizeOf b.nested := by
        have hle := sizeOf_nested_le_of_readItem hblock
        have hm : sizeOf (name, v) < sizeOf (before ++ (name, v) :: after) := List.sizeOf_lt_of_mem (by simp)
        rw [hown, NestedBlocks.own.sizeOf_spec]
        simp only [Prod.mk.sizeOf_spec] at hm
        omega
      obtain ⟨names, fault, hf, rfl⟩ := exists_firstFault c hc
      subst hown
      exact ⟨name :: names, fault, .nested ha hb hblock hf, rfl⟩
termination_by sizeOf b.nested
decreasing_by exact hsize

/-! ### The paths of resolution -/

namespace Definition

/-- No path finds a definition but its own. -/
theorem At.path_of_slot? {d e : Definition C} {slot : Fin d.size} {path path' : String} (h : d.At slot path e)
    (hs : d.index.slot? path' = some slot) : path' = path := by
  have hp : (d.index.flat slot).path = path' := by
    unfold Index.slot? at hs
    simpa using List.find?_some hs
  rw [← hp, path_flat h]

/-- A path that names a definition leads to it. -/
theorem At.lookup {d e : Definition C} {slot : Fin d.size} {path : String} (h : d.At slot path e) (hd : d.Unambiguous)
    (source : String) : d.index.lookup path source = .ok slot := by
  have hs : d.index.slot? path = some slot := (slot?_eq_some_iff hd).2 ⟨e, h⟩
  rw [Index.lookup, Index.follow, hs]

end Definition

/-! ### Reports -/

private theorem EntryFault.error_injective {fault fault' : EntryFault} {path path' : String}
    (h : fault.error path = fault'.error path') : fault = fault' ∧ path = path' := by
  cases fault <;> cases fault' <;> simp_all [EntryFault.error]

namespace GrammarFile

/-- The faults of its entries that a file is refused for are the first ones. -/
theorem toGrammar_eq_error_iff {f : GrammarFile} {registry : Registry C} {fault : EntryFault} {reported : String} :
    f.toGrammar registry = .error (fault.error reported) ↔
      ∃ names, f.root.FirstFault registry rootPath names fault ∧ reported = reportedPathOf names := by
  constructor
  · intro h
    cases hd : f.toDefinition registry with
    | error e =>
      rw [toGrammar_of_error hd] at h
      obtain ⟨names, fault', hf, he⟩ := exists_firstFault f.root hd
      obtain ⟨rfl, rfl⟩ := EntryFault.error_injective ((Except.error.inj h).symm.trans he)
      exact ⟨names, hf, rfl⟩
    | ok d =>
      rw [toGrammar_of_toDefinition hd] at h
      -- faults of the grammar are other ones
      cases hg : d.resolve with
      | error e =>
        rw [hg] at h
        cases fault <;> cases h
      | ok g =>
        rw [hg] at h
        cases h
  · rintro ⟨names, hf, rfl⟩
    exact toGrammar_of_error hf.toDefinition_eq

/-- A file is refused for the first fault in one of its entries, under the path that is made of the names that lead to the
entry. This is the path by which resolution knows the block just when the blocks around it have names that end plainly.
For whenever the same names lead to a block in a file that is read, be it the same file with another registry, its spec
has the path that is made by resolution; and where no path is ambiguous, this path leads to the block and no other names
it. -/
theorem reported_path (f : GrammarFile) (registry : Registry C) (fault : EntryFault) :
    (∀ reported, f.toGrammar registry = .error (fault.error reported) ↔
      ∃ names, f.root.FirstFault registry rootPath names fault ∧ reported = reportedPathOf names) ∧
    ∀ names, f.root.FirstFault registry rootPath names fault → fault.LiesIn f.root names ∧
      (reportedPathOf names = pathOf names ↔ ∀ name ∈ names.dropLast, EndsPlainly name) ∧
      ∀ (f' : GrammarFile) (registry' : Registry C) (d : Definition C), f'.toDefinition registry' = .ok d →
        ∀ b, f'.root.Nests names b → ∃ (slot : Fin d.size) (e : Definition C),
          d.At slot (pathOf names) e ∧ (∃ reported, b.toDefinition registry' reported = .ok e) ∧
          (∀ g, d.resolve = .ok g → ∃ hs, (g.spec ⟨slot, hs⟩).path = pathOf names) ∧
          (∀ path, d.index.slot? path = some slot → path = pathOf names) ∧
          (d.Unambiguous → ∀ source, d.index.lookup (pathOf names) source = .ok slot) := by
  refine ⟨fun reported => toGrammar_eq_error_iff, fun names hf => ⟨hf.liesIn, reportedPathOf_eq_iff names, ?_⟩⟩
  intro f' registry' d hd b hb
  obtain ⟨slot, e, reported, hat, he⟩ := hb.holds.exists_at hd
  exact ⟨slot, e, hat, ⟨reported, he⟩, fun g hg => Definition.path_of_resolve hg hat, fun path => hat.path_of_slot?,
    fun hu source => hat.lookup hu source⟩

/-- The nested block of a file, which has a handler. -/
private def handledItem : Value :=
  .table [("start", .string "["), ("stop", .string "]"), ("handle", .string "upper")]

/-- A block around the nested one. -/
private def handledOuter : Value :=
  .table [("start", .string "("), ("stop", .string ")"), ("blocks", .table [("item", handledItem)])]

/-- A file with a block whose nested block has a handler. -/
private def handledFile (outer : String) : GrammarFile := ⟨none, {}, {}, .own [(outer, handledOuter)]⟩

private theorem readItem_handledOuter : readItem handledOuter =
    some (.block ⟨{ start := some "(", stop := some ")" }, .own [("item", handledItem)]⟩) := by
  cbv

private theorem readItem_handledItem : readItem handledItem =
    some (.block ⟨{ start := some "[", stop := some "]", handler := some "upper" }, .own []⟩) := by
  cbv

private theorem firstFault_handledFile (outer : String) :
    (handledFile outer).root.FirstFault (.empty : Registry Unit) rootPath [outer, "item"] (.unknownHandler "upper") := by
  have hnone : ∀ path, toEntries (.empty : Registry Unit) path [] = .ok [] := fun path => by rw [toEntries]
  have hitem : FileBlock.FirstFault (.empty : Registry Unit) (reportedPath rootPath outer)
      ⟨{ start := some "(", stop := some ")" }, .own ([] ++ ("item", handledItem) :: [])⟩ ["item"]
      (.unknownHandler "upper") := .nested rfl (hnone _) readItem_handledItem (.handler rfl rfl)
  have houter : FileBlock.FirstFault (.empty : Registry Unit) rootPath
      ⟨{}, .own ([] ++ (outer, handledOuter) :: [])⟩ [outer, "item"] (.unknownHandler "upper") :=
    .nested rfl (hnone _) readItem_handledOuter hitem
  exact houter

/-- A registry with the handler. -/
private def handlers : Registry Unit := .register "upper" (.ofFunction id) .empty

/-- The definition of the file, where the handler is found. -/
private def handledRoot (outer : String) : Definition Unit :=
  .mk {} none [(outer, .inline (.mk { start := some "(", stop := some ")" } none
    [("item", .inline (.mk { start := some "[", stop := some "]", handler := some (.ofFunction id) } none []))]))]

private theorem exists_resolve_handledRoot (outer : String) : ∃ g, (handledRoot outer).resolve = .ok g := by
  have hfaults : ∀ b ∈ (handledRoot outer).preorder rootPath, b.2.attributes.faults b.1 = [] := by
    simp [handledRoot, Definition.preorder, entriesPreorder, Definition.attributes, Attributes.faults, delimiterFaults]
  have h : (handledRoot outer).nestedBlocks.isOk = true := by cbv
  cases hb : (handledRoot outer).nestedBlocks with
  | ok blocks => exact Definition.exists_resolve_of_faults rfl rfl hb hfaults
  | error fault =>
    rw [hb] at h
    cases h

private theorem toDefinition_handledFile (outer : String) :
    (handledFile outer).toDefinition handlers = .ok (handledRoot outer) := by
  have hhandler : handlers.get? "upper" = some (.ofFunction id) := by
    rw [handlers, Registry.get?_register, if_pos rfl]
  have hitem : ∀ path, toEntries handlers path [("item", handledItem)] = .ok [("item", .inline
      (.mk { start := some "[", stop := some "]", handler := some (.ofFunction id) } none []))] := by
    intro path
    rw [toEntries_cons, readItem_handledItem]
    simp only [FileBlock.toDefinition, Attributes.findHandler, hhandler, toEntries]
    rfl
  show FileBlock.toDefinition handlers rootPath ⟨{}, .own [(outer, handledOuter)]⟩ = _
  rw [FileBlock.toDefinition]
  simp only [Attributes.findHandler]
  rw [toEntries_cons, readItem_handledOuter]
  simp only [FileBlock.toDefinition, Attributes.findHandler, hitem, toEntries]
  rfl

/-- Without the handler the nested block is reported under its path. -/
theorem reported_path_item :
    ∃ f : GrammarFile, f.root.FirstFault (.empty : Registry Unit) rootPath ["list", "item"] (.unknownHandler "upper") ∧
      f.toGrammar (.empty : Registry Unit) = .error (.unknownHandler (pathOf ["list", "item"]) "upper") ∧
      ∃ (registry : Registry Unit) (d : Definition Unit) (g : Grammar Unit) (b : FileBlock),
        f.toDefinition registry = .ok d ∧ d.resolve = .ok g ∧ f.root.Nests ["list", "item"] b ∧
          ∃ k, (g.spec k).path = pathOf ["list", "item"] := by
  have hf := firstFault_handledFile "list"
  obtain ⟨herror, hnames⟩ := reported_path (handledFile "list") (.empty : Registry Unit) (.unknownHandler "upper")
  obtain ⟨⟨b, hb, -⟩, hiff, hresolved⟩ := hnames _ hf
  refine ⟨handledFile "list", hf, ?_, ?_⟩
  · rw [← hiff.2 (by decide)]
    exact (herror _).2 ⟨_, hf, rfl⟩
  · obtain ⟨g, hg⟩ := exists_resolve_handledRoot "list"
    have hd := toDefinition_handledFile "list"
    obtain ⟨slot, e, -, -, hpath, -⟩ := hresolved _ _ _ hd b hb
    obtain ⟨hs, hp⟩ := hpath g hg
    exact ⟨handlers, handledRoot "list", g, b, hd, hg, hb, _, hp⟩

/-- The `/` at the end of a name is missing in what is reported. -/
theorem reported_path_slash :
    ∃ f : GrammarFile,
      f.toGrammar (.empty : Registry Unit) = .error (.unknownHandler "/blocks/a/blocks/item" "upper") ∧
      ∃ (registry : Registry Unit) (g : Grammar Unit), f.toGrammar registry = .ok g ∧
        g.specs.toList.map Spec.path = ["/", "/blocks/a/", "/blocks/a//blocks/item"] := by
  have hreported : "/blocks/a/blocks/item" = reportedPathOf ["a/", "item"] := by decide
  have herror : (handledFile "a/").toGrammar (.empty : Registry Unit) =
      .error (EntryFault.error "/blocks/a/blocks/item" (.unknownHandler "upper")) :=
    toGrammar_eq_error_iff.2 ⟨_, firstFault_handledFile "a/", hreported⟩
  obtain ⟨g, hg⟩ := exists_resolve_handledRoot "a/"
  have hread : (handledFile "a/").toGrammar handlers = .ok g := by
    rw [toGrammar_of_toDefinition (toDefinition_handledFile "a/"), hg]
    rfl
  refine ⟨handledFile "a/", herror, handlers, g, hread, ?_⟩
  rw [Definition.paths_of_resolve hg]
  rfl

end GrammarFile

end Delimited
