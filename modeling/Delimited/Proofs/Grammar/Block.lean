import Mathlib
import Delimited.Proofs.Grammar.Resolved

/-!
# What is said about a block

`Attributes.faults` lists what is wrong with what a definition says about its own block, in the order in which it is
looked at. A spec is made when nothing is (`Flat.spec_eq_ok_iff`), and `Flat.Made` tells what it holds; otherwise the
first fault is reported (`Flat.spec_eq_error_iff`). The specs of a grammar are made of the definitions in their slots and
of the nested blocks that are found for these (`Definition.specs_of_resolve`).
-/

namespace Delimited

/-! ### Rules -/

/-- A rule that is written, and the rule that it stands for. -/
inductive RuleText.Makes : RuleText → Rule → Prop
  | literal (d : Delimiter) : Makes (.literal d.text) (.literal d)
  | pattern {source : String} {p : Pattern} (h : Pattern.ofSource source = .ok p) : Makes (.pattern source) (.pattern p)

/-- What is wrong with a rule. -/
def RuleText.fault? (field block : String) : RuleText → Option GrammarError
  | .literal s => if s = "" then some (.emptyDelimiter field block) else none
  | .pattern source =>
    match Pattern.ofSource source with
    | .ok _ => none
    | .error fault => some (.invalidPattern source block fault)

private theorem RuleText.resolve_eq_ok_iff {field block : String} {r : RuleText} {rule : Rule} :
    r.resolve field block = .ok rule ↔ r.Makes rule := by
  cases r with
  | literal s =>
    simp only [resolve]
    constructor
    · intro h
      cases hd : Delimiter.ofString? s with
      | none => rw [hd] at h; cases h
      | some d =>
        rw [hd] at h
        obtain rfl := Except.ok.inj h
        obtain rfl := Delimiter.ofString?_eq_some_iff.1 hd
        exact .literal d
    · intro h
      cases h with
      | literal d => rw [Delimiter.ofString?_eq_some_iff.2 rfl]
  | pattern source =>
    simp only [resolve]
    constructor
    · intro h
      cases hp : Pattern.ofSource source with
      | error fault => rw [hp] at h; cases h
      | ok p =>
        rw [hp] at h
        obtain rfl := Except.ok.inj h
        exact .pattern hp
    · intro h
      cases h with
      | pattern h => rw [h]

/-- A rule stands for the text that it was written as. -/
theorem RuleText.Makes.written {r : RuleText} {rule : Rule} (h : r.Makes rule) : rule.written = r := by
  cases h with
  | literal d => rfl
  | pattern h =>
    unfold Pattern.ofSource at h
    split at h
    · cases h
    · split at h
      · obtain rfl := Except.ok.inj h
        rfl
      · cases h

private theorem RuleText.resolve_eq_error_iff {field block : String} {r : RuleText} {fault : GrammarError} :
    r.resolve field block = .error fault ↔ r.fault? field block = some fault := by
  cases r with
  | literal s =>
    simp only [resolve, fault?, ← Delimiter.ofString?_eq_none_iff]
    cases Delimiter.ofString? s <;> simp
  | pattern source =>
    simp only [resolve, fault?]
    cases Pattern.ofSource source <;> simp

/-! ### Items in a row -/

theorem list_mapM_eq_ok_iff {ε α β : Type} {f : α → Except ε β} {l : List α} {l' : List β} :
    l.mapM f = .ok l' ↔ List.Forall₂ (fun a b => f a = .ok b) l l' := by
  constructor
  · intro h
    obtain ⟨hl, hget⟩ := list_mapM_eq_ok h
    exact List.forall₂_iff_get.2 ⟨hl.symm, fun i hi hi' => hget i hi hi'⟩
  · intro h
    induction h with
    | nil => rfl
    | cons hab _ ih =>
      rw [List.mapM_cons, hab, ih]
      rfl

private theorem option_mapM_eq_ok_iff {ε α β : Type} {f : α → Except ε β} {x : Option α} {y : Option β} :
    x.mapM f = .ok y ↔ Option.Rel (fun a b => f a = .ok b) x y := by
  cases x with
  | none => cases y <;> simp [Option.mapM, pure, Except.pure]
  | some a => cases y <;> cases h : f a <;> simp [Option.mapM, Functor.map, Except.map, h]

/-- A computation fails with the first of these faults, and goes through if there are none. -/
private def FailsWith {ε α : Type} (x : Except ε α) (faults : List ε) : Prop := ∀ e, x = .error e ↔ faults.head? = some e

section

variable {ε α β : Type}

private theorem failsWith_ok (a : α) : FailsWith (.ok a : Except ε α) [] := by
  simp [FailsWith]

private theorem failsWith_error (e : ε) : FailsWith (.error e : Except ε α) [e] := by
  simp [FailsWith]

private theorem FailsWith.bind {x : Except ε α} {f : α → Except ε β} {faults faults' : List ε} (h : FailsWith x faults)
    (h' : ∀ a, x = .ok a → FailsWith (f a) faults') : FailsWith (x >>= f) (faults ++ faults') := by
  intro e
  rw [bind_eq_error_iff, h e, List.head?_append]
  cases faults with
  | nil =>
    obtain ⟨a, rfl⟩ := exists_eq_ok fun e he => by simpa using (h e).1 he
    simp [h' a rfl e]
  | cons fault faults =>
    have hx : x = .error fault := (h fault).2 rfl
    simp [hx]

private theorem FailsWith.of_ok {x : Except ε α} {f : α → β} {faults : List ε} (h : FailsWith x faults) :
    FailsWith (x >>= fun a => .ok (f a)) faults := by
  have := h.bind (f := fun a => (.ok (f a) : Except ε β)) fun a _ => failsWith_ok (f a)
  simpa using this

private theorem failsWith_list_mapM {f : α → Except ε β} {fault? : α → Option ε}
    (h : ∀ a, FailsWith (f a) (fault? a).toList) (l : List α) : FailsWith (l.mapM f) (l.filterMap fault?) := by
  induction l with
  | nil => exact failsWith_ok []
  | cons a l ih =>
    rw [List.mapM_cons, List.filterMap_cons]
    have := (h a).bind fun b _ => ih.of_ok (f := fun bs => b :: bs)
    cases hf : fault? a with
    | none => rw [hf] at this; exact this
    | some e => rw [hf] at this; exact this

private theorem failsWith_option_mapM {f : α → Except ε β} {fault? : α → Option ε}
    (h : ∀ a, FailsWith (f a) (fault? a).toList) (x : Option α) : FailsWith (x.mapM f) (x.bind fault?).toList := by
  cases x with
  | none => exact failsWith_ok none
  | some a =>
    have hx : (some a).mapM f = f a >>= fun b => .ok (some b) := by
      cases h : f a <;> simp [Option.mapM, Functor.map, Except.map, h, bind, Except.bind]
    rw [hx]
    exact (h a).of_ok

end

/-! ### Blocks -/

/-- What is wrong with a delimiter. -/
def delimiterFaults (field block : String) (s : Option String) : List GrammarError :=
  if s = some "" then [.emptyDelimiter field block] else []

/-- What is wrong with what is said about a block, in the order in which it is looked at. -/
def Attributes.faults {H : Type} (a : Attributes H) (path : String) : List GrammarError :=
  delimiterFaults "start" path a.start ++ delimiterFaults "stop" path a.stop ++
    delimiterFaults "escaped_start" path a.escapedStart ++ delimiterFaults "escaped_stop" path a.escapedStop ++
    (if path ≠ rootPath ∧ a.start = none then [.missingStart path] else []) ++
    (a.split.bind (RuleText.fault? "split" path)).toList ++ a.strip.filterMap (RuleText.fault? "strip" path)

namespace Flat

variable {C : Type} {n : Nat}

/-- A spec that says what a definition does, with these nested blocks. -/
structure Made (f : Flat C n) (blocks : List (String × Fin n)) (s : Spec C n) : Prop where
  path : s.path = f.path
  start : s.start.map Delimiter.text = f.attributes.start
  stop : s.stop.map Delimiter.text = f.attributes.stop
  escapedStart : s.escapedStart.map Delimiter.text = f.attributes.escapedStart
  escapedStop : s.escapedStop.map Delimiter.text = f.attributes.escapedStop
  keepDelimiters : s.keepDelimiters = f.attributes.keepDelimiters
  replaceEscapes : s.replaceEscapes = f.attributes.replaceEscapes
  split : Option.Rel RuleText.Makes f.attributes.split s.split
  storeSplit : s.storeSplit = f.attributes.storeSplit
  strip : List.Forall₂ RuleText.Makes f.attributes.strip s.strip
  ignoreEmpty : s.ignoreEmpty = f.attributes.ignoreEmpty
  blocks : s.blocks = blocks
  handler : s.handler = f.attributes.handler
  reparse : s.reparse = f.attributes.reparse
  handleAll : s.handleAll = f.attributes.handleAll
  opens : f.path ≠ rootPath → s.start.isSome

/-- A spec that is made says what the definition does. -/
theorem spec_eq_ok_iff {f : Flat C n} {blocks : List (String × Fin n)} {s : Spec C n} :
    f.spec blocks = .ok s ↔ f.Made blocks s := by
  unfold spec
  dsimp only
  constructor
  · intro h
    obtain ⟨start, h₁, h⟩ := bind_eq_ok h
    obtain ⟨stop, h₂, h⟩ := bind_eq_ok h
    obtain ⟨escapedStart, h₃, h⟩ := bind_eq_ok h
    obtain ⟨escapedStop, h₄, h⟩ := bind_eq_ok h
    split at h
    · cases h
    · rename_i hopens
      obtain ⟨split, h₅, h⟩ := bind_eq_ok h
      obtain ⟨strip, h₆, h⟩ := bind_eq_ok h
      obtain rfl := Except.ok.inj h
      simp only [option_mapM_eq_ok_iff, list_mapM_eq_ok_iff, RuleText.resolve_eq_ok_iff] at h₅ h₆
      exact ⟨rfl, checkDelimiter_eq_ok_iff.1 h₁, checkDelimiter_eq_ok_iff.1 h₂, checkDelimiter_eq_ok_iff.1 h₃,
        checkDelimiter_eq_ok_iff.1 h₄, rfl, rfl, h₅, rfl, h₆, rfl, rfl, rfl, rfl, rfl,
        fun hp => by simpa [hp, ← Option.isSome_iff_ne_none] using hopens⟩
  · intro h
    have h₅ : f.attributes.split.mapM (RuleText.resolve "split" f.path) = .ok s.split := by
      simpa only [option_mapM_eq_ok_iff, RuleText.resolve_eq_ok_iff] using h.split
    have h₆ : f.attributes.strip.mapM (RuleText.resolve "strip" f.path) = .ok s.strip := by
      simpa only [list_mapM_eq_ok_iff, RuleText.resolve_eq_ok_iff] using h.strip
    rw [checkDelimiter_eq_ok_iff.2 h.start, checkDelimiter_eq_ok_iff.2 h.stop,
      checkDelimiter_eq_ok_iff.2 h.escapedStart, checkDelimiter_eq_ok_iff.2 h.escapedStop]
    simp only [bind, Except.bind]
    rw [if_neg, h₅, h₆]
    · obtain ⟨_⟩ := s
      simp [pure, Except.pure, ← h.path, ← h.blocks, ← h.keepDelimiters, ← h.replaceEscapes, ← h.storeSplit,
        ← h.ignoreEmpty, ← h.handler, ← h.reparse, ← h.handleAll]
    · rintro ⟨hp, hs⟩
      have := h.opens hp
      rw [Option.isSome_iff_ne_none] at this
      exact this (Option.isNone_iff_eq_none.1 hs)

/-- A spec that is made is the only one. -/
theorem Made.unique {f : Flat C n} {blocks : List (String × Fin n)} {s s' : Spec C n} (h : f.Made blocks s)
    (h' : f.Made blocks s') : s = s' :=
  Except.ok.inj ((spec_eq_ok_iff.2 h).symm.trans (spec_eq_ok_iff.2 h'))

/-- A definition that says the same about its block has the same spec, but for its path and its nested blocks. -/
theorem Made.transfer {m : Nat} {f : Flat C n} {f' : Flat C m} {blocks : List (String × Fin n)} {s : Spec C n}
    (h : f.Made blocks s) (ha : f'.attributes = f.attributes) (hp : f'.path ≠ rootPath → f.path ≠ rootPath)
    (blocks' : List (String × Fin m)) :
    f'.Made blocks' {
      path := f'.path, start := s.start, stop := s.stop, escapedStart := s.escapedStart, escapedStop := s.escapedStop,
      keepDelimiters := s.keepDelimiters, replaceEscapes := s.replaceEscapes, split := s.split,
      storeSplit := s.storeSplit, strip := s.strip, ignoreEmpty := s.ignoreEmpty, blocks := blocks',
      handler := s.handler, reparse := s.reparse, handleAll := s.handleAll } := by
  obtain ⟨_, hstart, hstop, hescapedStart, hescapedStop, hkeep, hreplace, hsplit, hstore, hstrip, hignore, _, hhandler,
    hreparse, hall, hopens⟩ := h
  rw [← ha] at hstart hstop hescapedStart hescapedStop hkeep hreplace hsplit hstore hstrip hignore hhandler hreparse hall
  exact ⟨rfl, hstart, hstop, hescapedStart, hescapedStop, hkeep, hreplace, hsplit, hstore, hstrip, hignore, rfl, hhandler,
    hreparse, hall, fun h => hopens (hp h)⟩

/-- What is wrong with a block is reported, the first thing first. -/
theorem spec_eq_error_iff {f : Flat C n} {blocks : List (String × Fin n)} {fault : GrammarError} :
    f.spec blocks = .error fault ↔ (f.attributes.faults f.path).head? = some fault := by
  have hdelimiter : ∀ field s, FailsWith (checkDelimiter field f.path s) (delimiterFaults field f.path s) := by
    intro field s e
    rw [checkDelimiter_eq_error_iff, delimiterFaults]
    split <;> simp [*, eq_comm]
  have hrule : ∀ field r, FailsWith (RuleText.resolve field f.path r) (r.fault? field f.path).toList := by
    intro field r e
    rw [RuleText.resolve_eq_error_iff]
    cases r.fault? field f.path <;> simp
  suffices FailsWith (f.spec blocks) (f.attributes.faults f.path) from this fault
  unfold spec Attributes.faults
  simp only [List.append_assoc]
  refine (hdelimiter _ _).bind fun start hstart => ?_
  refine (hdelimiter _ _).bind fun stop _ => ?_
  refine (hdelimiter _ _).bind fun _ _ => ?_
  refine (hdelimiter _ _).bind fun _ _ => ?_
  have hnone : start.isNone ↔ f.attributes.start = none := by
    rw [← checkDelimiter_eq_ok_iff.1 hstart]
    simp
  simp only [hnone]
  split
  · exact (failsWith_error _).bind fun _ h => by cases h
  · refine (failsWith_option_mapM (hrule "split") _).bind fun split _ => ?_
    exact (failsWith_list_mapM (hrule "strip") _).of_ok

/-- Nothing is wrong with a block when its spec is made. -/
theorem exists_spec_iff {f : Flat C n} {blocks : List (String × Fin n)} :
    (∃ s, f.spec blocks = .ok s) ↔ f.attributes.faults f.path = [] := by
  constructor
  · rintro ⟨s, hs⟩
    rw [← List.head?_eq_none_iff, Option.eq_none_iff_forall_ne_some]
    intro fault hf
    rw [spec_eq_error_iff.2 hf] at hs
    cases hs
  · intro hn
    refine exists_eq_ok fun fault hf => ?_
    rw [spec_eq_error_iff, hn] at hf
    cases hf

end Flat

/-! ### The specs of a grammar -/

/-- The specs of a grammar say what the definitions in their slots do, and have the nested blocks that are found for
these. -/
theorem Definition.specs_of_resolve {C : Type} {d : Definition C} {g : Grammar C} (hg : d.resolve = .ok g) :
    ∃ specs, g = ⟨d.size, d.size_pos, specs⟩ ∧
      ∀ slot, d.index.nestedBlocks (List.finRange d.size) slot = .ok (specs.get slot).blocks ∧
        (d.index.flat slot).Made (specs.get slot).blocks (specs.get slot) := by
  obtain ⟨-, -, blocks, specs, hb, hs, rfl⟩ := resolve_eq_ok hg
  refine ⟨specs, rfl, fun slot => ?_⟩
  have hmade : (d.index.flat slot).Made blocks[slot] (specs.get slot) := Flat.spec_eq_ok_iff.1 (hs slot slot.2)
  rw [hmade.blocks]
  exact ⟨by simpa using vector_mapM_eq_ok hb slot slot.2, hmade⟩

end Delimited
