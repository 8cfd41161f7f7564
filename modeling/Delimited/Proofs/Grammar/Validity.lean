import Mathlib
import Delimited.Proofs.Grammar.Block
import Delimited.Proofs.Grammar.Resolved
import Delimited.Proofs.Grammar.Sharing

/-!
# Valid definitions

A definition resolves just when it is valid (`Definition.Valid`): all references lead to definitions, no definition comes
back to itself by shared nested blocks, and nothing is wrong with what is said about the blocks. Of a definition that
is not valid one fault is reported (`Definition.Reports`). Faults are looked for in three rounds: at the root, in the
nested blocks of each definition, and in what is said about each block; in the second and the third round the first
slot with a fault counts.
-/

namespace Delimited

open Relation

variable {C : Type}

/-- The delimiters of a block. -/
def Attributes.delimiters {H : Type} (a : Attributes H) : List (Option String) :=
  [a.start, a.stop, a.escapedStart, a.escapedStop]

/-- The rules of a block. -/
def Attributes.rules {H : Type} (a : Attributes H) : List RuleText := a.split.toList ++ a.strip

namespace Definition

/-- Nothing is wrong with a definition. -/
structure Valid (d : Definition C) : Prop where
  noStart : d.attributes.start = none
  noStop : d.attributes.stop = none
  referencesLead : ∀ path target, d.Refers path target → ∃ k, d.Leads target k
  ownersLead : ∀ k source e path owner, d.At k source e → e.shared = some path → Owner path owner → ∃ l, d.Leads owner l
  noCircle : ∀ k, ¬ TransGen d.Shares k k
  nestedStart : ∀ k p e, d.At k p e → 0 < k → e.attributes.start ≠ none
  delimiters : ∀ k p e, d.At k p e → ∀ s ∈ e.attributes.delimiters, s ≠ some ""
  literals : ∀ k p e, d.At k p e → ∀ r ∈ e.attributes.rules, r ≠ .literal ""
  patterns : ∀ k p e, d.At k p e → ∀ source, .pattern source ∈ e.attributes.rules → ∃ p, Pattern.ofSource source = .ok p

/-- What is reported about a definition that is not valid. -/
inductive Reports (d : Definition C) : GrammarError → Prop
  | rootStart (h : d.attributes.start ≠ none) : Reports d (.rootDelimiter "start")
  | rootStop (hstart : d.attributes.start = none) (h : d.attributes.stop ≠ none) : Reports d (.rootDelimiter "stop")
  | nesting {k : Fin d.size} {fault : GrammarError} (hstart : d.attributes.start = none)
      (hstop : d.attributes.stop = none) (hfirst : ∀ j < k, ∀ fault, ¬ d.NestingFault j fault)
      (h : d.NestingFault k fault) : Reports d fault
  | block {k : Nat} {p : String} {e : Definition C} {fault : GrammarError} (hstart : d.attributes.start = none)
      (hstop : d.attributes.stop = none) (hnesting : ∀ j fault, ¬ d.NestingFault j fault)
      (hfirst : ∀ j < k, ∀ p e, d.At j p e → e.attributes.faults p = []) (hk : d.At k p e)
      (h : (e.attributes.faults p).head? = some fault) : Reports d fault

variable {d : Definition C}

/-! ### Nested blocks -/

private theorem mem_ownReferences {k : Fin d.size} {path source : String} :
    (path, source) ∈ d.ownReferences k ↔ ∃ e name, d.At k source e ∧ (name, .ref path) ∈ e.entries := by
  obtain ⟨p, e, hk⟩ := exists_at k.2
  have href : ∀ r ∈ d.ownReferences k, ∃ name, (name, .ref r.1) ∈ e.entries ∧ r.2 = p := by
    intro r hr
    rw [ownReferences, hk] at hr
    obtain ⟨⟨name, e' | target⟩, hm, hr⟩ := List.mem_filterMap.1 hr
    · cases hr
    · obtain rfl := Option.some.inj hr
      exact ⟨name, hm, rfl⟩
  constructor
  · intro h
    obtain ⟨name, hm, rfl⟩ := href _ h
    exact ⟨e, name, hk, hm⟩
  · rintro ⟨e', name, hk', hm⟩
    obtain ⟨rfl, rfl⟩ := hk.eq_of_slot hk'
    rw [ownReferences, hk]
    exact List.mem_filterMap.2 ⟨_, hm, rfl⟩

private theorem Walk.reflTransGen {k l : Fin d.size} {passed : List (Fin d.size)} (hw : d.Walk k passed l) :
    ReflTransGen d.Shares k l := by
  induction hw with
  | refl => exact .refl
  | step hs _ _ ih => exact ih.head hs

private theorem Walk.transGen_of_mem {k l m : Fin d.size} {passed : List (Fin d.size)} (hw : d.Walk k passed l)
    (hm : m ∈ passed) : TransGen d.Shares m l := by
  induction hw with
  | refl => cases hm
  | step hs _ hw ih =>
    rcases List.mem_cons.1 hm with rfl | hm
    · exact TransGen.head' hs hw.reflTransGen
    · exact ih hm

private theorem Walk.start_mem {k l : Fin d.size} {passed : List (Fin d.size)} (hw : d.Walk k passed l) :
    k ∈ l :: passed.reverse := by
  cases hw with
  | refl => simp
  | step => simp

section

variable (hd : d.WellNamed)

include hd

/-- A definition shares the blocks of one other definition only. -/
theorem Shares.unique {k l l' : Fin d.size} (h : d.Shares k l) (h' : d.Shares k l') : l = l' := by
  obtain ⟨source, e, path, owner, hk, hs, ho, hl⟩ := h
  obtain ⟨source', e', path', owner', hk', hs', ho', hl'⟩ := h'
  obtain ⟨rfl, rfl⟩ := hk.eq_of_slot hk'
  obtain rfl := Option.some.inj (hs.symm.trans hs')
  obtain rfl := (ownerPath_eq_iff.2 ho).symm.trans (ownerPath_eq_iff.2 ho')
  exact Fin.ext (hl.unique hd hl')

/-- A walk that starts on a circle stays on it. -/
theorem Walk.circle {k l : Fin d.size} {passed : List (Fin d.size)} (hw : d.Walk k passed l)
    (hk : TransGen d.Shares k k) : TransGen d.Shares l l := by
  induction hw with
  | refl => exact hk
  | step hs _ _ ih =>
    obtain ⟨m, hm, hmk⟩ := TransGen.head'_iff.1 hk
    obtain rfl := hs.unique hd hm
    exact ih (TransGen.tail' hmk hs)

/-- At the end of a walk all references on it lead to definitions, unless something is wrong with nested blocks. -/
theorem Walk.leads_of_mem {k l : Fin d.size} {passed : List (Fin d.size)} {source : String} {e : Definition C}
    (hw : d.Walk k passed l) (hl : d.At l source e) (hs : e.shared = none) (h : ∀ fault, ¬ d.NestingFault k fault)
    {r : String × String} (hr : r ∈ (l :: passed.reverse).flatMap d.ownReferences) : ∃ m, d.Leads r.1 m := by
  cases hx : ((l :: passed.reverse).flatMap d.ownReferences).mapM fun r => d.index.lookup r.1 r.2 with
  | ok slots =>
    obtain ⟨i, hi, rfl⟩ := List.mem_iff_getElem.1 hr
    have hlook := (list_mapM_eq_ok hx).2 i hi (by rw [(list_mapM_eq_ok hx).1]; exact hi)
    exact ⟨_, (lookup_eq_ok_iff hd).1 hlook⟩
  | error fault =>
    obtain ⟨before, r, after, hsplit, hb, hf⟩ := list_mapM_eq_error_iff.1 hx
    refine absurd (.entry hw hl hs hsplit ?_ ((lookup_eq_error_iff hd).1 hf)) (h fault)
    intro r hr
    obtain ⟨j, hj⟩ := hb r hr
    exact ⟨j, (lookup_eq_ok_iff hd).1 hj⟩

section

variable (h : ∀ k fault, ¬ d.NestingFault k fault)

include h

/-- Every shared path leads to a definition, unless something is wrong with nested blocks. -/
private theorem exists_leads_of_shared {k : Nat} {source path owner : String} {e : Definition C} (hk : d.At k source e)
    (hs : e.shared = some path) (ho : Owner path owner) : ∃ l, d.Leads owner l := by
  by_contra hl
  obtain ⟨fault, hf⟩ := exists_fault hd source hl
  exact h ⟨k, hk.lt⟩ fault (.shared (.refl _) hk hs ho hf)

/-- Every walk can be taken on to a definition that shares with none, unless something is wrong with nested blocks. -/
private theorem exists_walk_to_end (k : Fin d.size) :
    ∃ passed l source e, d.Walk k passed l ∧ d.At l source e ∧ e.shared = none := by
  obtain ⟨passed, l, hw, hend⟩ := d.exists_end k
  obtain ⟨source, e, hl⟩ := exists_at l.2
  cases hs : e.shared with
  | none => exact ⟨passed, l, source, e, hw, hl, hs⟩
  | some path =>
    rcases hend with hno | hm
    · obtain ⟨owner, ho⟩ : ∃ owner, Owner path owner := ⟨_, ownerPath_eq_iff.1 rfl⟩
      obtain ⟨m, hm⟩ := exists_leads_of_shared hd h hl hs ho
      exact absurd ⟨source, e, path, owner, hl, hs, ho, hm⟩ (hno ⟨m, hm.lt⟩)
    · exact absurd (.circle hw hm hl hs) (h k _)

/-- Every reference leads to a definition, unless something is wrong with nested blocks. -/
private theorem exists_leads_of_refers {path target : String} (hr : d.Refers path target) : ∃ k, d.Leads target k := by
  obtain ⟨k, parent, e, name, hk, hm, rfl⟩ := hr
  obtain ⟨passed, l, source, e', hw, hl, hs⟩ := exists_walk_to_end hd h ⟨k, hk.lt⟩
  have hmem : (target, parent) ∈ (l :: passed.reverse).flatMap d.ownReferences :=
    List.mem_flatMap.2 ⟨_, hw.start_mem, mem_ownReferences.2 ⟨e, name, hk, hm⟩⟩
  exact hw.leads_of_mem hd hl hs (h _) hmem

/-- No definition comes back to itself by sharing, unless something is wrong with nested blocks. -/
private theorem not_transGen_shares (k : Fin d.size) : ¬ TransGen d.Shares k k := by
  intro hk
  obtain ⟨passed, l, source, e, hw, hl, hs⟩ := exists_walk_to_end hd h k
  obtain ⟨m, ⟨source', e', path, owner, hl', hs', -, -⟩, -⟩ := TransGen.head'_iff.1 (hw.circle hd hk)
  obtain ⟨rfl, rfl⟩ := hl.eq_of_slot hl'
  rw [hs] at hs'
  cases hs'

end

/-- Nothing is wrong with nested blocks when all references lead to definitions and none come back by sharing. -/
theorem no_nestingFault_iff :
    (∀ k fault, ¬ d.NestingFault k fault) ↔
      (∀ path target, d.Refers path target → ∃ k, d.Leads target k) ∧
        (∀ k source e path owner, d.At k source e → e.shared = some path → Owner path owner → ∃ l, d.Leads owner l) ∧
          ∀ k, ¬ TransGen d.Shares k k := by
  constructor
  · intro h
    refine ⟨fun path target hr => exists_leads_of_refers hd h hr, ?_, not_transGen_shares hd h⟩
    exact fun k source e path owner hk hs ho => exists_leads_of_shared hd h hk hs ho
  · rintro ⟨hrefs, howners, hcircle⟩ k fault (⟨hw, hl, hs, ho, hf⟩ | ⟨hw, hm, hl, hs⟩ | ⟨hw, hl, hs, hr, hb, hf⟩)
    · obtain ⟨m, hm⟩ := howners _ _ _ _ _ hl hs ho
      exact hm.not_fault hd hf
    · exact hcircle _ (hw.transGen_of_mem hm)
    · obtain ⟨m, -, hm⟩ := List.mem_flatMap.1 (hr ▸ List.mem_append_right _ List.mem_cons_self)
      obtain ⟨e, name, hm, hmem⟩ := mem_ownReferences.1 hm
      obtain ⟨j, hj⟩ := hrefs _ _ ⟨m, _, e, name, hm, hmem, rfl⟩
      exact hj.not_fault hd hf

end

/-! ### Blocks -/

private theorem delimiterFaults_eq_nil_iff {field block : String} {s : Option String} :
    delimiterFaults field block s = [] ↔ s ≠ some "" := by
  simp [delimiterFaults]

private theorem fault?_eq_none_iff {field block : String} {r : RuleText} :
    r.fault? field block = none ↔
      r ≠ .literal "" ∧ ∀ source, r = .pattern source → ∃ p, Pattern.ofSource source = .ok p := by
  cases r with
  | literal s => simp [RuleText.fault?]
  | pattern source => cases h : Pattern.ofSource source <;> simp [RuleText.fault?, h]

/-- Nothing is wrong with what is said about a block when it has a start unless it is the root, no text is empty, and the
patterns can be read. -/
theorem faults_eq_nil_iff {H : Type} {a : Attributes H} {path : String} :
    a.faults path = [] ↔
      (path ≠ rootPath → a.start ≠ none) ∧ (∀ s ∈ a.delimiters, s ≠ some "") ∧ (∀ r ∈ a.rules, r ≠ .literal "") ∧
        ∀ source, .pattern source ∈ a.rules → ∃ p, Pattern.ofSource source = .ok p := by
  have hrules : ((a.split.bind (RuleText.fault? "split" path)).toList = [] ∧
      a.strip.filterMap (RuleText.fault? "strip" path) = []) ↔
      ∀ r ∈ a.rules, r ≠ .literal "" ∧ ∀ source, r = .pattern source → ∃ p, Pattern.ofSource source = .ok p := by
    rw [Attributes.rules, List.forall_mem_append, List.filterMap_eq_nil_iff]
    refine and_congr ?_ (forall₂_congr fun r _ => fault?_eq_none_iff)
    cases a.split <;> simp [fault?_eq_none_iff]
  have hdelimiters : (∀ s ∈ a.delimiters, s ≠ some "") ↔
      a.start ≠ some "" ∧ a.stop ≠ some "" ∧ a.escapedStart ≠ some "" ∧ a.escapedStop ≠ some "" := by
    simp [Attributes.delimiters]
  unfold Attributes.faults
  simp only [List.append_eq_nil_iff, delimiterFaults_eq_nil_iff, and_assoc, hrules, hdelimiters]
  constructor
  · rintro ⟨h₁, h₂, h₃, h₄, hstart, hr⟩
    refine ⟨?_, h₁, h₂, h₃, h₄, fun r hmem => (hr r hmem).1, fun source hmem => (hr _ hmem).2 source rfl⟩
    intro hp hs
    rw [if_pos ⟨hp, hs⟩] at hstart
    cases hstart
  · rintro ⟨hstart, h₁, h₂, h₃, h₄, hl, hp⟩
    refine ⟨h₁, h₂, h₃, h₄, if_neg fun h => hstart h.1 h.2, fun r hmem => ⟨hl r hmem, ?_⟩⟩
    rintro source rfl
    exact hp source hmem

/-! ### Resolution -/

section

variable (hd : d.WellNamed)

include hd

/-- The nested blocks cannot be found when something is wrong with them, and the first slot counts. -/
private theorem nestedBlocks_error_iff {fault : GrammarError} :
    d.nestedBlocks = .error fault ↔
      ∃ k, d.NestingFault k fault ∧ ∀ j < k, ∀ fault, ¬ d.NestingFault j fault := by
  have hok : ∀ k : Fin d.size, (∃ blocks, d.index.nestedBlocks (List.finRange d.size) k = .ok blocks) ↔
      ∀ fault, ¬ d.NestingFault k fault := by
    intro k
    constructor
    · rintro ⟨blocks, hb⟩ fault hf
      rw [← nestedBlocks_eq_error_iff hd, hb] at hf
      cases hf
    · exact fun h => exists_eq_ok fun fault hf => h fault ((nestedBlocks_eq_error_iff hd).1 hf)
  unfold nestedBlocks
  dsimp only
  rw [vector_mapM_eq_error_iff]
  simp only [Vector.getElem_finRange, nestedBlocks_eq_error_iff hd, hok]
  constructor
  · rintro ⟨i, hi, hf, hfirst⟩
    exact ⟨⟨i, hi⟩, hf, fun j hj => hfirst j hj⟩
  · rintro ⟨k, hf, hfirst⟩
    exact ⟨k, k.2, hf, fun j hj => hfirst ⟨j, by omega⟩ hj⟩

omit hd in
private theorem spec_error_iff {k : Fin d.size} {p : String} {e : Definition C} (hk : d.At k p e)
    {blocks : List (String × Fin d.size)} {fault : GrammarError} :
    (d.index.flat k).spec blocks = .error fault ↔ (e.attributes.faults p).head? = some fault := by
  obtain ⟨_, hf⟩ := flat_at hk
  rw [Flat.spec_eq_error_iff, hf]

omit hd in
private theorem exists_spec_iff {k : Fin d.size} {p : String} {e : Definition C} (hk : d.At k p e)
    {blocks : List (String × Fin d.size)} :
    (∃ s, (d.index.flat k).spec blocks = .ok s) ↔ e.attributes.faults p = [] := by
  obtain ⟨_, hf⟩ := flat_at hk
  rw [Flat.exists_spec_iff, hf]

omit hd in
/-- The specs cannot be made when something is wrong with what is said about a block, and the first slot counts. -/
private theorem specs_error_iff {blocks : Fin d.size → List (String × Fin d.size)} {fault : GrammarError} :
    ((Vector.finRange d.size).mapM fun k => (d.index.flat k).spec (blocks k)) = .error fault ↔
      ∃ k p e, d.At k p e ∧ (e.attributes.faults p).head? = some fault ∧
        ∀ j < k, ∀ p e, d.At j p e → e.attributes.faults p = [] := by
  rw [vector_mapM_eq_error_iff]
  simp only [Vector.getElem_finRange]
  constructor
  · rintro ⟨i, hi, hf, hfirst⟩
    obtain ⟨p, e, hk⟩ := exists_at hi
    refine ⟨i, p, e, hk, (spec_error_iff (k := ⟨i, hi⟩) hk).1 hf, fun j hj p e hat => ?_⟩
    exact (exists_spec_iff (k := ⟨j, hat.lt⟩) hat).1 (hfirst j hj)
  · rintro ⟨i, p, e, hk, hf, hfirst⟩
    refine ⟨i, hk.lt, (spec_error_iff (k := ⟨i, hk.lt⟩) hk).2 hf, fun j hj => ?_⟩
    obtain ⟨p, e, hat⟩ := exists_at (d := d) (k := j) (by have := hk.lt; omega)
    exact (exists_spec_iff (k := ⟨j, hat.lt⟩) hat).2 (hfirst j hj p e hat)

/-- The nested blocks are found when nothing is wrong with them. -/
private theorem exists_nestedBlocks_iff :
    (∃ blocks, d.nestedBlocks = .ok blocks) ↔ ∀ k fault, ¬ d.NestingFault k fault := by
  constructor
  · rintro ⟨blocks, hb⟩ k fault hf
    have := vector_mapM_eq_ok hb k k.2
    simp [(nestedBlocks_eq_error_iff hd).2 hf] at this
  · intro h
    refine exists_eq_ok fun fault hf => ?_
    obtain ⟨k, hk, -⟩ := (nestedBlocks_error_iff hd).1 hf
    exact h k fault hk

/-- What is reported about a definition. -/
private theorem resolve_eq_error_iff {fault : GrammarError} : d.resolve = .error fault ↔ d.Reports fault := by
  unfold resolve
  dsimp only
  by_cases hstart : d.attributes.start = none
  · by_cases hstop : d.attributes.stop = none
    · simp only [hstart, hstop, Option.isSome_none, Bool.false_eq_true, if_false, bind_eq_error_iff,
        nestedBlocks_error_iff hd, specs_error_iff]
      constructor
      · rintro (⟨k, hf, hfirst⟩ | ⟨blocks, hb, ⟨k, p, e, hk, hf, hfirst⟩ | ⟨specs, -, hs⟩⟩)
        · exact .nesting hstart hstop hfirst hf
        · exact .block hstart hstop ((exists_nestedBlocks_iff hd).1 ⟨blocks, hb⟩) hfirst hk hf
        · cases hs
      · intro hr
        cases hr with
        | rootStart h => exact absurd hstart h
        | rootStop _ h => exact absurd hstop h
        | nesting _ _ hfirst hf => exact Or.inl ⟨_, hf, hfirst⟩
        | block _ _ hnesting hfirst hk hf =>
          obtain ⟨blocks, hb⟩ := (exists_nestedBlocks_iff hd).2 hnesting
          exact Or.inr ⟨blocks, hb, Or.inl ⟨_, _, _, hk, hf, hfirst⟩⟩
    · rw [if_neg (by simp [hstart]), if_pos (by simpa [Option.isSome_iff_ne_none] using hstop), throw_bind, Except.error.injEq]
      constructor
      · rintro rfl
        exact .rootStop hstart hstop
      · intro hr
        cases hr with
        | rootStart h => exact absurd hstart h
        | rootStop => rfl
        | nesting _ h => exact absurd h hstop
        | block _ h => exact absurd h hstop
  · rw [if_pos (by simpa [Option.isSome_iff_ne_none] using hstart), throw_bind, Except.error.injEq]
    constructor
    · rintro rfl
      exact .rootStart hstart
    · intro hr
      cases hr with
      | rootStart => rfl
      | rootStop h => exact absurd h hstart
      | nesting h => exact absurd h hstart
      | block h => exact absurd h hstart

/-- A definition is valid when there is nothing to report about it. -/
private theorem valid_iff : d.Valid ↔ ∀ fault, ¬ d.Reports fault := by
  constructor
  · intro hv fault hr
    have hnesting := (no_nestingFault_iff hd).2 ⟨hv.referencesLead, hv.ownersLead, hv.noCircle⟩
    cases hr with
    | rootStart h => exact h hv.noStart
    | rootStop _ h => exact h hv.noStop
    | nesting _ _ _ h => exact hnesting _ _ h
    | block _ _ _ _ hk h =>
      rw [faults_eq_nil_iff.2 ⟨fun hp => hv.nestedStart _ _ _ hk ?_, hv.delimiters _ _ _ hk, hv.literals _ _ _ hk,
        hv.patterns _ _ _ hk⟩] at h
      · cases h
      · rw [Ne, hk.path_eq_rootPath_iff] at hp
        omega
  · intro h
    have hstart : d.attributes.start = none := by
      by_contra hs
      exact h _ (.rootStart hs)
    have hstop : d.attributes.stop = none := by
      by_contra hs
      exact h _ (.rootStop hstart hs)
    obtain ⟨g, hg⟩ := exists_eq_ok fun fault hf => h fault ((resolve_eq_error_iff hd).1 hf)
    obtain ⟨-, -, blocks, specs, hb, hs, -⟩ := resolve_eq_ok hg
    obtain ⟨hrefs, howners, hcircle⟩ := (no_nestingFault_iff hd).1 ((exists_nestedBlocks_iff hd).1 ⟨blocks, hb⟩)
    have hblock : ∀ k p e, d.At k p e → e.attributes.faults p = [] := fun k p e hk =>
      (exists_spec_iff (k := ⟨k, hk.lt⟩) hk).1 ⟨_, hs k hk.lt⟩
    refine ⟨hstart, hstop, hrefs, howners, hcircle, ?_, ?_, ?_, ?_⟩
    · intro k p e hk hlt
      refine (faults_eq_nil_iff.1 (hblock k p e hk)).1 ?_
      rw [Ne, hk.path_eq_rootPath_iff]
      omega
    · exact fun k p e hk => (faults_eq_nil_iff.1 (hblock k p e hk)).2.1
    · exact fun k p e hk => (faults_eq_nil_iff.1 (hblock k p e hk)).2.2.1
    · exact fun k p e hk => (faults_eq_nil_iff.1 (hblock k p e hk)).2.2.2

/-- A definition resolves just when it is valid; otherwise there is one fault to report, and this is the error. -/
theorem resolve_iff :
    ((∃ g, d.resolve = .ok g) ↔ d.Valid) ∧ ∀ fault, d.resolve = .error fault ↔ d.Reports fault := by
  refine ⟨?_, fun fault => resolve_eq_error_iff hd⟩
  rw [valid_iff hd]
  constructor
  · rintro ⟨g, hg⟩ fault hf
    rw [(resolve_eq_error_iff hd).2 hf] at hg
    cases hg
  · exact fun h => exists_eq_ok fun fault hf => h fault ((resolve_eq_error_iff hd).1 hf)

end

/-- Two blocks, of which the first one shares nested blocks. -/
private def sharing (path : String) : Definition Unit :=
  .mk {} none [("a", .inline (.mk { start := some "(", stop := some ")" } (some path) [])),
    ("b", .inline (.mk { start := some "[", stop := some "]" } none [("c", .ref "/blocks/a")]))]

/-- Blocks may be shared with another definition, but not in a circle. -/
theorem resolve_iff_sharing :
    (sharing "/blocks/b/blocks").WellNamed ∧ (sharing "/blocks/b/blocks").Valid ∧
      (sharing "/blocks/a/blocks").WellNamed ∧
        ∀ fault, (sharing "/blocks/a/blocks").Reports fault ↔ fault = .referenceCycle "/blocks/a/blocks" := by
  have hb : (sharing "/blocks/b/blocks").WellNamed := of_decide_eq_true (by cbv)
  have ha : (sharing "/blocks/a/blocks").WellNamed := of_decide_eq_true (by cbv)
  have hok : (sharing "/blocks/b/blocks").resolvesTo (fun _ => true) = true := by cbv
  have herror : (sharing "/blocks/a/blocks").resolve = .error (.referenceCycle "/blocks/a/blocks") := by cbv
  obtain ⟨g, hg, -⟩ := exists_of_resolvesTo hok
  refine ⟨hb, (resolve_iff hb).1.1 ⟨g, hg⟩, ha, fun fault => ?_⟩
  rw [← (resolve_iff ha).2 fault, herror]
  simp [eq_comm]

end Definition

end Delimited
