import Delimited.Proofs.Grammar.Index
import Mathlib.Logic.Relation

/-!
# Following references

From a path one follows references, each to the path that it names, in one of three ways: one comes to a definition
(`Leads`), or to a path that names nothing (`Strays`), or one comes back to a path that has been passed (`Circles`). No
two of these go together, since a path names one thing at most. `Index.lookup` tells which of them it is
(`lookup_eq_ok_iff`, `lookup_eq_error_iff`).
-/

namespace Delimited

open Relation

variable {C : Type}

namespace Definition

/-- The references that start at a path come to the definition in a slot. -/
inductive Leads (d : Definition C) : String → Nat → Prop
  | here {path : String} {k : Nat} {e : Definition C} (h : d.At k path e) : Leads d path k
  | next {path target : String} {k : Nat} (h : d.Refers path target) (hl : Leads d target k) : Leads d path k

/-- The references that start at a path come to a path that names nothing. -/
inductive Strays (d : Definition C) : String → Prop
  | here {path : String} (ha : ∀ k e, ¬ d.At k path e) (hr : ∀ target, ¬ d.Refers path target) : Strays d path
  | next {path target : String} (h : d.Refers path target) (hs : Strays d target) : Strays d path

/-- The references that start at a path come to a path that they come back to. -/
def Circles (d : Definition C) (path : String) : Prop := ∃ q, ReflTransGen d.Refers path q ∧ TransGen d.Refers q q

/-- What is reported about a path that stands in the definition `source` and does not lead to a definition. -/
inductive ReferenceFault (d : Definition C) (path source : String) : GrammarError → Prop
  | unresolved (h : d.Strays path) : ReferenceFault d path source (.unresolvedReference path source)
  | cycle (h : d.Circles path) : ReferenceFault d path source (.referenceCycle path)

variable {d : Definition C}

theorem Leads.lt {path : String} {k : Nat} (h : d.Leads path k) : k < d.size := by
  induction h with
  | here ha => exact ha.lt
  | next _ _ ih => exact ih

private theorem Circles.next {path target : String} (hc : d.Circles target) (h : d.Refers path target) :
    d.Circles path := by
  obtain ⟨q, hq, hc⟩ := hc
  exact ⟨q, hq.head h, hc⟩

/-! ### One way only -/

section

variable (hd : d.Unambiguous)

include hd

/-- A path leads to one slot only. -/
theorem Leads.unique {path : String} {k k' : Nat} (h : d.Leads path k) (h' : d.Leads path k') : k = k' := by
  induction h with
  | here ha =>
    cases h' with
    | here ha' => exact ha.unique hd ha'
    | next hr _ => exact absurd ha (not_at_of_refers hd hr)
  | next hr _ ih =>
    cases h' with
    | here ha => exact absurd ha (not_at_of_refers hd hr)
    | next hr' hl' => exact ih (hr.unique hd hr' ▸ hl')

theorem Leads.not_strays {path : String} {k : Nat} (h : d.Leads path k) : ¬ d.Strays path := by
  induction h with
  | here ha =>
    intro hs
    cases hs with
    | here hn _ => exact hn _ _ ha
    | next hr _ => exact not_at_of_refers hd hr ha
  | next hr _ ih =>
    intro hs
    cases hs with
    | here _ hn => exact hn _ hr
    | next hr' hs => exact ih (hr.unique hd hr' ▸ hs)

/-- References that come back go on to circle behind the first of them. -/
theorem Circles.of_next {path target : String} (hc : d.Circles path) (h : d.Refers path target) :
    d.Circles target := by
  obtain ⟨q, hq, hc⟩ := hc
  rcases hq.cases_head with rfl | ⟨r, hr, hq⟩
  · obtain ⟨r, hr, hrq⟩ := TransGen.head'_iff.1 hc
    obtain rfl := h.unique hd hr
    exact ⟨path, hrq, hc⟩
  · obtain rfl := h.unique hd hr
    exact ⟨q, hq, hc⟩

omit hd in
/-- References that come back go on from every path that they pass. -/
theorem Circles.exists_refers {path : String} (hc : d.Circles path) : ∃ target, d.Refers path target := by
  obtain ⟨q, hq, hc⟩ := hc
  rcases hq.cases_head with rfl | ⟨r, hr, -⟩
  · obtain ⟨r, hr, -⟩ := TransGen.head'_iff.1 hc
    exact ⟨r, hr⟩
  · exact ⟨r, hr⟩

private theorem Leads.not_circles {path : String} {k : Nat} (h : d.Leads path k) : ¬ d.Circles path := by
  induction h with
  | here ha =>
    intro hc
    obtain ⟨target, hr⟩ := hc.exists_refers
    exact not_at_of_refers hd hr ha
  | next hr _ ih => exact fun hc => ih (hc.of_next hd hr)

private theorem Strays.not_circles {path : String} (h : d.Strays path) : ¬ d.Circles path := by
  induction h with
  | here _ hn =>
    intro hc
    obtain ⟨target, hr⟩ := hc.exists_refers
    exact hn target hr
  | next hr _ ih => exact fun hc => ih (hc.of_next hd hr)

theorem Leads.not_fault {path source : String} {k : Nat} {fault : GrammarError} (h : d.Leads path k) :
    ¬ d.ReferenceFault path source fault := by
  rintro (hs | hc)
  · exact h.not_strays hd hs
  · exact h.not_circles hd hc

/-- One thing only is reported about a path. -/
theorem ReferenceFault.unique {path source : String} {fault fault' : GrammarError}
    (h : d.ReferenceFault path source fault) (h' : d.ReferenceFault path source fault') : fault = fault' := by
  rcases h with hs | hc <;> rcases h' with hs' | hc'
  · rfl
  · exact absurd hc' (hs.not_circles hd)
  · exact absurd hc (hs'.not_circles hd)
  · rfl

/-! ### Following a path -/

/-- What following a path comes to. The references that are no longer in use have been followed on the way. -/
private theorem follow_spec (error : GrammarError) (path : String) (unused : List (String × String)) (current : String)
    (hsub : ∀ r ∈ unused, r ∈ d.references rootPath)
    (hused : ∀ r ∈ d.references rootPath, r ∉ unused → TransGen d.Refers r.1 current) :
    match d.index.follow error path unused current with
    | .ok k => d.Leads current k
    | .error e => (e = error ∧ d.Strays current) ∨ (e = .referenceCycle path ∧ d.Circles current) := by
  fun_induction Index.follow (d.index) error path unused current with
  | case1 unused current k hk =>
    obtain ⟨e, hk⟩ := (slot?_eq_some_iff hd).1 hk
    exact .here hk
  | case2 unused current hk next hn _ ih =>
    have hn : unused.reverse.lookup current = some next := hn
    have hr : d.Refers current next := by
      obtain ⟨l, l', hl, -⟩ := List.lookup_eq_some_iff.1 hn
      exact mem_references.1 (hsub _ (by rw [← List.mem_reverse, hl]; simp))
    have ih := ih (fun r hr => hsub r (List.mem_filter.1 hr).1) ?_
    · generalize d.index.follow error path _ next = x at ih ⊢
      cases x with
      | ok k => exact .next hr ih
      | error e =>
        rcases ih with ⟨rfl, hs⟩ | ⟨rfl, hc⟩
        · exact Or.inl ⟨rfl, .next hr hs⟩
        · exact Or.inr ⟨rfl, hc.next hr⟩
    · intro r hmem hu
      by_cases hc : r.1 = current
      · rw [hc]
        exact .single hr
      · exact (hused r hmem fun hin => hu (List.mem_filter.2 ⟨hin, by simpa using hc⟩)).tail hr
  | case3 unused current hk hn hc =>
    -- the reference that the path names has been followed, so the path has come back
    have hn : unused.reverse.lookup current = none := hn
    obtain ⟨r, hmem, hrc⟩ : ∃ r ∈ d.references rootPath, r.1 = current := by simpa [index] using hc
    have hu : r ∉ unused := fun hin => by
      have := List.lookup_eq_none_iff.1 hn r (List.mem_reverse.2 hin)
      simp [hrc] at this
    exact Or.inr ⟨rfl, current, .refl, hrc ▸ hused r hmem hu⟩
  | case4 unused current hk hn hc =>
    refine Or.inl ⟨rfl, .here ?_ ?_⟩
    · intro k e ha
      rw [(slot?_eq_some_iff hd (k := ⟨k, ha.lt⟩)).2 ⟨e, ha⟩] at hk
      cases hk
    · intro target hr
      exact hc (by simpa [index] using ⟨_, mem_references.2 hr⟩)

/-- What looking a path up comes to. -/
private theorem lookup_spec (path source : String) :
    match d.index.lookup path source with
    | .ok k => d.Leads path k
    | .error fault => d.ReferenceFault path source fault := by
  have h := follow_spec hd (.unresolvedReference path source) path (d.references rootPath) path (fun _ hr => hr)
    fun _ hr hn => absurd hr hn
  have hl : d.index.lookup path source =
    d.index.follow (.unresolvedReference path source) path (d.references rootPath) path := rfl
  rw [hl]
  generalize d.index.follow _ _ _ _ = x at h ⊢
  cases x with
  | ok k => exact h
  | error fault =>
    rcases h with ⟨rfl, hs⟩ | ⟨rfl, hc⟩
    · exact .unresolved hs
    · exact .cycle hc

/-- A path is looked up with success when it leads to a definition, and this is what is found. -/
theorem lookup_eq_ok_iff {path source : String} {k : Fin d.size} :
    d.index.lookup path source = .ok k ↔ d.Leads path k := by
  have h := lookup_spec hd path source
  constructor
  · intro hk
    rwa [hk] at h
  · intro hk
    cases hx : d.index.lookup path source with
    | ok k' =>
      rw [hx] at h
      rw [Fin.ext (h.unique hd hk)]
    | error fault =>
      rw [hx] at h
      exact absurd h (hk.not_fault hd)

/-- What is reported about a path that is looked up in vain. -/
theorem lookup_eq_error_iff {path source : String} {fault : GrammarError} :
    d.index.lookup path source = .error fault ↔ d.ReferenceFault path source fault := by
  have h := lookup_spec hd path source
  constructor
  · intro hf
    rwa [hf] at h
  · intro hf
    cases hx : d.index.lookup path source with
    | ok k =>
      rw [hx] at h
      exact absurd hf (h.not_fault hd)
    | error fault' =>
      rw [hx] at h
      rw [h.unique hd hf]

/-- There is something to report about every path that does not lead to a definition. -/
theorem exists_fault {path : String} (source : String) (h : ¬ ∃ k, d.Leads path k) :
    ∃ fault, d.ReferenceFault path source fault := by
  cases hx : d.index.lookup path source with
  | ok k => exact absurd ⟨k, (lookup_eq_ok_iff hd).1 hx⟩ h
  | error fault => exact ⟨fault, (lookup_eq_error_iff hd).1 hx⟩

end

end Definition

end Delimited
