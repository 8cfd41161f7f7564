import Delimited.Proofs.Grammar.Edit

/-!
# Another rule for a block

The rules of a block are its split and its strip rules. `Definition.withRule` puts another rule in the place of one of them:
the definition resolves to the grammar with the rule that this one stands for (`Definition.resolve_withRule`), and if
something is wrong with the rule, this is reported (`Definition.resolve_withRule_of_fault`).
-/

namespace Delimited

variable {C : Type} {n : Nat}

/-- A place for a rule: the split of a block, or one of its strip rules. -/
inductive RulePlace where
  | split
  | strip (index : Nat)
deriving DecidableEq, Repr

/-- The field that the place belongs to. -/
def RulePlace.field : RulePlace → String
  | .split => "split"
  | .strip _ => "strip"

/-- The rule at a place. -/
def Attributes.rule? {H : Type} (a : Attributes H) : RulePlace → Option RuleText
  | .split => a.split
  | .strip i => a.strip[i]?

/-- The attributes with another rule at a place. -/
def Attributes.withRule {H : Type} (r : RuleText) (a : Attributes H) : RulePlace → Attributes H
  | .split => { a with split := some r }
  | .strip i => { a with strip := a.strip.set i r }

/-- The rule at a place. -/
def Spec.rule? (s : Spec C n) : RulePlace → Option Rule
  | .split => s.split
  | .strip i => s.strip[i]?

/-- The spec with another rule at a place. -/
def Spec.withRule (r : Rule) (s : Spec C n) : RulePlace → Spec C n
  | .split => { s with split := some r }
  | .strip i => { s with strip := s.strip.set i r }

/-- The grammar with another rule at a place of a block. -/
abbrev Grammar.withRule (g : Grammar C) (slot : Fin g.size) (place : RulePlace) (r : Rule) : Grammar C :=
  ⟨g.size, g.size_pos, g.specs.set slot.1 ((g.spec slot).withRule r place) (g.slot_lt slot)⟩

/-- The definition with another rule at a place of the block in a slot. -/
def Definition.withRule (d : Definition C) (slot : Nat) (place : RulePlace) (r : RuleText) : Definition C :=
  d.edit (fun a => a.withRule r place) slot

/-! ### Blocks -/

/-- What is wrong with a block with another rule is what is wrong with this rule. -/
theorem Attributes.faults_withRule {H : Type} {a : Attributes H} {path : String} (h : a.faults path = [])
    {place : RulePlace} (hp : (a.rule? place).isSome) (r : RuleText) :
    (a.withRule r place).faults path = (r.fault? place.field path).toList := by
  rw [faults, List.append_eq_nil_iff, List.append_eq_nil_iff] at h
  obtain ⟨⟨hbefore, hsplit⟩, hstrip⟩ := h
  cases place with
  | split =>
    have hall : (a.withRule r .split).faults path = [] ++ (r.fault? "split" path).toList ++ [] :=
      congrArg₂ (· ++ ·) (congrArg (· ++ _) hbefore) hstrip
    simpa [RulePlace.field] using hall
  | strip i =>
    have hi : i < a.strip.length := by simpa [rule?] using hp
    have hnone := List.filterMap_eq_nil_iff.1 hstrip
    have htake : (a.strip.take i).filterMap (RuleText.fault? "strip" path) = [] :=
      List.filterMap_eq_nil_iff.2 fun r hr => hnone r (List.mem_of_mem_take hr)
    have hdrop : (a.strip.drop (i + 1)).filterMap (RuleText.fault? "strip" path) = [] :=
      List.filterMap_eq_nil_iff.2 fun r hr => hnone r (List.mem_of_mem_drop hr)
    have hset : (a.strip.set i r).filterMap (RuleText.fault? "strip" path) = (r.fault? "strip" path).toList := by
      rw [List.set_eq_take_append_cons_drop, if_pos hi, List.filterMap_append, List.filterMap_cons, htake, hdrop]
      cases r.fault? "strip" path <;> rfl
    exact congrArg₂ (· ++ ·) (congrArg₂ (· ++ ·) hbefore hsplit) hset

private theorem forall₂_set {α β : Type} {R : α → β → Prop} {a : α} {b : β} (hab : R a b) {l : List α} {l' : List β}
    (h : List.Forall₂ R l l') (i : Nat) : List.Forall₂ R (l.set i a) (l'.set i b) := by
  induction h generalizing i with
  | nil => exact .nil
  | cons hxy h ih =>
    cases i with
    | zero => exact .cons hab h
    | succ i => exact .cons hxy (ih i)

/-- With another rule at a place the spec has the rule that this one stands for. -/
theorem Flat.Made.withRule {x : Flat C n} {blocks : List (String × Fin n)} {s : Spec C n} (h : x.Made blocks s)
    (place : RulePlace) {r : RuleText} {rule : Rule} (hr : r.Makes rule) :
    (x.edit fun a => a.withRule r place).Made blocks (s.withRule rule place) := by
  cases place with
  | split => exact { h with split := .some hr }
  | strip i => exact { h with strip := forall₂_set hr h.strip i }

/-- The spec has rules at the same places as the definition. -/
theorem Flat.Made.isSome_rule? {x : Flat C n} {blocks : List (String × Fin n)} {s : Spec C n} (h : x.Made blocks s)
    (place : RulePlace) : (x.attributes.rule? place).isSome = (s.rule? place).isSome := by
  cases place with
  | split =>
    have hsplit := h.split
    unfold Attributes.rule? Spec.rule?
    generalize x.attributes.split = r at hsplit ⊢
    generalize s.split = r' at hsplit ⊢
    cases hsplit <;> rfl
  | strip i =>
    show x.attributes.strip[i]?.isSome = s.strip[i]?.isSome
    rw [Bool.eq_iff_iff, isSome_getElem?, isSome_getElem?, h.strip.length_eq]

/-! ### Resolution -/

namespace Definition

variable {d e : Definition C} {g : Grammar C}

/-- With another rule at a place a definition resolves to the grammar with the rule that this one stands for. -/
theorem resolve_withRule (hg : d.resolve = .ok g) (slot : Fin g.size) (place : RulePlace) {r : RuleText} {rule : Rule}
    (hr : r.Makes rule) : (d.withRule slot place r).resolve = .ok (g.withRule slot place rule) :=
  resolve_edit (fun a => by cases place <;> rfl) (fun a => by cases place <;> rfl) hg slot fun _ hx =>
    hx.withRule place hr

/-- What is wrong with another rule is reported. -/
theorem resolve_withRule_of_fault (hg : d.resolve = .ok g) {slot : Nat} {path : String} (he : d.At slot path e)
    (place : RulePlace) (hp : (e.attributes.rule? place).isSome) {r : RuleText} {fault : GrammarError}
    (hr : r.fault? place.field path = some fault) : (d.withRule slot place r).resolve = .error fault := by
  obtain ⟨-, -, blocks, specs, -, hspecs, -⟩ := resolve_eq_ok hg
  obtain ⟨_, hflat⟩ := flat_at (k := ⟨slot, he.lt⟩) he
  have hfaults : e.attributes.faults path = [] := by
    have := Flat.exists_spec_iff.1 ⟨_, hspecs slot he.lt⟩
    rwa [hflat] at this
  refine resolve_edit_of_fault (fun a => by cases place <;> rfl) (fun a => by cases place <;> rfl) hg he ?_
  rw [Attributes.faults_withRule hfaults hp, hr]
  rfl

/-- A definition that is split by one rule, and has no blocks. -/
def splitBy (r : RuleText) : Definition Unit := .mk { split := some r } none []

theorem exists_resolve_splitBy : ∃ g, (splitBy (.literal "a")).resolve = .ok g := by
  have hok : (splitBy (.literal "a")).resolvesTo (fun _ => true) = true := by cbv
  obtain ⟨g, hg, -⟩ := exists_of_resolvesTo hok
  exact ⟨g, hg⟩

end Definition

end Delimited
