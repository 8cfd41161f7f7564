import Delimited.Proofs.Pattern.Reading
import Delimited.Proofs.Pattern.Start

/-!
# Groups behind the anchor

An expression in a group behind the anchor means what it means by itself (`Expr.node?_wrapped`), and it matches what it
matches by itself at the start of a text (`Node.search_wrapped`): its program is the program of the expression with one more
instruction, which holds at the start.
-/

namespace Delimited.Pattern

/-! ### Expressions -/

/-- The expression in a group behind the anchor. -/
def Expr.wrapped (e : Expr) : Expr := .concat [.anchor .lineStart, .group (.plain []) e]

/-- The node in a group at the start of the text. -/
def Node.wrapped (n : Node) : Node := .seq (.look .textStart) (.seq (.group n) .empty)

/-- Behind the anchor and in a group an expression has the meaning that it has by itself. -/
theorem Expr.node?_wrapped (e : Expr) :
    Expr.node? {} e.wrapped = (Expr.node? {} e).map fun r => (r.1.wrapped, {}) := by
  have hanchor : Expr.node? {} (.anchor .lineStart) = some (.look .textStart, {}) := rfl
  have hgroup : Expr.node? {} (.group (.plain []) e) = (Expr.node? {} e).map fun r => (.group r.1, {}) := by
    rw [Expr.node?]
    show (Expr.node? {} e >>= _) = _
    cases Expr.node? {} e <;> rfl
  unfold Expr.wrapped
  rw [Expr.node?]
  simp only [Expr.seqNode?, hanchor, hgroup, Option.bind_eq_bind, Option.bind_some]
  cases Expr.node? {} e <;> rfl

/-! ### Programs that agree -/

/-- Below an address both programs have the same code, which does not lead beyond it. -/
structure Program.AgreeBelow (m : Nat) (p q : Program) : Prop where
  code : ∀ a < m, q.code[a]? = p.code[a]?
  targets : ∀ (a : Nat) (i : Inst), a < m → p.code[a]? = some i → ∀ b ∈ i.targets, b < m

section

variable {m : Nat} {p q : Program}

/-- An address is entered alike in both programs. -/
private theorem seen_congr {seen seen' : Array Bool} {a : Nat} (hlt : a < seen.size)
    (hs : ∀ b < m, seen'[b]? = seen[b]?) : ∀ b < m, (seen'.setIfInBounds a true)[b]? = (seen.set a true)[b]? := by
  intro b hb
  rw [Array.getElem?_setIfInBounds, Array.getElem?_set]
  split
  · rename_i h
    subst h
    have hsize : a < seen'.size := by
      have h := hs a hb
      rw [Array.getElem?_eq_getElem hlt] at h
      exact (Array.getElem?_eq_some_iff.1 h).1
    rw [if_pos hsize]
  · exact hs b hb

/-- Below the address threads are followed alike in both programs, and they wait below it. -/
private theorem follow_congr (h : Program.AgreeBelow m p q) (before after : Option Char) (place : Nat)
    {seen seen' : Array Bool} (hs : ∀ a < m, seen'[a]? = seen[a]?) {todo : List (Nat × Places)}
    (ht : ∀ t ∈ todo, t.1 < m) :
    q.follow before after place seen' todo = p.follow before after place seen todo ∧
      ∀ w ∈ (p.follow before after place seen todo).1, w.next < m := by
  have hunseen : ∀ {seen seen' : Array Bool} {a : Nat} (hlt : a < seen.size), seen[a] = false → a < m →
      (∀ b < m, seen'[b]? = seen[b]?) → seen'[a]? = some false := by
    intro seen seen' a hlt hf ha hs
    rw [hs a ha, Array.getElem?_eq_getElem hlt, hf]
  fun_induction p.follow before after place seen todo generalizing seen' with
  | case1 =>
    rw [Program.follow]
    exact ⟨rfl, by simp⟩
  | case2 seen a places todo hlt hf ih =>
    obtain ⟨ha, ht⟩ := List.forall_mem_cons.1 ht
    rw [Program.follow_of_seen (by rw [hs a ha, Array.getElem?_eq_getElem hlt, hf]; simp)]
    exact ih hs ht
  | case3 _ a places todo hlt hf _ seen hi =>
    rename_i ih
    obtain ⟨ha, ht⟩ := List.forall_mem_cons.1 ht
    rw [Program.follow_of_unseen (hunseen hlt hf ha hs), h.code a ha, hi]
    exact ih (seen_congr hlt hs) ht
  | case4 seen a places todo hlt hf _ hi =>
    obtain ⟨ha, ht⟩ := List.forall_mem_cons.1 ht
    rw [Program.follow_of_unseen (hunseen hlt hf ha hs), h.code a ha, hi]
    exact ⟨rfl, by simp⟩
  | case5 _ a places todo hlt hf _ seen s next hi waiting found hr =>
    rename_i ih
    obtain ⟨ha, ht⟩ := List.forall_mem_cons.1 ht
    obtain ⟨he, hw⟩ := ih (seen_congr hlt hs) ht
    rw [hr] at he hw
    rw [Program.follow_of_unseen (hunseen hlt hf ha hs), h.code a ha, hi]
    dsimp only
    rw [he]
    exact ⟨rfl, List.forall_mem_cons.2 ⟨h.targets a _ ha hi next (by simp [Inst.targets]), hw⟩⟩
  | case6 _ a places todo hlt hf _ seen l next hi hl =>
    rename_i ih
    obtain ⟨ha, ht⟩ := List.forall_mem_cons.1 ht
    rw [Program.follow_of_unseen (hunseen hlt hf ha hs), h.code a ha, hi]
    dsimp only
    rw [if_pos hl]
    exact ih (seen_congr hlt hs) (List.forall_mem_cons.2 ⟨h.targets a _ ha hi next (by simp [Inst.targets]), ht⟩)
  | case7 _ a places todo hlt hf _ seen l next hi hl =>
    rename_i ih
    obtain ⟨ha, ht⟩ := List.forall_mem_cons.1 ht
    rw [Program.follow_of_unseen (hunseen hlt hf ha hs), h.code a ha, hi]
    dsimp only
    rw [if_neg hl]
    exact ih (seen_congr hlt hs) ht
  | case8 _ a places todo hlt hf _ seen slot next hi =>
    rename_i ih
    obtain ⟨ha, ht⟩ := List.forall_mem_cons.1 ht
    rw [Program.follow_of_unseen (hunseen hlt hf ha hs), h.code a ha, hi]
    exact ih (seen_congr hlt hs) (List.forall_mem_cons.2 ⟨h.targets a _ ha hi next (by simp [Inst.targets]), ht⟩)
  | case9 _ a places todo hlt hf _ seen first second hi =>
    rename_i ih
    obtain ⟨ha, ht⟩ := List.forall_mem_cons.1 ht
    have htargets := h.targets a _ ha hi
    rw [Program.follow_of_unseen (hunseen hlt hf ha hs), h.code a ha, hi]
    exact ih (seen_congr hlt hs) (List.forall_mem_cons.2 ⟨htargets first (by simp [Inst.targets]),
      List.forall_mem_cons.2 ⟨htargets second (by simp [Inst.targets]), ht⟩⟩)
  | case10 seen a places todo hlt ih =>
    obtain ⟨ha, ht⟩ := List.forall_mem_cons.1 ht
    rw [Program.follow_of_seen (by rw [hs a ha, Array.getElem?_eq_none (by omega)]; simp)]
    exact ih hs ht

/-- Both programs search on alike once their threads wait alike below the address, if no thread begins anew. -/
private theorem searchFrom_congr (h : Program.AgreeBelow m p q) (hp : p.anchored = true) (hq : q.anchored = true)
    (hm : m ≤ p.code.size) (hm' : m ≤ q.code.size) (before : Option Char) (place : Nat)
    {todo todo' : List (Nat × Places)}
    (hf : ∀ after, q.followAt before after place todo' = p.followAt before after place todo ∧
      ∀ w ∈ (p.followAt before after place todo).1, w.next < m) (best : Option Places) (text : List Char) :
    q.searchFrom before place todo' best text = p.searchFrom before place todo best text := by
  have hseen : ∀ a < m, (Array.replicate q.code.size false)[a]? = (Array.replicate p.code.size false)[a]? := by
    intro a ha
    rw [Array.getElem?_replicate, Array.getElem?_replicate, if_pos (by omega), if_pos (by omega)]
  induction text generalizing before place todo todo' best with
  | nil =>
    unfold Program.searchFrom
    rw [(hf none).1]
  | cons c rest ih =>
    obtain ⟨he, hw⟩ := hf (some c)
    have hnext : ∀ t ∈ advance c (p.followAt before (some c) place todo).1, t.1 < m := by
      intro t ht
      obtain ⟨w, hmem, hc⟩ := List.mem_filterMap.1 ht
      split at hc
      · obtain rfl := Option.some.inj hc
        exact hw w hmem
      · cases hc
    unfold Program.searchFrom
    simp only [he, hp, hq, Bool.not_true, Bool.and_false, Bool.false_eq_true, if_false, List.append_nil]
    rw [ih _ _ fun after => follow_congr h _ after _ hseen hnext]

end

/-! ### The program in a group behind the anchor -/

/-- The program that begins a match at the start of the text only. -/
def Program.atStart (p : Program) : Program := { p with anchored := true }

namespace Node

variable {n : Node}

/-- The code of a node in front of the end of a match, and where it begins. -/
def body (n : Node) : Nat × Code := n.compile 1 #[.accept, .save 1 0]

theorem program_eq (n : Node) :
    n.program = ⟨n.body.2.push (.save 0 n.body.1), n.body.2.size, n.anchored, 2 * (n.captures + 1)⟩ := rfl

private theorem program_wrapped (n : Node) :
    n.wrapped.program = ⟨(n.body.2.push (.look .textStart n.body.1)).push (.save 0 n.body.2.size), n.body.2.size + 1, true,
      2 * (n.captures + 1)⟩ := by
  have hcaptures : n.wrapped.captures = n.captures := by simp [wrapped, captures]
  have hsize : (n.body.2.push (.look .textStart n.body.1)).size = n.body.2.size + 1 := Array.size_push ..
  rw [← hcaptures, ← hsize]
  rfl

private theorem built_body (hn : n.Numbered) : Built 2 n.body := by
  have hc : Closed #[.accept, .save 1 0] := ⟨by simp [Inst.targets], by simp [Inst.slot?]⟩
  exact built_compile hn hc (Nat.lt_succ_self 1)

/-- A node in a group at the start of the text matches what it matches there by itself. -/
theorem search_wrapped (hn : n.Numbered) (text : List Char) :
    n.wrapped.program.search text = n.program.atStart.search text := by
  have hb := built_body hn
  rw [program_wrapped, program_eq, Program.atStart]
  generalize n.body = r at hb ⊢
  obtain ⟨body, code⟩ := r
  have hlt : body < code.size := hb.lt
  have ha : Program.AgreeBelow code.size ⟨code.push (.save 0 body), code.size, true, 2 * (n.captures + 1)⟩
      ⟨(code.push (.look .textStart body)).push (.save 0 code.size), code.size + 1, true, 2 * (n.captures + 1)⟩ := by
    refine ⟨fun a ha => ?_, fun a i ha hi b hmem => ?_⟩
    · simp only [Array.getElem?_push, Array.size_push]
      rw [if_neg (by omega), if_neg (by omega), if_neg (by omega)]
    · rw [Array.getElem?_push, if_neg (by omega)] at hi
      exact hb.closed.targets i (Array.mem_of_getElem? hi) b hmem
  refine searchFrom_congr ha rfl rfl (by simp) (by simp; omega) none 0 (fun after => ?_) none text
  -- the first instructions of both programs lead to the code of the node
  unfold Program.followAt Program.fresh
  rw [Program.follow_of_unseen (by simp), Program.follow_of_unseen (by simp)]
  simp only [Array.getElem?_push, Array.size_push, if_true]
  have hunseen : ((Array.replicate (code.size + 1 + 1) false).setIfInBounds (code.size + 1) true)[code.size]? =
      some false := by
    rw [Array.getElem?_setIfInBounds, if_neg (by omega), Array.getElem?_replicate, if_pos (by omega)]
  rw [Program.follow_of_unseen hunseen]
  simp only [Array.getElem?_push, Array.size_push, if_true, if_neg (Nat.ne_of_lt (Nat.lt_succ_self code.size))]
  have hholds : Look.textStart.holds none after = true := rfl
  rw [if_pos hholds]
  refine follow_congr ha none after 0 (fun a h => ?_) (List.forall_mem_singleton.2 hlt)
  have h₁ : code.size + 1 ≠ a := by omega
  have h₂ : code.size ≠ a := by omega
  simp only [Array.getElem?_setIfInBounds, Array.getElem?_replicate, if_neg h₁, if_neg h₂]
  rw [if_pos (by omega), if_pos (by omega)]

end Node

end Delimited.Pattern
