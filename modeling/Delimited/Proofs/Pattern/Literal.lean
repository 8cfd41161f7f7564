import Delimited.Proofs.Pattern.Escaping
import Delimited.Rule

/-!
# Patterns that match one text

The program of a text reads its characters one after the other (`Code.Reads`), so at the start of a text it finds this text
and nothing else. The pattern of an escaped text matches what the text itself does when it stands as a rule
(`Rule.alike_ofText`): the same is consumed, and every capture gives the same text, whether there is such a capture or not.
-/

namespace Delimited.Pattern

/-- From an address on, the code reads these characters and accepts. -/
inductive Code.Reads (code : Code) : Nat → List Char → Prop
  | nil {a b : Nat} (hs : code[a]? = some (.save 1 b)) (ha : code[b]? = some .accept) (hne : a ≠ b) : Reads code a []
  | cons {a b : Nat} {c : Char} {cs : List Char} (h : code[a]? = some (.set (.ofChar c) b)) (hr : Reads code b cs) :
    Reads code a (c :: cs)

namespace Code.Reads

variable {code : Code} {a : Nat} {cs : List Char}

private theorem lt (h : Reads code a cs) : a < code.size := by
  cases h with
  | nil hs => exact (Array.getElem?_eq_some_iff.1 hs).1
  | cons h => exact (Array.getElem?_eq_some_iff.1 h).1

private theorem push (h : Reads code a cs) (i : Inst) : Reads (code.push i) a cs := by
  have hget : ∀ {a : Nat} {j : Inst}, code[a]? = some j → (code.push i)[a]? = some j := by
    intro a j hj
    have hlt := (Array.getElem?_eq_some_iff.1 hj).1
    rw [Array.getElem?_push, if_neg (Nat.ne_of_lt hlt), hj]
  induction h with
  | nil hs ha hne => exact .nil (hget hs) (hget ha) hne
  | cons h _ ih => exact .cons (hget h) ih

/-- A text is compiled to code that reads its characters. -/
theorem compile_text (h : Reads code a []) (cs : List Char) :
    Reads ((Node.text cs).compile a code).2 ((Node.text cs).compile a code).1 cs := by
  have hchain : ∀ cs, Reads ((Node.chain cs).compile a code).2 ((Node.chain cs).compile a code).1 cs := by
    intro cs
    induction cs with
    | nil => exact h
    | cons c cs ih => exact .cons (by simp [Node.chain, Node.compile, emit]) (ih.push _)
  rcases cs with _ | ⟨c, _ | ⟨c', cs⟩⟩
  · exact hchain []
  · exact hchain [c]
  · exact hchain (c :: c' :: cs)

end Code.Reads

namespace Program

variable {p : Program} {a : Nat} {cs : List Char} {places : Places}

/-- A single thread waits at a set. -/
theorem followAt_set {s : CharSet} {next : Nat} (h : p.code[a]? = some (.set s next)) (before after : Option Char)
    (place : Nat) : p.followAt before after place [(a, places)] = ([⟨s, next, places⟩], none) := by
  have hlt := (Array.getElem?_eq_some_iff.1 h).1
  unfold followAt
  rw [follow_of_unseen (by rw [Array.getElem?_replicate, if_pos hlt]), h]
  dsimp only
  rw [follow]

/-- Code that reads characters finds them at the start of a text, and nothing else. -/
theorem searchFrom_of_reads (ha : p.anchored = true) (h : Code.Reads p.code a cs) (before : Option Char) (place : Nat)
    (text : List Char) : p.searchFrom before place [(a, places)] none text =
      if cs.isPrefixOf text then some (places.setIfInBounds 1 (some (place + cs.length))) else none := by
  induction h generalizing before place text with
  | @nil a b hs hacc hne =>
    have hend : ∀ after, p.followAt before after place [(a, places)] =
        ([], some (places.setIfInBounds 1 (some place))) := by
      intro after
      have hlt := (Array.getElem?_eq_some_iff.1 hs).1
      have hlt' := (Array.getElem?_eq_some_iff.1 hacc).1
      unfold followAt
      rw [follow_of_unseen (by rw [Array.getElem?_replicate, if_pos hlt]), hs]
      dsimp only
      rw [follow_of_unseen, hacc]
      rw [Array.getElem?_setIfInBounds_ne hne, Array.getElem?_replicate, if_pos hlt']
    cases text with
    | nil => simp [searchFrom, hend]
    | cons c rest => simp [searchFrom, hend, ha, advance]
  | @cons a b c cs h _ ih =>
    cases text with
    | nil => simp [searchFrom, followAt_set h]
    | cons c' rest =>
      unfold searchFrom
      rw [followAt_set h]
      by_cases hc : c' = c
      · subst hc
        have hk : place + (cs.length + 1) = place + 1 + cs.length := by omega
        simp [advance, CharSet.ofChar, ha, ih, hk]
      · have hn : c'.toNat ≠ c.toNat := fun h => hc (Char.toNat_inj.1 h)
        simp [advance, CharSet.ofChar, ha, hn, Ne.symm hc]

/-- So does the program that begins with this code. -/
theorem search_of_reads {code : Code} {c : Char} (h : Code.Reads code a (c :: cs)) (slots : Nat) (text : List Char) :
    search ⟨code.push (.save 0 a), code.size, true, slots⟩ text =
      if (c :: cs).isPrefixOf text then
        some (((Array.replicate slots none).setIfInBounds 0 (some 0)).setIfInBounds 1 (some (cs.length + 1)))
      else none := by
  have hr := h.push (.save 0 a)
  have hfirst : ∀ after, followAt ⟨code.push (.save 0 a), code.size, true, slots⟩ none after 0
      [fresh ⟨code.push (.save 0 a), code.size, true, slots⟩] =
        followAt ⟨code.push (.save 0 a), code.size, true, slots⟩ none after 0
          [(a, (Array.replicate slots none).setIfInBounds 0 (some 0))] := by
    intro after
    have hne : code.size ≠ a := Nat.ne_of_gt h.lt
    cases hr with
    | cons hset _ =>
      rw [followAt_set (a := a) hset]
      unfold followAt fresh
      rw [follow_of_unseen (by simp)]
      simp only [Array.getElem?_push, if_true]
      rw [follow_of_unseen, hset]
      · dsimp only
        rw [follow]
      · rw [Array.getElem?_setIfInBounds_ne hne, Array.getElem?_replicate, if_pos (by simp; have := h.lt; omega)]
  have hs : search ⟨code.push (.save 0 a), code.size, true, slots⟩ text =
      searchFrom ⟨code.push (.save 0 a), code.size, true, slots⟩ none 0
        [(a, (Array.replicate slots none).setIfInBounds 0 (some 0))] none text := by
    unfold search
    cases text <;> unfold searchFrom <;> rw [hfirst]
  rw [hs, searchFrom_of_reads rfl hr]
  simp

end Program

/-! ### Matches -/

private theorem Node.numbered_text (cs : List Char) : (Node.text cs).Numbered := by
  have hchain : ∀ cs, (Node.chain cs).Numbered := by
    intro cs
    induction cs with
    | nil => trivial
    | cons c cs ih => exact ⟨trivial, ih⟩
  rcases cs with _ | ⟨c, _ | ⟨c', cs⟩⟩
  · trivial
  · trivial
  · exact hchain _

private theorem Node.captures_text (cs : List Char) : (Node.text cs).captures = 0 := by
  have hchain : ∀ cs, (Node.chain cs).captures = 0 := by
    intro cs
    induction cs with
    | nil => rfl
    | cons c cs ih => simp [chain, captures, ih]
  rcases cs with _ | ⟨c, _ | ⟨c', cs⟩⟩
  · rfl
  · rfl
  · exact hchain _

/-- The pattern of an escaped text finds this text at the start, and nothing else. -/
theorem find_ofText {text : String} (h : text ≠ "") (rest : List Char) :
    (ofText text).find rest =
      if text.toList.isPrefixOf rest then some ⟨text.toList, text.toList, []⟩ else none := by
  obtain ⟨c, cs, hcs⟩ := List.exists_cons_of_ne_nil (l := text.toList) (by simpa using h)
  have hreads : Code.Reads (Node.text text.toList).body.2 (Node.text text.toList).body.1 text.toList :=
    Code.Reads.compile_text (.nil rfl rfl (by decide)) text.toList
  have hsearch : (ofText text).program.search rest =
      if text.toList.isPrefixOf rest then some #[some 0, some text.toList.length] else none := by
    rw [ofText, Node.search_wrapped (Node.numbered_text _), Node.program_eq, Program.atStart, Node.captures_text]
    rw [hcs] at hreads ⊢
    exact Program.search_of_reads hreads 2 rest
  unfold find
  rw [hsearch]
  by_cases hp : text.toList.isPrefixOf rest
  · obtain ⟨after, rfl⟩ := List.isPrefixOf_iff_prefix.1 hp
    simp
  · simp [hp]

end Delimited.Pattern

namespace Delimited

open Pattern

/-! ### Rules -/

/-- Two matches cannot be told apart: the same is consumed, and every capture gives the same text, whether there is such a
capture or not. -/
structure RuleMatch.Alike (m m' : RuleMatch) : Prop where
  whole : m'.whole = m.whole
  group : ∀ k, m'.group k = m.group k

/-- In every text the rules have matches that cannot be told apart. -/
def Rule.Alike (r r' : Rule) : Prop :=
  ∀ rest, Option.Rel RuleMatch.Alike (r.matchStart? rest) (r'.matchStart? rest)

/-- A text that stands as a rule matches what the pattern of the escaped text does. -/
theorem Rule.alike_ofText (d : Delimiter) : Rule.Alike (.literal d) (.pattern (ofText d.text)) := by
  intro rest
  have hd : d.text.toList = d.chars := String.toList_ofList
  unfold matchStart?
  simp only [find_ofText d.text_ne_empty, hd, Delimiter.starts]
  by_cases hp : d.chars.isPrefixOf rest = true
  · simp only [if_pos hp, Option.bind_eq_bind, Option.bind_some, RuleMatch.of?, dif_neg d.ne_nil]
    refine .some ⟨rfl, fun k => ?_⟩
    cases k <;> simp [RuleMatch.group]
  · simp only [Bool.not_eq_true] at hp
    simp only [hp, Bool.false_eq_true, if_false, Option.bind_eq_bind, Option.bind_none]
    exact .none

end Delimited
