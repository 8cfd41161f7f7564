import Delimited.Proofs.Grammar.Rules
import Delimited.Proofs.Pattern.Alone

/-!
# Accepted sources

A source is accepted in the place of a rule when it is a regular expression by itself, and it matches what it matches by
itself at the start of a text (`Definition.accepts_iff_isRegex`). This is so for all sources that close no group that they
have not opened, and in whose last line there is no comment. Others are taken for what they are in the wrapping
(`Definition.accepts_not_isRegex`).
-/

namespace Delimited.Definition

open Pattern

variable {C : Type}

/-- In the place of a rule a source is accepted if it is a regular expression by itself, and else it is reported. What is
accepted matches the source's own preferred match at the start of a text, unless this is empty, with the source's own
captures. -/
theorem accepts_iff_isRegex {d e : Definition C} {g : Grammar C} (hg : d.resolve = .ok g) (slot : Fin g.size)
    {path : String} (he : d.At slot path e) (place : RulePlace) (hp : (e.attributes.rule? place).isSome) {source : String}
    (hl : KeepsLimits source) (hu : ¬ ClosesUnopened source) (hc : ¬ EndsInComment source) :
    ((∃ g', (d.withRule slot place (.pattern source)).resolve = .ok g') ↔ IsRegex source) ∧
      (¬ IsRegex source →
        (d.withRule slot place (.pattern source)).resolve = .error (.invalidPattern source path .malformed)) ∧
      ∀ n, alone? source = some n → ∃ p,
        (d.withRule slot place (.pattern source)).resolve = .ok (g.withRule slot place (.pattern p)) ∧
          ∀ rest, (Rule.pattern p).matchStart? rest =
            (find ⟨source, n.program.atStart⟩ rest).bind fun m => RuleMatch.of? m.text (some m.text :: m.captures) := by
  have haccept : ∀ n, alone? source = some n → ∃ p,
      (d.withRule slot place (.pattern source)).resolve = .ok (g.withRule slot place (.pattern p)) ∧
        ∀ rest, (Rule.pattern p).matchStart? rest =
          (find ⟨source, n.program.atStart⟩ rest).bind fun m => RuleMatch.of? m.text (some m.text :: m.captures) := by
    intro n hn
    obtain ⟨hs, hnum⟩ := ofSource_of_alone hl hn hc
    exact ⟨_, resolve_withRule hg slot place (.pattern hs), Rule.matchStart?_wrapped hnum source⟩
  have hreject : ¬ IsRegex source →
      (d.withRule slot place (.pattern source)).resolve = .error (.invalidPattern source path .malformed) := by
    intro hn
    refine resolve_withRule_of_fault hg he place hp ?_
    rw [RuleText.fault?, ofSource_of_not_isRegex hu fun h => absurd h hn]
  refine ⟨⟨fun hg' => ?_, fun hn => ?_⟩, hreject, haccept⟩
  · by_contra hn
    obtain ⟨g', hg'⟩ := hg'
    rw [hreject hn] at hg'
    cases hg'
  · obtain ⟨n, hn⟩ := Option.isSome_iff_exists.1 hn
    obtain ⟨p, hs, -⟩ := haccept n hn
    exact ⟨_, hs⟩

/-- A source with branches and a capture. -/
theorem accepts_iff_isRegex_branches : IsRegex "(a)|b" ∧ ∃ (g : Grammar Unit) (n : Node) (p : Pattern),
    (splitBy (.pattern "(a)|b")).resolve = .ok (g.withRule g.rootSlot .split (.pattern p)) ∧
      alone? "(a)|b" = some n ∧ ∀ rest, (Rule.pattern p).matchStart? rest =
        (find ⟨"(a)|b", n.program.atStart⟩ rest).bind fun m => RuleMatch.of? m.text (some m.text :: m.captures) := by
  obtain ⟨g, hg⟩ := exists_resolve_splitBy
  have hregex : IsRegex "(a)|b" := by
    unfold IsRegex
    cbv
  have hl : KeepsLimits "(a)|b" := by
    unfold KeepsLimits
    cbv
  have hc : ¬ EndsInComment "(a)|b" := by
    rintro ⟨-, h⟩
    have hnone : (alone? "(a)|b)").isSome = false := by cbv
    exact absurd (h.symm.trans hnone) (by decide)
  obtain ⟨n, hn⟩ := Option.isSome_iff_exists.1 hregex
  obtain ⟨p, hr, hm⟩ := (accepts_iff_isRegex hg g.rootSlot (at_zero _) .split rfl hl
    (not_closesUnopened hregex) hc).2.2 n hn
  exact ⟨hregex, g, n, p, hr, hn, hm⟩

/-- In a comment there may be a parenthesis. -/
private theorem run_commented {s : List Char} (hs : s = [] ∨ s = [')']) :
    Reader.run {} ('(' :: '?' :: 'x' :: ')' :: 'a' :: '#' :: s) =
      some (.concat [.flags [⟨.verbose, true⟩], .literal ⟨'a', false⟩]) := by
  have hletter : skip true ('a' :: '#' :: s) = 'a' :: '#' :: s := by
    rcases hs with rfl | rfl <;> decide +kernel
  have hcomment : skip true ('#' :: s) = [] := by
    rcases hs with rfl | rfl <;> decide +kernel
  rw [Reader.run_construct (c := '(') rfl rfl rfl (tailOf_append ['?', 'x', ')'] _), Reader.run_literal hletter rfl,
    Reader.run_end hcomment]
  rfl

/-- The first source is no regular expression by itself, but it closes the group of the wrapping and is one in it. The
second source is a regular expression by itself, but the comment in it goes on over the end of the wrapping. -/
theorem accepts_not_isRegex :
    (¬ IsRegex "a)|(b" ∧ ∃ g, (splitBy (.pattern "a)|(b")).resolve = .ok g) ∧
      IsRegex "(?x)a#" ∧
        (splitBy (.pattern "(?x)a#")).resolve = .error (.invalidPattern "(?x)a#" rootPath .malformed) := by
  have hclosing : (alone? "a)|(b").isSome = false := by cbv
  have hresolves : (splitBy (.pattern "a)|(b")).resolvesTo (fun _ => true) = true := by cbv
  have hregex : IsRegex "(?x)a#" := isRegex_iff.2 ⟨_, run_commented (.inl rfl), rfl⟩
  have hcomment : EndsInComment "(?x)a#" := ⟨hregex, isRegex_iff.2 ⟨_, run_commented (.inr rfl), rfl⟩⟩
  refine ⟨⟨fun h => absurd (h.symm.trans hclosing) (by decide), ?_⟩, hregex, ?_⟩
  · obtain ⟨g, hg, -⟩ := exists_of_resolvesTo hresolves
    exact ⟨g, hg⟩
  · obtain ⟨g, hg⟩ := exists_resolve_splitBy
    refine resolve_withRule_of_fault hg (at_zero _) .split rfl ?_
    rw [RuleText.fault?, ofSource_of_not_isRegex (not_closesUnopened hregex) fun _ => hcomment]

end Delimited.Definition
