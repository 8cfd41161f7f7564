import Delimited.Delimiter
import Delimited.Pattern

/-!
# Rules

A rule says what splits a block's text, or what is left out of it: a literal text or a pattern. `Rule.matchStart?`
matches a rule at the start of a text. A match is never empty (`RuleMatch.ne_nil`), and what it consumes stands at
the start of the text (`whole_prefix`).
-/

namespace Delimited

/-- A rule as it is written in a definition. -/
inductive RuleText where
  | literal (text : String)
  | pattern (source : String)
deriving DecidableEq, Repr

/-- A rule that can be matched. -/
inductive Rule where
  | literal (d : Delimiter)
  | pattern (p : Pattern)

/-- A rule as it was written. -/
def Rule.written : Rule → RuleText
  | .literal d => .literal d.text
  | .pattern p => .pattern p.source

/-- What a rule has matched: all that is consumed, and the texts of the captures, from the match itself on. -/
structure RuleMatch where
  whole : List Char
  groups : List (Option (List Char))
  ne_nil : whole ≠ []

namespace RuleMatch

instance : DecidableEq RuleMatch := fun m m' =>
  decidable_of_iff (m.whole = m'.whole ∧ m.groups = m'.groups) (by cases m; cases m'; simp)

/-- The match of what is consumed, unless that is nothing. -/
def of? (whole : List Char) (groups : List (Option (List Char))) : Option RuleMatch :=
  if h : whole = [] then none else some ⟨whole, groups, h⟩

/-- The text of a capture. A capture that does not exist or took no part stands for all that is consumed. -/
def group (m : RuleMatch) (index : Nat) : List Char := (m.groups[index]?).join.getD m.whole

end RuleMatch

/-- Matches a rule at the start of a text. All that lies before the end of a pattern's match is consumed. -/
def Rule.matchStart? (rest : List Char) : Rule → Option RuleMatch
  | .literal d => if d.starts rest then RuleMatch.of? d.chars [] else none
  | .pattern p => do
    let m ← p.find rest
    RuleMatch.of? m.consumed (some m.text :: m.captures)

theorem RuleMatch.whole_of? {whole : List Char} {groups : List (Option (List Char))} {m : RuleMatch}
    (h : RuleMatch.of? whole groups = some m) : m.whole = whole := by
  unfold RuleMatch.of? at h
  split at h
  · exact absurd h (by simp)
  · rw [← Option.some.inj h]

/-- What a match consumes stands at the start of the text. -/
theorem Rule.whole_prefix {r : Rule} {rest : List Char} {m : RuleMatch} (h : r.matchStart? rest = some m) :
    m.whole <+: rest := by
  cases r with
  | literal d =>
    simp only [Rule.matchStart?] at h
    split at h
    · rw [RuleMatch.whole_of? h]; exact List.isPrefixOf_iff_prefix.1 ‹_›
    · exact absurd h (by simp)
  | pattern p =>
    simp only [Rule.matchStart?, Option.bind_eq_bind, Option.bind_eq_some_iff] at h
    obtain ⟨k, hk, h⟩ := h
    rw [RuleMatch.whole_of? h]
    exact Pattern.consumed_prefix hk

end Delimited
