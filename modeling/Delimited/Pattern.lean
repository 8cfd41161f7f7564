import Delimited.Pattern.Reader
import Delimited.Pattern.Search
import Delimited.Pattern.Storage

/-!
# Patterns

A `Pattern` is a regular expression that is meant to match at the start of a text. Its source is put between `^(?:` and
`)` before it is read, which ties every branch of an alternation to the start. `Pattern.ofSource` gives the pattern
with a source, and `Pattern.find` the preferred match of what has been read in this way.
-/

namespace Delimited

/-- A regular expression, with the source that it was made from. -/
structure Pattern where
  source : String
  program : Pattern.Program

/-- A match: all text up to its end, the matched text, and the texts of the captures from the first one on; a capture
that took no part has none. -/
structure Pattern.Match where
  consumed : List Char
  text : List Char
  captures : List (Option (List Char))

namespace Pattern

/-- What can be wrong with the source of a pattern: it is no regular expression, or storing it takes too much. -/
inductive Fault where
  | malformed
  | tooLarge
deriving DecidableEq, Repr

/-- The text of a fault. What is malformed in a source is left to the reader of the text, who sees the source. -/
def Fault.text : Fault → String
  | .malformed => ""
  | .tooLarge => "Compiled regex exceeds size limit of " ++ toString storageLimit ++ " bytes."

/-- What is read for a source. -/
def anchoredSource (source : String) : List Char := ['^', '(', '?', ':'] ++ source.toList ++ [')']

/-- What a source means, unless it is malformed. -/
def node? (source : String) : Option Node := do
  let e ← Expr.read? (anchoredSource source)
  let (n, _) ← e.node? {}
  return n

/-- The pattern with this source. What it takes to store it is measured on its simplified form (`Node.form`), from whose
choices what all branches begin with has been taken out. It matches in the documented order of the source as written: of
the branches of a choice the first one is preferred that leads to a match. So `(?:a|ab)c|(?:a|ab)b` matches all of `abc`,
while `(?:a|ab)(?:c|b)`, its simplified form, prefers `ab`. -/
def ofSource (source : String) : Except Fault Pattern :=
  match node? source with
  | none => .error .malformed
  | some n => if n.fits then .ok ⟨source, n.program⟩ else .error .tooLarge

/-- The text between the places of a capture. -/
private def captured? (text : List Char) (places : Places) (index : Nat) : Option (List Char) := do
  let start ← (places[2 * index]?).join
  let stop ← (places[2 * index + 1]?).join
  return (text.take stop).drop start

/-- The preferred match in a text. -/
def find (p : Pattern) (text : List Char) : Option Match := do
  let places ← p.program.search text
  let start ← (places[0]?).join
  let stop ← (places[1]?).join
  return ⟨text.take stop, (text.take stop).drop start,
    (List.range (places.size / 2 - 1)).map fun k => captured? text places (k + 1)⟩

/-- What is consumed stands at the start of the text. -/
theorem consumed_prefix {p : Pattern} {text : List Char} {m : Match} (h : p.find text = some m) :
    m.consumed <+: text := by
  simp only [find, Option.bind_eq_bind, Option.bind_eq_some_iff, Option.pure_def, Option.some.injEq] at h
  obtain ⟨_, _, _, _, stop, _, rfl⟩ := h
  exact List.take_prefix stop text

/-- A match that begins with the text is all that is consumed. -/
theorem exists_places_of_find {p : Pattern} {text : List Char} {m : Match} (h : p.find text = some m) :
    ∃ places, p.program.search text = some places ∧ (places[0]? = some (some 0) → m.text = m.consumed) := by
  simp only [find, Option.bind_eq_bind, Option.bind_eq_some_iff, Option.pure_def, Option.some.injEq] at h
  obtain ⟨places, hp, start, h₀, stop, -, rfl⟩ := h
  refine ⟨places, hp, fun hz => ?_⟩
  rw [hz] at h₀
  obtain rfl : 0 = start := Option.some.inj h₀
  rfl

end Pattern

end Delimited
