import Delimited.Proofs.Grammar.Rules
import Delimited.Proofs.Grammar.WellFormed
import Delimited.Proofs.Pattern.Literal
import Delimited.Proofs.Scan.Translation

/-!
# Texts as patterns

In the place of a text that stands as a rule there may be the pattern of the escaped text. `Grammar.asPatterns` writes all
rules of a grammar as patterns. It makes moves that cannot be told from those of the grammar (`nextMove_asPatterns`), and so
both scan alike (`scan_asPatterns`). A grammar in which one text has become a pattern is, in the end, written as the same
patterns, so this holds for one rule, too (`Definition.literal_eq_escaped`). Only a text that is too long has no pattern
(`Definition.literal_ne_escaped`).
-/

namespace Delimited

variable {C : Type} {n : Nat}

/-- The rule as a pattern. -/
def Rule.asPattern : Rule → Rule
  | .literal d => .pattern (Pattern.ofText d.text)
  | .pattern p => .pattern p

private theorem Rule.alike_asPattern (r : Rule) : r.Alike r.asPattern := by
  cases r with
  | literal d => exact Rule.alike_ofText d
  | pattern p =>
    intro rest
    show Option.Rel RuleMatch.Alike ((Rule.pattern p).matchStart? rest) ((Rule.pattern p).matchStart? rest)
    cases (Rule.pattern p).matchStart? rest with
    | none => exact .none
    | some m => exact .some ⟨rfl, fun _ => rfl⟩

/-- The spec with all rules as patterns. -/
def Spec.asPatterns (s : Spec C n) : Spec C n :=
  { s with split := s.split.map Rule.asPattern, strip := s.strip.map Rule.asPattern }

/-- The grammar with all rules as patterns. -/
abbrev Grammar.asPatterns (g : Grammar C) : Grammar C := ⟨g.size, g.size_pos, g.specs.map Spec.asPatterns⟩

private theorem Grammar.spec_asPatterns (g : Grammar C) (k : Fin g.size) :
    g.asPatterns.spec k = (g.spec k).asPatterns :=
  Vector.getElem_map ..

/-- As patterns the rules are the same when a text has become a pattern before. -/
theorem Spec.asPatterns_withRule {s : Spec C n} {place : RulePlace} {r : Rule} (h : s.rule? place = some r) :
    (s.withRule r.asPattern place).asPatterns = s.asPatterns := by
  have hr : r.asPattern.asPattern = r.asPattern := by cases r <;> rfl
  cases place with
  | split =>
    have hs : s.split = some r := h
    simp only [asPatterns, withRule, hs, Option.map_some, hr]
  | strip i =>
    have hs : s.strip[i]? = some r := h
    obtain ⟨hi, rfl⟩ := List.getElem?_eq_some_iff.1 hs
    have hset : (s.strip.set i s.strip[i].asPattern).map Rule.asPattern = s.strip.map Rule.asPattern := by
      rw [List.map_set, hr, ← List.getElem_map Rule.asPattern (h := by simpa using hi), List.set_getElem_self]
    simp only [asPatterns, withRule, hset]

private theorem Grammar.asPatterns_withRule {g : Grammar C} {slot : Fin g.size} {place : RulePlace} {r : Rule}
    (h : (g.spec slot).rule? place = some r) :
    (g.withRule slot place r.asPattern).specs.map Spec.asPatterns = g.specs.map Spec.asPatterns := by
  ext k hk
  rw [Vector.getElem_map, Vector.getElem_map, Vector.getElem_set]
  split
  · rename_i hs
    subst hs
    exact Spec.asPatterns_withRule h
  · rfl

namespace Scan

/-! ### Moves -/

section

variable {α β : Type} {R : α → β → Prop}

private theorem rel_map {γ δ : Type} {S : γ → δ → Prop} {f : α → γ} {f' : β → δ} (hf : ∀ a b, R a b → S (f a) (f' b))
    {x : Option α} {y : Option β} (h : Option.Rel R x y) : Option.Rel S (x.map f) (y.map f') := by
  cases h with
  | some h => exact .some (hf _ _ h)
  | none => exact .none

private theorem rel_orElse {x x' : Option α} {y y' : Option β} (h : Option.Rel R x y) (h' : Option.Rel R x' y') :
    Option.Rel R (x <|> x') (y <|> y') := by
  cases h with
  | some h => exact .some h
  | none => exact h'

end

/-- The part that is kept is the same of matches that cannot be told apart. -/
theorem token?_alike {m m' : RuleMatch} (h : m.Alike m') (s : StoreSplit) : s.token? m' = s.token? m := by
  cases s with
  | no => rfl
  | whole => exact congrArg (fun t => some (String.ofList t)) h.whole
  | group k => exact congrArg (fun t => some (String.ofList t)) (h.group k)

private theorem splitMatch?_asPatterns (s : Spec C n) (rest : List Char) :
    Option.Rel (fun a b => b.1.whole = a.1.whole ∧ b.2 = a.2) (splitMatch? s rest) (splitMatch? s.asPatterns rest) := by
  unfold splitMatch? Spec.asPatterns
  cases s.split with
  | none => exact .none
  | some r =>
    have h := Rule.alike_asPattern r rest
    simp only [Option.map_some, Option.bind_eq_bind, Option.bind_some]
    generalize r.matchStart? rest = x at h ⊢
    generalize r.asPattern.matchStart? rest = y at h ⊢
    cases h with
    | none => exact .none
    | some h => exact .some ⟨h.whole, token?_alike h _⟩

private theorem stripMatch?_asPatterns (s : Spec C n) (rest : List Char) :
    Option.Rel (fun k k' => k'.whole = k.whole) (stripMatch? s rest) (stripMatch? s.asPatterns rest) := by
  unfold stripMatch? Spec.asPatterns
  dsimp only
  induction s.strip with
  | nil => exact .none
  | cons r rs ih =>
    have h := Rule.alike_asPattern r rest
    rw [List.map_cons, List.findSome?_cons, List.findSome?_cons]
    generalize r.matchStart? rest = x at h ⊢
    generalize r.asPattern.matchStart? rest = y at h ⊢
    cases h with
    | none => exact ih
    | some h => exact .some h.whole

/-- With all rules as patterns a block makes moves that cannot be told from those that it makes by itself. -/
theorem nextMove_asPatterns (g : Grammar C) (s : Spec C g.size) (rest : List Char) :
    (nextMove g s rest).Alike (nextMove g.asPatterns s.asPatterns rest) := by
  have hnested : ∀ k : Fin g.size, (g.asPatterns.spec k).start = (g.spec k).start ∧
      (g.asPatterns.spec k).escapedStart = (g.spec k).escapedStart ∧
      (g.asPatterns.spec k).replaceEscapes = (g.spec k).replaceEscapes := fun k => by
    rw [g.spec_asPatterns]
    exact ⟨rfl, rfl, rfl⟩
  have hmap : nextMove g.asPatterns s rest = (nextMove g s rest).map id :=
    nextMove_map (g := g) (h := g.asPatterns) id rfl rfl rfl rfl rfl rfl (List.map_id s.blocks).symm hnested rest
  rw [← Move.map_id (nextMove g s rest), ← hmap]
  -- in the grammar of patterns, both specs find the same delimiters
  have hrel : Option.Rel Move.Alike (recognise? g.asPatterns s rest) (recognise? g.asPatterns s.asPatterns rest) := by
    have hsame : ∀ x : Option (Move g.size), Option.Rel Move.Alike x x := by
      intro x
      cases x with
      | none => exact .none
      | some m => exact .some (.same m)
    unfold recognise?
    refine rel_orElse (hsame _) (rel_orElse (hsame _) (rel_orElse (hsame _) (rel_orElse (hsame _) (rel_orElse ?_ ?_))))
    · refine rel_map ?_ (splitMatch?_asPatterns s rest)
      rintro ⟨k, token⟩ ⟨k', token'⟩ ⟨hw, rfl⟩
      exact .split hw _
    · exact rel_map (fun _ _ hw => .strip hw) (stripMatch?_asPatterns s rest)
  unfold nextMove
  generalize recognise? g.asPatterns s rest = x at hrel ⊢
  generalize recognise? g.asPatterns s.asPatterns rest = y at hrel ⊢
  cases hrel with
  | none => exact .same _
  | some h => exact h

/-! ### Scans -/

/-- The grammar with all rules as patterns instead of the grammar. -/
def Translation.asPatterns (g : Grammar C) : Translation g g.asPatterns where
  slot := id
  spec := Spec.asPatterns
  keepDelimiters _ := rfl
  ignoreEmpty _ := rfl
  handler _ := rfl
  reparse _ := rfl
  handleAll _ := rfl
  spec_root := (g.spec_asPatterns g.rootSlot).symm
  spec_spec k := (g.spec_asPatterns k).symm
  nextMove s rest := by
    rw [Move.map_id]
    exact nextMove_asPatterns g s rest

/-- With all rules as patterns every text is scanned as before. -/
theorem scan_asPatterns (g : Grammar C) (o : Options) (text : String) (context : C) :
    scan g.asPatterns o text context = scan g o text context :=
  (Translation.asPatterns g).scan_eq o text context

section

variable {g : Grammar C} {slot : Fin g.size} {place : RulePlace} {r : Rule} (h : (g.spec slot).rule? place = some r)

include h

/-- When one rule has become a pattern, moves cannot be told from those before. -/
theorem nextMove_withRule (k : Fin g.size) (rest : List Char) :
    (nextMove g (g.spec k) rest).Alike
      (nextMove (g.withRule slot place r.asPattern) ((g.withRule slot place r.asPattern).spec k) rest) := by
  let move (specs : Vector (Spec C g.size) g.size) : Move g.size :=
    nextMove ⟨g.size, g.size_pos, specs⟩ ((⟨g.size, g.size_pos, specs⟩ : Grammar C).spec k) rest
  have hsame : move ((g.withRule slot place r.asPattern).specs.map Spec.asPatterns) = move (g.specs.map Spec.asPatterns) :=
    congrArg move (Grammar.asPatterns_withRule h)
  have hmove : ∀ specs, (move specs).Alike (move (specs.map Spec.asPatterns)) := by
    intro specs
    have hk := Grammar.spec_asPatterns (⟨g.size, g.size_pos, specs⟩ : Grammar C) k
    have := nextMove_asPatterns ⟨g.size, g.size_pos, specs⟩ ((⟨g.size, g.size_pos, specs⟩ : Grammar C).spec k) rest
    rwa [← hk] at this
  exact (hmove g.specs).trans (hsame ▸ (hmove _).symm)

/-- When one rule has become a pattern, every text is scanned as before. -/
theorem scan_withRule (o : Options) (text : String) (context : C) :
    scan (g.withRule slot place r.asPattern) o text context = scan g o text context := by
  have hsame : (g.withRule slot place r.asPattern).asPatterns = g.asPatterns :=
    congrArg (fun specs => (⟨g.size, g.size_pos, specs⟩ : Grammar C)) (Grammar.asPatterns_withRule h)
  rw [← scan_asPatterns, hsame, scan_asPatterns]

end

end Scan

/-! ### Definitions -/

namespace Definition

open Pattern Scan

/-- The pattern of a text that is too long is not accepted in the place of the text. -/
theorem resolve_escaped_of_long {d : Definition C} {g : Grammar C} (hg : d.resolve = .ok g) {slot : Fin g.size}
    {place : RulePlace} {t : Delimiter} (ht : (g.spec slot).rule? place = some (.literal t))
    (hlong : storageLimit < 32 * (byteLength t.chars + 5) + 16) :
    (d.withRule slot place (.pattern (escaped t.text))).resolve =
      .error (.invalidPattern (escaped t.text) (g.spec slot).path .tooLarge) := by
  obtain ⟨specs, rfl, hs⟩ := specs_of_resolve hg
  obtain ⟨path, e, he⟩ := exists_at slot.2
  obtain ⟨_, hpath⟩ := path_of_resolve hg he
  have hrule : (e.attributes.rule? place).isSome := by
    rw [← attributes_flat he, (hs slot).2.isSome_rule?]
    exact Option.isSome_iff_exists.2 ⟨_, ht⟩
  have hchars : t.text.toList = t.chars := String.toList_ofList
  have hp : ofSource (escaped t.text) = .error .tooLarge := by
    rw [ofSource_escaped t.text_ne_empty, hchars, if_neg (by omega)]
  rw [hpath]
  refine resolve_withRule_of_fault hg he place hrule ?_
  rw [RuleText.fault?, hp]

/-- In the place of a text that stands as a rule there may be the pattern of the escaped text, if this is not too long: it
matches the same in all texts, all blocks make moves that cannot be told from those before, and all texts are scanned as
before. If it is too long, the pattern is reported. -/
theorem literal_eq_escaped {d : Definition C} {g : Grammar C} (hg : d.resolve = .ok g) {slot : Fin g.size}
    {place : RulePlace} {t : Delimiter} (ht : (g.spec slot).rule? place = some (.literal t)) :
    (32 * (byteLength t.chars + 5) + 16 ≤ storageLimit →
      ∃ p, ofSource (escaped t.text) = .ok p ∧
        (d.withRule slot place (.pattern (escaped t.text))).resolve = .ok (g.withRule slot place (.pattern p)) ∧
        Rule.Alike (.literal t) (.pattern p) ∧
        (∀ k rest, (nextMove g (g.spec k) rest).Alike
          (nextMove (g.withRule slot place (.pattern p)) ((g.withRule slot place (.pattern p)).spec k) rest)) ∧
        ∀ o text context, scan (g.withRule slot place (.pattern p)) o text context = scan g o text context) ∧
      (storageLimit < 32 * (byteLength t.chars + 5) + 16 →
        (d.withRule slot place (.pattern (escaped t.text))).resolve =
          .error (.invalidPattern (escaped t.text) (g.spec slot).path .tooLarge)) := by
  refine ⟨fun hfits => ?_, resolve_escaped_of_long hg ht⟩
  have hp : ofSource (escaped t.text) = .ok (ofText t.text) := by
    have hchars : t.text.toList = t.chars := String.toList_ofList
    rw [ofSource_escaped t.text_ne_empty, hchars, if_pos hfits]
  exact ⟨ofText t.text, hp, resolve_withRule hg slot place (.pattern hp), Rule.alike_ofText t, nextMove_withRule ht,
    scan_withRule ht⟩

/-- A text that stands as a rule in a grammar. -/
private theorem exists_splitBy (t : Delimiter) :
    ∃ g, (splitBy (.literal t.text)).resolve = .ok g ∧ (g.spec g.rootSlot).rule? .split = some (.literal t) := by
  obtain ⟨g, hg⟩ := exists_resolve_splitBy
  refine ⟨_, resolve_withRule hg g.rootSlot .split (.literal t), ?_⟩
  have hspec : (g.withRule g.rootSlot .split (.literal t)).root = g.root.withRule (.literal t) .split :=
    Vector.getElem_set_self g.size_pos
  exact congrArg Spec.split hspec

/-- The dot has a meaning in patterns, and is escaped. -/
theorem literal_eq_escaped_dot : ∃ (g : Grammar Unit) (p : Pattern), ofSource "\\." = .ok p ∧
    (splitBy (.literal ".")).resolve = .ok g ∧
    (splitBy (.pattern "\\.")).resolve = .ok (g.withRule g.rootSlot .split (.pattern p)) ∧
    ∀ o text context, scan (g.withRule g.rootSlot .split (.pattern p)) o text context = scan g o text context := by
  obtain ⟨g, hg, ht⟩ := exists_splitBy ⟨['.'], by simp⟩
  obtain ⟨p, hp, hr, -, -, hs⟩ := (literal_eq_escaped hg ht).1 (by decide)
  exact ⟨g, p, hp, hg, hr, hs⟩

/-- A text of more than `n` bytes. -/
private def longText (n : Nat) : Delimiter := ⟨List.replicate (n + 1) 'a', by simp [List.replicate_succ]⟩

private theorem byteLength_longText (n : Nat) : byteLength (longText n).chars = n + 1 := by
  show byteLength (List.replicate (n + 1) 'a') = n + 1
  induction n with
  | zero => rfl
  | succ n ih => rw [List.replicate_succ, byteLength_cons, ih]; exact Nat.add_comm 1 _

/-- A grammar in which the pattern of an escaped text cannot stand for the text. -/
theorem literal_ne_escaped :
    (∃ g, (splitBy (.literal (longText 400000).text)).resolve = .ok g ∧
      (g.spec g.rootSlot).rule? .split = some (.literal (longText 400000))) ∧
      (splitBy (.pattern (escaped (longText 400000).text))).resolve =
        .error (.invalidPattern (escaped (longText 400000).text) rootPath .tooLarge) := by
  obtain ⟨g, hg, ht⟩ := exists_splitBy (longText 400000)
  refine ⟨⟨g, hg, ht⟩, ?_⟩
  obtain ⟨_, hpath⟩ := path_of_resolve hg (at_zero _)
  have hlong : storageLimit < 32 * (byteLength (longText 400000).chars + 5) + 16 := by
    rw [byteLength_longText]
    decide
  exact hpath ▸ resolve_escaped_of_long hg ht hlong

end Definition

end Delimited
