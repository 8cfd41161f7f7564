import Delimited.Proofs.Pattern.Anchoring
import Delimited.Proofs.Pattern.GroupSeam
import Delimited.Proofs.Pattern.Wrapping

/-!
# Sources by themselves

A source is read alike by itself and in its wrapping, up to the parenthesis that closes the wrapping.
-/

namespace Delimited.Pattern

namespace Reader

/-- A text in which a parenthesis closes no group that is open. -/
inductive ClosesUnopened : Reader → List Char → Prop
  | here {st : Reader} {s r : List Char} (hs : skip st.verbose s = ')' :: r) (ho : st.opened = []) : ClosesUnopened st s
  | literal {st : Reader} {s r : List Char} {c : Char} (hs : skip st.verbose s = c :: r) (hc : construct? c = none)
      (h : ClosesUnopened (st.push (.literal ⟨c, false⟩)) r) : ClosesUnopened st s
  | construct {st st' : Reader} {s r r' : List Char} {c : Char}
      {read : Reader → List Char → Option (Reader × List Char)} (hs : skip st.verbose s = c :: r)
      (hc : construct? c = some read) (hr : read st r = some (st', r')) (h : ClosesUnopened st' (tailOf r r')) :
      ClosesUnopened st s

variable {st st' : Reader} {s s' r r' : List Char} {c : Char}
  {read : Reader → List Char → Option (Reader × List Char)}

/-! ### Inside of the wrapping -/

@[simp] theorem inside_verbose (st : Reader) : st.inside.verbose = st.verbose := rfl

private theorem inside_opened_ne_nil (st : Reader) : st.inside.opened.isEmpty = false := by
  simp [inside]

private theorem run_inside_literal (hs : skip st.verbose s = c :: r) (hc : construct? c = none) :
    st.inside.run s = (st.push (.literal ⟨c, false⟩)).inside.run r := run_literal hs hc

private theorem run_inside_read (hs : skip st.verbose s = c :: r) (hc : construct? c = some read)
    (hr : read st.inside r = some (st', r')) : st.inside.run s = st'.run (tailOf r r') := run_read hs hc hr

private theorem run_inside_stuck (hs : skip st.verbose s = c :: r) (hc : construct? c = some read)
    (hr : read st.inside r = none) :
    st.inside.run s = none := run_stuck hs hc hr

/-- Inside of the wrapping nothing is read to the end. -/
theorem run_inside_end (hs : skip st.verbose s = []) : st.inside.run s = none := by
  rw [run_end (by exact hs), inside_opened_ne_nil]
  rfl

private theorem run_inside_nil (st : Reader) : st.inside.run [] = none :=
  run_inside_end (by cases st.verbose <;> rfl)

private theorem repeatLast_inside (st : Reader) (min : Nat) (max : Option Nat) (greedy : Bool) :
    st.inside.repeatLast min max greedy = (st.repeatLast min max greedy).map inside := by
  unfold repeatLast
  rw [show st.inside.level = st.level from rfl]
  split <;> rfl

private theorem repeatSimply_inside (st : Reader) (min : Nat) (max : Option Nat) (r : List Char) :
    st.inside.repeatSimply min max r = (st.repeatSimply min max r).map fun x => (x.1.inside, x.2) := by
  unfold repeatSimply
  split <;> rw [repeatLast_inside, Option.map_map, Option.map_map] <;> rfl

private theorem repeatCounted_inside (st : Reader) (r : List Char) :
    st.inside.repeatCounted r = (st.repeatCounted r).map fun x => (x.1.inside, x.2) := by
  rw [repeatCounted_eq, repeatCounted_eq, inside_verbose]
  simp only [repeatSimply_inside, Option.bind_eq_bind, Option.map_bind, Function.comp_def]

private theorem enterNamed_inside (st : Reader) (r : List Char) :
    st.inside.enterNamed r = (st.enterNamed r).map fun x => (x.1.inside, x.2) := by
  unfold enterNamed
  cases readName r with
  | none => rfl
  | some x =>
    simp only [Option.bind_eq_bind, Option.bind_some]
    by_cases hn : st.names.contains x.1 = true
    · rw [if_pos (show st.inside.names.contains x.1 = true from hn), if_pos hn]
      rfl
    · rw [if_neg (show ¬ st.inside.names.contains x.1 = true from hn), if_neg hn]
      rfl

private theorem openGroup_inside (st : Reader) (r : List Char) :
    st.inside.openGroup r = (st.openGroup r).map fun x => (x.1.inside, x.2) := by
  unfold openGroup
  rw [inside_verbose]
  split
  case h_5 | h_6 => exact enterNamed_inside st _
  case h_7 =>
    split
    · split
      · split <;> rfl
      · rfl
    · rfl
  all_goals rfl

private theorem exists_closeGroup (ho : st.opened ≠ []) : ∃ u, st.closeGroup = some u := by
  obtain ⟨o, opened, ho⟩ := List.exists_cons_of_ne_nil ho
  exact ⟨_, by rw [closeGroup, ho]⟩

private theorem closeGroup_inside (ho : st.opened ≠ []) : st.inside.closeGroup = st.closeGroup.map inside := by
  obtain ⟨o, opened, ho⟩ := List.exists_cons_of_ne_nil ho
  unfold closeGroup
  rw [show st.inside.opened = st.opened ++ _ from rfl, ho]
  rfl

/-- Whatever is read changes nothing about the wrapping, unless it closes it. -/
theorem construct_inside (hc : construct? c = some read) (ho : c = ')' → st.opened ≠ []) (r : List Char) :
    read st.inside r = (read st r).map fun x => (x.1.inside, x.2) := by
  unfold construct? at hc
  split at hc
  all_goals cases hc
  · exact openGroup_inside st r
  · simp only [closeGroup_inside (ho rfl), Option.map_map]
    rfl
  · rfl
  · simp only [inside_verbose, Option.map_map]
    rfl
  · exact repeatSimply_inside st _ _ r
  · exact repeatSimply_inside st _ _ r
  · exact repeatSimply_inside st _ _ r
  · exact repeatCounted_inside st r
  · simp only [inside_verbose, Option.map_map]
    rfl
  all_goals rfl

/-- Whatever is read is read alike with the parenthesis behind the text, and what is read late cannot be read on. -/
theorem construct_tailed (st : Reader) (hc : construct? c = some read) (h : Tailed r r') :
    ReadAlike (fun st' q => st'.inside.run (tailOf r' q) = none) (read st r) (read st r') := by
  have hend (u : Reader) : u.inside.run (tailOf r' []) = none := by
    rw [tailOf_nil]
    exact run_inside_nil u
  unfold construct? at hc
  split at hc
  all_goals cases hc
  · refine (openGroup_tailed st h).mono fun st' q hq => ?_
    rw [hq]
    exact hend st'
  · exact .known _ _ h
  · exact .read _ h
  · exact (readClass_tailed h).map _ fun _ _ h => h.elim
  · exact (repeatSimply_tailed st _ _ h).mono fun _ _ h => h.elim
  · exact (repeatSimply_tailed st _ _ h).mono fun _ _ h => h.elim
  · exact (repeatSimply_tailed st _ _ h).mono fun _ _ h => h.elim
  · exact (repeatCounted_tailed st h).mono fun _ _ h => h.elim
  · refine (readEscape_tailed h).map _ fun e q hl => ?_
    rcases hl with rfl | ⟨rfl, t, rfl, ht, hq⟩
    · exact hend _
    · obtain ⟨front, rfl⟩ := hq
      rw [tailOf_append]
      have hv : skip st.verbose ('{' :: t) = '{' :: t := by cases st.verbose <;> rfl
      exact run_stuck hv rfl (repeatCounted_stuck ht)
  all_goals exact .read _ h

/-! ### Readers behind the wrapping -/

/-- The parenthesis closes the wrapping behind a text. Without the wrapping there is nothing to close. -/
private theorem run_paren (hs : skip st.verbose s = [')']) (ho : st.opened = []) :
    st.inside.run s = some st.level.expr.wrapped ∧ st.run s = none := by
  have hopened : st.inside.opened = [({ items := [.anchor .lineStart] }, .plain [], false)] := by
    rw [inside, ho]
    rfl
  have hc : st.inside.closeGroup.map (·, ([] : List Char)) =
      some ({ st.inside with
        level := { items := [.group (.plain []) st.level.expr, .anchor .lineStart] }, opened := [], verbose := false },
        []) := by
    rw [closeGroup, hopened]
    rfl
  have hnone : st.closeGroup.map (·, ([] : List Char)) = none := by rw [closeGroup, ho]; rfl
  refine ⟨?_, run_stuck hs rfl hnone⟩
  rw [run_inside_read (c := ')') hs rfl hc, tailOf_nil, run_end rfl]
  rfl

/-- What a text is by itself it is in the wrapping; or a comment goes on over the parenthesis, and the text is the same
with the parenthesis behind it. -/
theorem run_tailed {e : Expr} (h : Tailed s s') (he : st.run s = some e) :
    (st.inside.run s' = some e.wrapped ∧ st.run s' = none) ∨ (st.inside.run s' = none ∧ st.run s' = some e) := by
  fun_induction Reader.run st s generalizing s' with
  | case1 st s hs ho =>
    cases he
    rcases skip_nil_tailed h hs with hs' | hs'
    · exact Or.inl (run_paren hs' (List.isEmpty_iff.1 ho))
    · exact Or.inr ⟨run_inside_end hs', by rw [run_end hs', if_pos ho]⟩
  | case2 => cases he
  | case3 st s c r hs hc ih =>
    obtain ⟨r', hs', hr⟩ := skip_cons_tailed h hs
    rw [run_inside_literal hs' hc, run_literal hs' hc]
    exact ih hr he
  | case4 => cases he
  | case5 st s c r hs read hc st' q hq ih =>
    obtain ⟨r', hs', hr⟩ := skip_cons_tailed h hs
    have hread := construct_tailed st hc hr
    rw [hq] at hread
    obtain ⟨q', hq', ht'⟩ := hread.of_some
    have ho : c = ')' → st.opened ≠ [] := by
      rintro rfl ho
      cases hc
      have hq : st.closeGroup.map (·, r) = some (st', q) := hq
      rw [closeGroup, ho] at hq
      cases hq
    have hi := construct_inside hc ho r'
    rw [hq'] at hi
    rw [run_inside_read hs' hc hi, run_read hs' hc hq']
    exact ih (tailOf_tailed hr ht') he

/-- An expression closes nothing that it has not opened. -/
theorem not_closesUnopened {e : Expr} (he : st.run s = some e) : ¬ st.ClosesUnopened s := by
  intro h
  induction h with
  | @here st s r hs ho =>
    have hnone : st.closeGroup.map (·, r) = none := by rw [closeGroup, ho]; rfl
    rw [run_stuck hs rfl hnone] at he
    cases he
  | literal hs hc _ ih => exact ih (by rw [← he, run_literal hs hc])
  | construct hs hc hr _ ih => exact ih (by rw [← he, run_read hs hc hr])

/-- What is no expression by itself is none in the wrapping, unless it closes what it has not opened. -/
theorem run_tailed_none (h : Tailed s s') (he : st.run s = none) (hu : ¬ st.ClosesUnopened s) :
    st.inside.run s' = none := by
  fun_induction Reader.run st s generalizing s' with
  | case1 => cases he
  | case2 st s hs ho =>
    rcases skip_nil_tailed h hs with hs' | hs'
    · have hne : st.opened ≠ [] := fun h => ho (List.isEmpty_iff.2 h)
      obtain ⟨u, hu⟩ := exists_closeGroup hne
      have hi : (st.inside.closeGroup).map (·, ([] : List Char)) = some (u.inside, []) := by
        rw [closeGroup_inside hne, hu]
        rfl
      rw [run_inside_read (c := ')') hs' rfl hi, tailOf_nil]
      exact run_inside_nil u
    · exact run_inside_end hs'
  | case3 st s c r hs hc ih =>
    obtain ⟨r', hs', hr⟩ := skip_cons_tailed h hs
    rw [run_inside_literal hs' hc]
    exact ih hr he fun h => hu (.literal hs hc h)
  | case4 st s c r hs read hc hq =>
    obtain ⟨r', hs', hr⟩ := skip_cons_tailed h hs
    have ho : c = ')' → st.opened ≠ [] := by
      rintro rfl ho
      exact hu (.here hs ho)
    have hi := construct_inside hc ho r'
    have hread := construct_tailed st hc hr
    rw [hq] at hread
    rcases hread.of_none with hq' | ⟨st', q, hq', hl⟩
    · rw [hq'] at hi
      exact run_inside_stuck hs' hc hi
    · rw [hq'] at hi
      rw [run_inside_read hs' hc hi]
      exact hl
  | case5 st s c r hs read hc st' q hq ih =>
    obtain ⟨r', hs', hr⟩ := skip_cons_tailed h hs
    have ho : c = ')' → st.opened ≠ [] := by
      rintro rfl ho
      exact hu (.here hs ho)
    have hread := construct_tailed st hc hr
    rw [hq] at hread
    obtain ⟨q', hq', ht'⟩ := hread.of_some
    have hi := construct_inside hc ho r'
    rw [hq'] at hi
    rw [run_inside_read hs' hc hi]
    exact ih (tailOf_tailed hr ht') he fun h => hu (.construct hs hc hq h)

end Reader

/-! ### Sources -/

/-- What a source means by itself. -/
def alone? (source : String) : Option Node := do
  let e ← Reader.run {} source.toList
  let (n, _) ← e.node? {}
  return n

/-- The source by itself is a regular expression, whatever its size. -/
def IsRegex (source : String) : Prop := (alone? source).isSome = true

instance (source : String) : Decidable (IsRegex source) := inferInstanceAs (Decidable (_ = true))

/-- A parenthesis behind the expression makes no difference, since a comment goes on over it. -/
def EndsInComment (source : String) : Prop := IsRegex source ∧ IsRegex (source ++ ")")

instance (source : String) : Decidable (EndsInComment source) := inferInstanceAs (Decidable (_ ∧ _))

/-- A parenthesis of the source closes no group that is open. -/
def ClosesUnopened (source : String) : Prop := Reader.ClosesUnopened {} source.toList

/-- What is read for the source is neither too deep nor too large. -/
def KeepsLimits (source : String) : Prop :=
  ((Reader.run {} (anchoredSource source)).all fun e =>
    e.depth ≤ depthLimit && (e.node? {}).all fun r => r.1.fits) = true

instance (source : String) : Decidable (KeepsLimits source) := inferInstanceAs (Decidable (_ = true))

section

variable {source : String} {n : Node}

private theorem toList_append_paren (source : String) : (source ++ ")").toList = source.toList ++ [')'] :=
  String.toList_append

/-- A text is a regular expression when it is read to its end by itself, and the result has a meaning. -/
theorem isRegex_iff : IsRegex source ↔ ∃ e, Reader.run {} source.toList = some e ∧ (e.node? {}).isSome := by
  unfold IsRegex alone?
  cases Reader.run {} source.toList with
  | none => simp
  | some e => cases h : e.node? {} <;> simp [h]

private theorem alone?_eq_some (h : alone? source = some n) :
    ∃ e f, Reader.run {} source.toList = some e ∧ e.node? {} = some (n, f) := by
  unfold alone? at h
  simp only [Option.bind_eq_bind, Option.bind_eq_some_iff] at h
  obtain ⟨e, he, ⟨m, f⟩, hm, h⟩ := h
  cases h
  exact ⟨e, f, he, hm⟩

/-- What the source is by itself is read in the wrapping, unless it ends in a comment. -/
private theorem run_anchored_of_run {e : Expr} (he : Reader.run {} source.toList = some e) (hn : (e.node? {}).isSome) :
    Reader.run {} (anchoredSource source) = if EndsInComment source then none else some e.wrapped := by
  have hregex : IsRegex source := isRegex_iff.2 ⟨e, he, hn⟩
  rw [Reader.run_anchoredSource]
  rcases Reader.run_tailed (.closing source.toList) he with ⟨hi, hs⟩ | ⟨hi, hs⟩
  · have hc : ¬ EndsInComment source := by
      rintro ⟨-, hc⟩
      obtain ⟨_, he', -⟩ := isRegex_iff.1 hc
      rw [toList_append_paren, hs] at he'
      cases he'
    rw [if_neg hc, hi]
  · have hc : EndsInComment source := ⟨hregex, isRegex_iff.2 ⟨e, by rw [toList_append_paren, hs], hn⟩⟩
    rw [if_pos hc, hi]

/-- A regular expression closes nothing that it has not opened. -/
theorem not_closesUnopened (h : IsRegex source) : ¬ ClosesUnopened source := by
  obtain ⟨e, he, -⟩ := isRegex_iff.1 h
  exact Reader.not_closesUnopened he

/-- What is no regular expression by itself, or ends in a comment, has no meaning in the wrapping, unless it closes what
it has not opened. -/
theorem ofSource_of_not_isRegex (hu : ¬ ClosesUnopened source) (h : IsRegex source → EndsInComment source) :
    ofSource source = .error .malformed := by
  have hnone : node? source = none := by
    unfold node? Expr.read?
    cases he : Reader.run {} source.toList with
    | none =>
      have hi := Reader.run_tailed_none (.closing source.toList) he hu
      rw [Reader.run_anchoredSource, hi]
      rfl
    | some e =>
      cases hn : e.node? {} with
      | none =>
        have hwrapped : e.wrapped.node? {} = none := by rw [Expr.node?_wrapped, hn]; rfl
        rw [Reader.run_anchoredSource]
        rcases Reader.run_tailed (.closing source.toList) he with ⟨hi, -⟩ | ⟨hi, -⟩
        · rw [hi, Option.filter_some]
          split
          · simp [hwrapped]
          · rfl
        · rw [hi]
          rfl
      | some r =>
        have hsome : (e.node? {}).isSome := by rw [hn]; rfl
        rw [run_anchored_of_run he hsome, if_pos (h (isRegex_iff.2 ⟨e, he, hsome⟩))]
        rfl
  rw [ofSource, hnone]

/-- What the source means by itself is found in the wrapping. -/
theorem ofSource_of_alone (hl : KeepsLimits source) (h : alone? source = some n) (hc : ¬ EndsInComment source) :
    ofSource source = .ok ⟨source, n.wrapped.program⟩ ∧ n.Numbered := by
  obtain ⟨e, f, he, hn⟩ := alone?_eq_some h
  have hread := run_anchored_of_run he (by rw [hn]; rfl)
  rw [if_neg hc] at hread
  have hwrapped : e.wrapped.node? {} = some (n.wrapped, {}) := by rw [Expr.node?_wrapped, hn]; rfl
  unfold KeepsLimits at hl
  rw [hread, Option.all_some, hwrapped, Option.all_some, Bool.and_eq_true, decide_eq_true_eq] at hl
  obtain ⟨hdepth, hfits⟩ := hl
  have hexpr : Expr.read? (anchoredSource source) = some e.wrapped := by
    rw [Expr.read?, hread, Option.filter_some, if_pos (by simpa using hdepth)]
  have hnode : node? source = some n.wrapped := by
    rw [node?, hexpr]
    simp [hwrapped]
  have hnum : n.wrapped.Numbered := (anchored_or_alternation_of_read hexpr).1 _ _ _ hwrapped
  exact ⟨by rw [ofSource, hnode]; exact if_pos hfits, hnum.2.1⟩

end

end Delimited.Pattern

namespace Delimited

open Pattern

/-- In the wrapping a rule matches what its source matches by itself at the start of a text, and consumes nothing else. -/
theorem Rule.matchStart?_wrapped {n : Node} (hn : n.Numbered) (source : String) (rest : List Char) :
    (Rule.pattern ⟨source, n.wrapped.program⟩).matchStart? rest =
      (find ⟨source, n.program.atStart⟩ rest).bind fun m => RuleMatch.of? m.text (some m.text :: m.captures) := by
  have hfind : find ⟨source, n.wrapped.program⟩ rest = find ⟨source, n.program.atStart⟩ rest := by
    unfold find
    rw [Node.search_wrapped hn]
  rw [Rule.matchStart?, hfind]
  cases hk : find ⟨source, n.program.atStart⟩ rest with
  | none => rfl
  | some k =>
    obtain ⟨places, hp, htext⟩ := exists_places_of_find hk
    have hb := Node.begins_program hn
    have hb : n.program.atStart.Begins := ⟨hb.first, hb.targets, hb.slot, hb.slots⟩
    have ht : k.text = k.consumed := htext (start_of_search hb rfl hp)
    simp only [Option.bind_eq_bind, Option.bind_some, ht]

end Delimited
