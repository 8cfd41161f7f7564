import Delimited.Proofs.Pattern.ClassSeam

/-!
# The seam behind groups and repetitions

Groups are opened alike with a parenthesis behind the text (`openGroup_tailed`), and items are repeated alike. Late, a group
can only be opened by flags that end at this parenthesis.
-/

namespace Delimited.Pattern

variable {st : Reader} {s s' r r' : List Char} {c : Char}

/-! ### Flags and names -/

/-- Flags, with what ends them. -/
def flagsFrom (changes : List FlagChange) (on dangling : Bool) (s : List Char) :
    Option ((List FlagChange × Char) × List Char) :=
  (readFlags changes on dangling s).map fun x => ((x.1, x.2.1), x.2.2)

/-- Flags that are read late end at the parenthesis. -/
theorem flagsFrom_tailed (changes : List FlagChange) (on dangling : Bool) (h : Tailed s s') :
    ReadAlike (fun x r => x.2 = ')' ∧ r = []) (flagsFrom changes on dangling s) (flagsFrom changes on dangling s') := by
  unfold flagsFrom
  induction s generalizing s' changes on dangling with
  | nil =>
    rcases h.nil with rfl | rfl
    · cases dangling
      · exact .late ⟨rfl, rfl⟩
      · exact .neither
    · exact .neither
  | cons c r ih =>
    obtain ⟨r', rfl, hr⟩ := h.cons
    rw [readFlags, readFlags]
    split
    · split
      · exact .neither
      · exact .read _ hr
    split
    · split
      · exact ih _ _ _ hr
      · exact .neither
    split
    · split
      · exact .neither
      · exact ih _ _ _ hr
    · exact .neither

private theorem readName_tailed (h : Tailed s s') : ReadAlike never (readName s) (readName s') := by
  unfold readName
  rw [← takeSkipping_false, ← takeSkipping_false]
  rcases takeSkipping_tailed (v := false) (· ≠ '>') h with ⟨name, r, r', h₁, h₂, hr⟩ | ⟨-, h₁, h₂⟩
  · rw [h₁, h₂]
    split
    · rename_i heq
      obtain ⟨rfl, rfl⟩ := Prod.mk.inj heq
      obtain ⟨q, rfl, hq⟩ := hr.cons
      simp only
      split
      · exact .read _ hq
      · exact .neither
    · rename_i hne
      split
      · rename_i heq
        obtain ⟨rfl, rfl⟩ := Prod.mk.inj heq
        obtain ⟨q, rfl, -⟩ := hr.uncons (by decide)
        exact absurd rfl (hne _ _ _)
      · exact .neither
  · rw [← Prod.eta (takeSkipping _ _ s), ← Prod.eta (takeSkipping _ _ s'), h₁, h₂]
    cases (takeSkipping false (· ≠ '>') s).1 <;> cases (takeSkipping false (· ≠ '>') s').1 <;> exact .neither

/-! ### Groups -/

private theorem enterNamed_tailed (st : Reader) (h : Tailed s s') :
    ReadAlike never (st.enterNamed s) (st.enterNamed s') := by
  unfold Reader.enterNamed
  refine (readName_tailed h).bind (fun name r r' hr => ?_) fun _ _ h => h.elim
  dsimp only
  split
  · exact .neither
  · exact .read _ hr

/-- What flags make of a reader, with what ends them. -/
def Reader.flagged (st : Reader) (x : (List FlagChange × Char) × List Char) : Option (Reader × List Char) :=
  let verbose := (lastChange? .verbose x.1.1).getD st.verbose
  if x.1.2 = ')' then
    if x.1.1.isEmpty then none else some ({ st.push (.flags x.1.1) with verbose := verbose }, x.2)
  else some (st.enter (.plain x.1.1) verbose, x.2)

/-- The start of a group behind its question mark. No flag begins what looks ahead. -/
def Reader.question (st : Reader) : List Char → Option (Reader × List Char)
  | '<' :: '=' :: _ => none
  | '<' :: '!' :: _ => none
  | 'P' :: '<' :: r => st.enterNamed r
  | '<' :: r => st.enterNamed r
  | r => flagsFrom [] true false r >>= st.flagged

private theorem question_angle (h₁ : ∀ q, r ≠ '=' :: q) (h₂ : ∀ q, r ≠ '!' :: q) :
    st.question ('<' :: r) = st.enterNamed r := by
  unfold Reader.question
  split
  case h_4 =>
    rename_i heq
    rw [(List.cons.inj heq).2]
  case h_5 =>
    rename_i hne
    exact absurd rfl (hne r)
  all_goals
    rename_i heq
    first
    | exact absurd (List.cons.inj heq).2 (h₁ _)
    | exact absurd (List.cons.inj heq).2 (h₂ _)
    | cases heq

private theorem question_flags (h₁ : ∀ q, r ≠ 'P' :: '<' :: q) (h₂ : ∀ q, r ≠ '<' :: q) :
    st.question r = flagsFrom [] true false r >>= st.flagged := by
  unfold Reader.question
  split
  case h_3 => exact absurd rfl (h₁ _)
  case h_5 => rfl
  all_goals exact absurd rfl (h₂ _)

private theorem openGroup_question (hs : skip st.verbose s = '?' :: r) : st.openGroup s = st.question r := by
  unfold Reader.openGroup
  rw [hs]
  split
  case h_6 =>
    rename_i h₁ h₂ heq
    obtain ⟨-, rfl⟩ := List.cons.inj heq
    exact (question_angle (fun q => h₁ q) fun q => h₂ q).symm
  case h_7 =>
    rename_i h₃ h₄ heq
    obtain ⟨-, rfl⟩ := List.cons.inj heq
    rw [question_flags (fun q => h₃ q) fun q => h₄ q, flagsFrom]
    cases readFlags [] true false r <;> rfl
  case h_8 =>
    rename_i hne
    exact absurd rfl (hne r)
  all_goals
    rename_i heq
    obtain ⟨-, rfl⟩ := List.cons.inj heq
    rfl

private theorem openGroup_capture (hs : ∀ q, skip st.verbose s ≠ '?' :: q) :
    st.openGroup s = some (st.enterCapture, skip st.verbose s) := by
  unfold Reader.openGroup
  split
  case h_8 => rfl
  all_goals
    rename_i heq
    exact absurd heq (hs _)

private theorem flagged_tailed (st : Reader) (h : Tailed s s') :
    ReadAlike (fun _ r => r = []) (flagsFrom [] true false s >>= st.flagged)
      (flagsFrom [] true false s' >>= st.flagged) := by
  refine (flagsFrom_tailed _ _ _ h).bind (fun x q q' hq => ?_) fun x q hl b hb => ?_
  · unfold Reader.flagged
    dsimp only
    split
    · split
      · exact .neither
      · exact .read _ hq
    · exact .read _ hq
  · unfold Reader.flagged at hb
    dsimp only at hb
    rw [if_pos hl.1] at hb
    split at hb
    · cases hb
    · cases hb
      exact hl.2

private theorem question_tailed (st : Reader) (h : Tailed s s') :
    ReadAlike (fun _ r => r = []) (st.question s) (st.question s') := by
  have hnamed {t t' : List Char} (ht : Tailed t t') :
      ReadAlike (fun _ r => r = []) (st.enterNamed t) (st.enterNamed t') :=
    (enterNamed_tailed st ht).mono fun _ _ h => h.elim
  cases s with
  | nil =>
    rcases h.nil with rfl | rfl
    · exact .neither
    · exact .neither
  | cons c r =>
    obtain ⟨r', rfl, hr⟩ := h.cons
    by_cases h₁ : c = '<'
    · subst h₁
      cases r with
      | nil =>
        rcases hr.nil with rfl | rfl
        · exact hnamed hr
        · exact hnamed hr
      | cons d q =>
        obtain ⟨q', rfl, hq⟩ := hr.cons
        by_cases hd : d = '='
        · subst hd
          exact .neither
        by_cases hd' : d = '!'
        · subst hd'
          exact .neither
        · have hangle (t : List Char) : st.question ('<' :: d :: t) = st.enterNamed (d :: t) :=
            question_angle (fun q hq => hd (List.cons.inj hq).1) fun q hq => hd' (List.cons.inj hq).1
          rw [hangle, hangle]
          exact hnamed hr
    by_cases h₂ : c = 'P'
    · subst h₂
      cases r with
      | nil =>
        rcases hr.nil with rfl | rfl
        · exact .neither
        · exact .neither
      | cons d q =>
        obtain ⟨q', rfl, hq⟩ := hr.cons
        by_cases hd : d = '<'
        · subst hd
          exact hnamed hq
        · have hflags (t : List Char) : st.question ('P' :: d :: t) = none :=
            question_flags (fun q hq => by cases hq; exact hd rfl) fun q hq => by cases hq
          rw [hflags, hflags]
          exact .neither
    · have hflags (t : List Char) : st.question (c :: t) = flagsFrom [] true false (c :: t) >>= st.flagged :=
        question_flags (fun q hq => h₂ (List.cons.inj hq).1) fun q hq => h₁ (List.cons.inj hq).1
      rw [hflags, hflags]
      exact flagged_tailed st h

/-- A group that is opened late is opened by flags, at the end of the text. -/
theorem openGroup_tailed (st : Reader) (h : Tailed s s') :
    ReadAlike (fun _ r => r = []) (st.openGroup s) (st.openGroup s') := by
  have ht := tailed_skip st.verbose h
  by_cases hq : ∃ r, skip st.verbose s = '?' :: r
  · obtain ⟨r, hs⟩ := hq
    rw [hs] at ht
    obtain ⟨r', hs', hr⟩ := ht.cons
    rw [openGroup_question hs, openGroup_question hs']
    exact question_tailed st hr
  · have hne : ∀ q, skip st.verbose s ≠ '?' :: q := fun q hs => hq ⟨q, hs⟩
    have hne' : ∀ q, skip st.verbose s' ≠ '?' :: q := by
      intro q hs
      rw [hs] at ht
      obtain ⟨q, hs, -⟩ := ht.uncons (by decide)
      exact hne q hs
    rw [openGroup_capture hne, openGroup_capture hne']
    exact .read _ ht

/-! ### Repetitions -/

theorem repeatSimply_tailed (st : Reader) (min : Nat) (max : Option Nat) (h : Tailed s s') :
    ReadAlike never (st.repeatSimply min max s) (st.repeatSimply min max s') := by
  have hplain {t : List Char} (ht : ∀ q, t ≠ '?' :: q) :
      st.repeatSimply min max t = (st.repeatLast min max true).map (·, t) := by
    unfold Reader.repeatSimply
    split
    · exact absurd rfl (ht _)
    · rfl
  by_cases hq : ∃ r, s = '?' :: r
  · obtain ⟨r, rfl⟩ := hq
    obtain ⟨r', rfl, hr⟩ := h.cons
    exact .known _ _ hr
  · have hne : ∀ q, s ≠ '?' :: q := fun q hs => hq ⟨q, hs⟩
    have hne' : ∀ q, s' ≠ '?' :: q := by
      rintro q rfl
      obtain ⟨r, hs, -⟩ := h.uncons (by decide)
      exact hne r hs
    rw [hplain hne, hplain hne']
    exact .known _ _ h

/-- The upper bound of a repetition and the end of its brace. -/
def boundTo (v : Bool) (min : Nat) (s : List Char) : Option (Option Nat × List Char) :=
  match readCount v s with
  | some (max, '}' :: r) => if min ≤ max then some (some max, r) else none
  | _ => none

/-- The bounds of a repetition behind the lower one. -/
def boundsFrom (v : Bool) (min : Nat) : List Char → Option (Option Nat × List Char)
  | '}' :: r => some (some min, r)
  | ',' :: r =>
    match skip v r with
    | '}' :: r => some (none, r)
    | r => boundTo v min r
  | _ => none

private theorem boundsFrom_comma {v : Bool} {min : Nat} (hr : ∀ q, skip v r ≠ '}' :: q) :
    boundsFrom v min (',' :: r) = boundTo v min (skip v r) := by
  simp only [boundsFrom]

private theorem boundsFrom_none {v : Bool} {min : Nat} (h₁ : ∀ q, s ≠ '}' :: q) (h₂ : ∀ q, s ≠ ',' :: q) :
    boundsFrom v min s = none := by
  unfold boundsFrom
  split
  · exact absurd rfl (h₁ _)
  · exact absurd rfl (h₂ _)
  · rfl

theorem repeatCounted_eq (st : Reader) (s : List Char) :
    st.repeatCounted s = readCount st.verbose (skip st.verbose s) >>= fun x =>
      boundsFrom st.verbose x.1 x.2 >>= fun y => st.repeatSimply x.1 y.1 (skip st.verbose y.2) := by
  unfold Reader.repeatCounted
  refine congrArg _ (funext fun x => ?_)
  obtain ⟨min, s⟩ := x
  dsimp only
  split
  · rfl
  · split
    · rename_i hs
      simp only [boundsFrom, hs]
    · rename_i r _ hne
      rw [boundsFrom_comma fun q => hne q, boundTo]
      rcases readCount st.verbose (skip st.verbose r) with _ | ⟨max, _ | ⟨d, q⟩⟩
      · rfl
      · rfl
      · by_cases hd : d = '}'
        · subst hd
          by_cases hm : min ≤ max <;> simp [hm]
        · simp [hd]
  · rename_i h₁ h₂
    rw [boundsFrom_none (fun q => h₁ q) fun q => h₂ q]

private theorem boundTo_tailed (v : Bool) (min : Nat) (h : Tailed s s') :
    ReadAlike never (boundTo v min s) (boundTo v min s') := by
  have hc := readCount_tailed (v := v) h
  unfold boundTo
  generalize readCount v s = x at hc ⊢
  generalize readCount v s' = x' at hc ⊢
  cases hc with
  | neither => exact .neither
  | late hf => exact hf.elim
  | @read max r r' hr =>
    split
    · rename_i heq
      cases heq
      obtain ⟨q, rfl, hq⟩ := hr.cons
      simp only
      split
      · exact .read _ hq
      · exact .neither
    · rename_i hne
      split
      · rename_i heq
        cases heq
        obtain ⟨q, rfl, -⟩ := hr.uncons (by decide)
        exact absurd rfl (hne _ _)
      · exact .neither

private theorem boundsFrom_tailed (v : Bool) (min : Nat) (h : Tailed s s') :
    ReadAlike never (boundsFrom v min s) (boundsFrom v min s') := by
  cases s with
  | nil =>
    rcases h.nil with rfl | rfl
    · exact .neither
    · exact .neither
  | cons c r =>
    obtain ⟨r', rfl, hr⟩ := h.cons
    by_cases h₁ : c = '}'
    · subst h₁
      exact .read _ hr
    by_cases h₂ : c = ','
    · subst h₂
      have ht := tailed_skip v hr
      by_cases hq : ∃ q, skip v r = '}' :: q
      · obtain ⟨q, hs⟩ := hq
        rw [hs] at ht
        obtain ⟨q', hs', hq⟩ := ht.cons
        simp only [boundsFrom, hs, hs']
        exact .read _ hq
      · have hne : ∀ q, skip v r ≠ '}' :: q := fun q hs => hq ⟨q, hs⟩
        have hne' : ∀ q, skip v r' ≠ '}' :: q := by
          intro q hs
          rw [hs] at ht
          obtain ⟨q, hs, -⟩ := ht.uncons (by decide)
          exact hne q hs
        rw [boundsFrom_comma hne, boundsFrom_comma hne']
        exact boundTo_tailed v min ht
    · have hnone (t : List Char) : boundsFrom v min (c :: t) = none :=
        boundsFrom_none (fun q hq => h₁ (List.cons.inj hq).1) fun q hq => h₂ (List.cons.inj hq).1
      rw [hnone, hnone]
      exact .neither

theorem repeatCounted_tailed (st : Reader) (h : Tailed s s') :
    ReadAlike never (st.repeatCounted s) (st.repeatCounted s') := by
  rw [repeatCounted_eq, repeatCounted_eq]
  refine (readCount_tailed (tailed_skip _ h)).bind (fun min r r' hr => ?_) fun _ _ h => h.elim
  refine (boundsFrom_tailed _ min hr).bind (fun max q q' hq => ?_) fun _ _ h => h.elim
  exact repeatSimply_tailed st min max (tailed_skip _ hq)

/-- No count begins with the parenthesis. -/
theorem repeatCounted_stuck (hs : skip st.verbose s = [')']) : st.repeatCounted s = none := by
  have hc : readCount st.verbose [')'] = none := by
    cases st.verbose <;> decide +kernel
  rw [repeatCounted_eq, hs, hc]
  rfl

end Delimited.Pattern
