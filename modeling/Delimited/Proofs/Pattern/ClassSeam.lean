import Mathlib.Data.List.TakeDrop
import Delimited.Proofs.Pattern.Seam

/-!
# The seam behind bracketed classes

A bracketed class is read alike with a parenthesis behind the text (`readClass_tailed`). What is read late of a class stands
at the end of the text, and nothing there closes the class.
-/

namespace Delimited.Pattern

variable {s s' r r' : List Char} {c : Char} {v : Bool}

/-! ### Openings -/

/-- Whether a class begins with a negation, and what stands behind it. -/
def classStart (v : Bool) (s : List Char) : Bool × List Char :=
  match skip v s with
  | '^' :: r => (true, skip v r)
  | r => (false, r)

/-- The open class, after its hyphens have been taken. -/
def classOpened (v negated : Bool) : List Char × List Char → Option (ClassLevel × List Char)
  | (_, []) => none
  | ([], ']' :: r) =>
    match skip v r with
    | [] => none
    | rest => some (⟨negated, [.literal ⟨']', false⟩], none⟩, rest)
  | (dashes, rest) => some (⟨negated, dashes.map fun c => .literal ⟨c, false⟩, none⟩, rest)

private theorem openClass_eq (v : Bool) (s : List Char) :
    openClass v s = classOpened v (classStart v s).1 (takeSkipping v (· = '-') (classStart v s).2) := rfl

private theorem classOpened_cons {n : Bool} {dashes : List Char} (h : ¬(dashes = [] ∧ c = ']')) :
    classOpened v n (dashes, c :: r) = some (⟨n, dashes.map fun c => .literal ⟨c, false⟩, none⟩, c :: r) := by
  unfold classOpened
  split
  · rename_i heq
    cases heq
  · rename_i heq
    obtain ⟨hd, heq⟩ := Prod.mk.inj heq
    exact absurd ⟨hd, (List.cons.inj heq).1⟩ h
  · rename_i heq
    obtain ⟨rfl, rfl⟩ := Prod.mk.inj heq
    rfl

private theorem classStart_tailed (h : Tailed s s') :
    (classStart v s).1 = (classStart v s').1 ∧ Tailed (classStart v s).2 (classStart v s').2 := by
  unfold classStart
  have ht := tailed_skip v h
  split
  · rename_i r hs
    rw [hs] at ht
    obtain ⟨r', hs', hr⟩ := ht.cons
    rw [hs']
    exact ⟨rfl, tailed_skip v hr⟩
  · rename_i hne
    split
    · rename_i hs'
      rw [hs'] at ht
      obtain ⟨r, hr, -⟩ := ht.uncons (by decide)
      exact absurd hr (hne r)
    · exact ⟨rfl, ht⟩

/-- No class is closed behind an opening that is read late. -/
theorem openClass_tailed (h : Tailed s s') : ReadAlike (fun _ r => r = [')']) (openClass v s) (openClass v s') := by
  obtain ⟨hn, ht⟩ := classStart_tailed (v := v) h
  rw [openClass_eq, openClass_eq, hn]
  rcases takeSkipping_tailed (v := v) (fun c => c = '-') ht with ⟨dashes, r, r', h₁, h₂, hr⟩ | ⟨hp, -⟩
  · rw [h₁, h₂]
    cases r with
    | nil =>
      rcases hr.nil with rfl | rfl
      · cases dashes <;> exact .late rfl
      · exact .neither
    | cons c r =>
      obtain ⟨q, rfl, hq⟩ := hr.cons
      by_cases hc : dashes = [] ∧ c = ']'
      · obtain ⟨rfl, rfl⟩ := hc
        have hk := tailed_skip v hq
        simp only [classOpened]
        cases hs : skip v r with
        | nil =>
          rw [hs] at hk
          rcases hk.nil with hs' | hs'
          · rw [hs']
            exact .late rfl
          · rw [hs']
            exact .neither
        | cons d t =>
          rw [hs] at hk
          obtain ⟨t', hs', -⟩ := hk.cons
          rw [hs'] at hk ⊢
          exact .read _ hk
      · rw [classOpened_cons hc, classOpened_cons hc]
        exact .read _ hr
  · exact absurd hp (by decide)

/-! ### ASCII classes -/

theorem takeSkipping_false (p : Char → Bool) (s : List Char) : takeSkipping false p s = s.span p := by
  rw [List.span_eq_takeWhile_dropWhile]
  induction s with
  | nil => rw [takeSkipping]; rfl
  | cons c r ih =>
    simp only [takeSkipping, skip_false, ih, List.takeWhile_cons, List.dropWhile_cons]
    split <;> rfl

/-- The class with the name, if it is closed behind. -/
def asciiNamed (negated : Bool) : List Char × List Char → Option (ClassItem × List Char)
  | (name, ':' :: ']' :: rest) => (asciiClassNames.lookup (String.ofList name)).map fun c => (.ascii negated c, rest)
  | _ => none

private theorem asciiNamed_tailed (n : Bool) (h : Tailed s s') :
    ReadAlike never (asciiNamed n (s.span (· ≠ ':'))) (asciiNamed n (s'.span (· ≠ ':'))) := by
  rw [← takeSkipping_false, ← takeSkipping_false]
  rcases takeSkipping_tailed (v := false) (· ≠ ':') h with ⟨name, r, r', h₁, h₂, hr⟩ | ⟨-, h₁, h₂⟩
  · rw [h₁, h₂]
    unfold asciiNamed
    split
    · rename_i heq
      obtain ⟨rfl, rfl⟩ := Prod.mk.inj heq
      obtain ⟨q, rfl, hq⟩ := hr.cons
      obtain ⟨t, rfl, ht⟩ := hq.cons
      exact .known _ _ ht
    · rename_i hne
      split
      · rename_i heq
        obtain ⟨rfl, rfl⟩ := Prod.mk.inj heq
        obtain ⟨q, rfl, hq⟩ := hr.uncons (by decide)
        obtain ⟨t, rfl, -⟩ := hq.uncons (by decide)
        exact absurd rfl (hne _ _)
      · exact .neither
  · rw [← Prod.eta (takeSkipping _ _ s), ← Prod.eta (takeSkipping _ _ s'), h₁, h₂]
    exact .neither

private theorem readAsciiClass_colon (r : List Char) :
    readAsciiClass (':' :: r) = asciiNamed (classStart false r).1 ((classStart false r).2.span (· ≠ ':')) := by
  have hstart : classStart false r = match r with
      | '^' :: q => (true, q)
      | _ => (false, r) := by
    unfold classStart
    rw [skip_false]
    split <;> rfl
  rw [hstart]
  rfl

private theorem readAsciiClass_ne (hc : c ≠ ':') : readAsciiClass (c :: r) = none := by
  unfold readAsciiClass
  split
  · rename_i heq
    exact absurd (List.cons.inj heq).1 hc
  · rfl

private theorem readAsciiClass_tailed (h : Tailed s s') : ReadAlike never (readAsciiClass s) (readAsciiClass s') := by
  cases s with
  | nil =>
    rcases h.nil with rfl | rfl
    · exact .neither
    · exact .neither
  | cons c r =>
    obtain ⟨r', rfl, hr⟩ := h.cons
    by_cases hc : c = ':'
    · subst hc
      obtain ⟨hn, ht⟩ := classStart_tailed (v := false) hr
      rw [readAsciiClass_colon, readAsciiClass_colon, hn]
      exact asciiNamed_tailed _ ht
    · rw [readAsciiClass_ne hc, readAsciiClass_ne hc]
      exact .neither

/-! ### Items and ranges -/

private theorem readClassAtom_cons (hc : c ≠ '\\') : readClassAtom v (c :: r) = some (.literal ⟨c, false⟩, r) := by
  unfold readClassAtom
  split
  · contradiction
  · rename_i h
    exact absurd (List.cons.inj h).1 hc
  · rename_i h
    obtain ⟨rfl, rfl⟩ := List.cons.inj h
    rfl

private theorem readClassAtom_tailed (h : Tailed s s') :
    ReadAlike (Unclosed v s') (readClassAtom v s) (readClassAtom v s') := by
  cases s with
  | nil =>
    rcases h.nil with rfl | rfl
    · exact .late (.inl rfl)
    · exact .neither
  | cons c r =>
    obtain ⟨r', rfl, hr⟩ := h.cons
    by_cases hc : c = '\\'
    · subst hc
      exact (readEscape_tailed hr).mono fun _ _ => Unclosed.cons _
    · rw [readClassAtom_cons hc, readClassAtom_cons hc]
      exact .read _ hr

/-- A range between two ends. -/
def rangeTo : Expr → Expr × List Char → Option (ClassItem × List Char)
  | .literal a, (.literal b, rest) => if a.char ≤ b.char then some (.range a b, rest) else none
  | _, _ => none

/-- A range, behind its first end and the hyphen. -/
def rangeFrom (v : Bool) (lo : Expr) (s : List Char) : Option (ClassItem × List Char) :=
  match skip v s with
  | [] => none
  | r => readClassAtom v r >>= rangeTo lo

/-- An item, behind the expression that it is or begins with. -/
def itemFrom (v : Bool) (lo : Expr) (s : List Char) : Option (ClassItem × List Char) :=
  match skip v s with
  | [] => none
  | '-' :: r =>
    if lookPast v r = some ']' ∨ lookPast v r = some '-' then do return (← classItemOf? lo, '-' :: r)
    else rangeFrom v lo r
  | rest => do return (← classItemOf? lo, rest)

private theorem readClassItem_eq (v : Bool) (s : List Char) :
    readClassItem v s = readClassAtom v s >>= fun x => itemFrom v x.1 x.2 := rfl

/-- The range between two ends. -/
def rangeOf? : Expr → Expr → Option ClassItem
  | .literal a, .literal b => if a.char ≤ b.char then some (.range a b) else none
  | _, _ => none

private theorem rangeTo_eq (lo hi : Expr) (r : List Char) : rangeTo lo (hi, r) = (rangeOf? lo hi).map (·, r) := by
  cases lo with
  | literal a =>
    cases hi with
    | literal b =>
      simp only [rangeTo, rangeOf?]
      split <;> rfl
    | _ => rfl
  | _ => rfl

/-- The end of a range that is read late is at the end of the text. -/
private theorem rangeFrom_tailed (lo : Expr) (h : Tailed s s') :
    ReadAlike (fun _ r => r = []) (rangeFrom v lo s) (rangeFrom v lo s') := by
  have ht := tailed_skip v h
  unfold rangeFrom
  cases hs : skip v s with
  | nil =>
    rw [hs] at ht
    rcases ht.nil with hs' | hs'
    · rw [hs']
      show ReadAlike _ none (rangeTo lo (.literal ⟨')', false⟩, []))
      rw [rangeTo_eq]
      cases rangeOf? lo (.literal ⟨')', false⟩) with
      | none => exact .neither
      | some i => exact .late rfl
    · rw [hs']
      exact .neither
  | cons c r =>
    rw [hs] at ht
    obtain ⟨r', hs', -⟩ := ht.cons
    rw [hs'] at ht ⊢
    refine (readClassAtom_tailed ht).bind (fun hi q q' hq => ?_) fun hi q hl b hb => ?_
    · rw [rangeTo_eq, rangeTo_eq]
      exact .known _ _ hq
    · rw [rangeTo_eq] at hb
      obtain ⟨i, hi, rfl⟩ := Option.map_eq_some_iff.1 hb
      rcases hl with hq | ⟨rfl, -⟩
      · exact hq
      · cases lo <;> cases hi

private theorem classItem_known (e : Expr) (h : Tailed r r') {late : ClassItem → List Char → Prop} :
    ReadAlike late (do return (← classItemOf? e, r)) (do return (← classItemOf? e, r')) := by
  cases classItemOf? e with
  | none => exact .neither
  | some i => exact .read i h

private theorem itemFrom_plain {lo : Expr} (hs : skip v s = c :: r) (hc : c ≠ '-') :
    itemFrom v lo s = do return (← classItemOf? lo, c :: r) := by
  unfold itemFrom
  rw [hs]
  split
  · contradiction
  · rename_i heq
    exact absurd (List.cons.inj heq).1 hc
  · rfl

private theorem itemFrom_tailed (lo : Expr) (h : Tailed s s') :
    ReadAlike (fun _ r => r = [] ∨ r = [')']) (itemFrom v lo s) (itemFrom v lo s') := by
  have ht := tailed_skip v h
  cases hs : skip v s with
  | nil =>
    have hnone : itemFrom v lo s = none := by rw [itemFrom, hs]
    rw [hs] at ht
    rw [hnone]
    rcases ht.nil with hs' | hs'
    · rw [itemFrom_plain hs' (by decide)]
      cases classItemOf? lo with
      | none => exact .neither
      | some i => exact .late (.inr rfl)
    · rw [itemFrom, hs']
      exact .neither
  | cons c r =>
    rw [hs] at ht
    obtain ⟨r', hs', hr⟩ := ht.cons
    by_cases hc : c = '-'
    · subst hc
      rw [hs'] at ht
      simp only [itemFrom, hs, hs', lookPast_tailed hr (.inl rfl), lookPast_tailed hr (.inr rfl)]
      split
      · exact classItem_known lo ht
      · exact (rangeFrom_tailed lo hr).mono fun _ _ => Or.inl
    · rw [itemFrom_plain hs hc, itemFrom_plain hs' hc]
      rw [hs'] at ht
      exact classItem_known lo ht

private theorem readClassItem_tailed (h : Tailed s s') :
    ReadAlike (fun _ r => r = [] ∨ r = [')']) (readClassItem v s) (readClassItem v s') := by
  rw [readClassItem_eq, readClassItem_eq]
  refine (readClassAtom_tailed h).bind (fun lo r r' hr => itemFrom_tailed lo hr) fun lo r hl b hb => ?_
  rcases hl with rfl | ⟨rfl, q, rfl, -⟩
  · cases v <;> cases hb
  · have hs : skip v ('{' :: q) = '{' :: q := by cases v <;> rfl
    rw [itemFrom_plain hs (by decide)] at hb
    cases hb

/-! ### Whole classes -/

/-- How a class is read on at a character. -/
private theorem readClassFrom_cons {level : ClassLevel} {outer : List ClassLevel} (hs : skip v s = c :: r) :
    readClassFrom v level outer s =
      if c = '[' then
        match readAsciiClass r with
        | some (i, r') => readClassFrom v (level.push i) outer (tailOf r r')
        | none =>
          match openClass v r with
          | some (inner, r') => readClassFrom v inner (level :: outer) (tailOf r r')
          | none => none
      else if c = ']' then
        match outer with
        | [] => some (.bracketed level.negated level.set, r)
        | o :: outer => readClassFrom v (o.push (.bracketed level.negated level.set)) outer r
      else
        match if r.head? = some c then classOpOf? c else none with
        | some op => readClassFrom v (level.operate op) outer r.tail
        | none =>
          match readClassItem v (c :: r) with
          | some (i, r') => readClassFrom v (level.push i) outer (tailOf r r')
          | none => none := by
  rw [readClassFrom]
  split
  · rename_i h
    cases hs.symm.trans h
  · rename_i h
    obtain ⟨rfl, rfl⟩ := List.cons.inj (hs.symm.trans h)
    rfl

/-- Nothing closes a class in front of the parenthesis alone. -/
private theorem readClassFrom_stuck {level : ClassLevel} {outer : List ClassLevel}
    (hs : skip v s = [] ∨ skip v s = [')']) : readClassFrom v level outer s = none := by
  rcases hs with hs | hs
  · rw [readClassFrom]
    split
    · rfl
    · rename_i h
      cases hs.symm.trans h
  · have hi : readClassItem v [')'] = none := by
      rw [readClassItem_eq]
      cases v <;> rfl
    rw [readClassFrom_cons hs, if_neg (by decide), if_neg (by decide), hi]
    rfl

private theorem skip_paren (v : Bool) : skip v [')'] = [')'] := by cases v <;> decide +kernel

/-- Behind something that is read late, no class is closed. -/
private theorem readClassFrom_late {level : ClassLevel} {outer : List ClassLevel} (h : Tailed s s')
    (hr : r = [] ∨ r = [')']) : readClassFrom v level outer (tailOf s' r) = none := by
  rcases tailOf_late h hr with ht | ht
  · rw [ht]
    exact readClassFrom_stuck (.inl (by cases v <;> rfl))
  · rw [ht]
    exact readClassFrom_stuck (.inr (skip_paren v))

/-- The parenthesis makes no operation. -/
private theorem classOp_tailed (h : Tailed r r') :
    (if r'.head? = some c then classOpOf? c else none) = if r.head? = some c then classOpOf? c else none := by
  cases r with
  | nil =>
    rcases h.nil with rfl | rfl
    · by_cases hc : ')' = c
      · subst hc
        rfl
      · simp [hc]
    · rfl
  | cons d q =>
    obtain ⟨q', rfl, -⟩ := h.cons
    rfl

private theorem readClassFrom_tailed (level : ClassLevel) (outer : List ClassLevel) (h : Tailed s s') :
    ReadAlike never (readClassFrom v level outer s) (readClassFrom v level outer s') := by
  fun_induction readClassFrom v level outer s generalizing s' with
  | case1 level outer s hs =>
    rw [readClassFrom_stuck (skip_nil_tailed h hs).symm]
    exact .neither
  | case2 level outer s r i q hi hs _ _ _ ih =>
    -- an ASCII class
    obtain ⟨r', hs', hr⟩ := skip_cons_tailed h hs
    have ha := readAsciiClass_tailed hr
    rw [hi] at ha
    obtain ⟨q', hi', hq⟩ := ha.of_some
    rw [readClassFrom_cons hs', if_pos rfl, hi']
    exact ih (tailOf_tailed hr hq)
  | case3 level outer s r hi inner q ho hs _ _ _ ih =>
    -- a class inside
    obtain ⟨r', hs', hr⟩ := skip_cons_tailed h hs
    have ha := readAsciiClass_tailed hr
    rw [hi] at ha
    have hc := openClass_tailed (v := v) hr
    rw [ho] at hc
    obtain ⟨q', ho', hq⟩ := hc.of_some
    rw [readClassFrom_cons hs', if_pos rfl, ha.of_never, ho']
    exact ih (tailOf_tailed hr hq)
  | case4 level outer s r hi ho hs =>
    -- a class inside that cannot be read
    obtain ⟨r', hs', hr⟩ := skip_cons_tailed h hs
    have ha := readAsciiClass_tailed hr
    rw [hi] at ha
    have hc := openClass_tailed (v := v) hr
    rw [ho] at hc
    rw [readClassFrom_cons hs', if_pos rfl, ha.of_never]
    obtain ho' | ⟨inner, q, ho', hq⟩ := hc.of_none
    · rw [ho']
      exact .neither
    · rw [ho']
      dsimp only
      rw [readClassFrom_late hr (.inr hq)]
      exact .neither
  | case5 level s r hs _ _ hne =>
    -- the bracket that closes the outermost class
    obtain ⟨r', hs', hr⟩ := skip_cons_tailed h hs
    rw [readClassFrom_cons hs', if_neg hne, if_pos rfl]
    exact .read _ hr
  | case6 level s r o outer hs _ _ hne ih =>
    -- a bracket that closes a class inside
    obtain ⟨r', hs', hr⟩ := skip_cons_tailed h hs
    rw [readClassFrom_cons hs', if_neg hne, if_pos rfl]
    exact ih hr
  | case7 level outer s c r hs _ _ h₁ h₂ op hop ih =>
    -- an operation
    obtain ⟨r', hs', hr⟩ := skip_cons_tailed h hs
    rw [dite_eq_ite] at hop
    rw [readClassFrom_cons hs', if_neg h₁, if_neg h₂, classOp_tailed hr, hop]
    have hr : Tailed r.tail r'.tail := by
      cases r with
      | nil => cases hop
      | cons d q =>
        obtain ⟨q', rfl, hq⟩ := hr.cons
        exact hq
    exact ih hr
  | case8 level outer s c r hs _ _ h₁ h₂ hop i q hi _ ih =>
    -- an item
    obtain ⟨r', hs', hr⟩ := skip_cons_tailed h hs
    rw [dite_eq_ite] at hop
    have ha := readClassItem_tailed (v := v) (hs ▸ hs' ▸ tailed_skip v h : Tailed (c :: r) (c :: r'))
    rw [hi] at ha
    obtain ⟨q', hi', hq⟩ := ha.of_some
    rw [readClassFrom_cons hs', if_neg h₁, if_neg h₂, classOp_tailed hr, hop, hi']
    exact ih (tailOf_tailed hr hq)
  | case9 level outer s c r hs _ _ h₁ h₂ hop hi =>
    -- an item that cannot be read
    obtain ⟨r', hs', hr⟩ := skip_cons_tailed h hs
    rw [dite_eq_ite] at hop
    have ha := readClassItem_tailed (v := v) (hs ▸ hs' ▸ tailed_skip v h : Tailed (c :: r) (c :: r'))
    rw [hi] at ha
    rw [readClassFrom_cons hs', if_neg h₁, if_neg h₂, classOp_tailed hr, hop]
    obtain hi' | ⟨i, q, hi', hq⟩ := ha.of_none
    · rw [hi']
      exact .neither
    · rw [hi']
      dsimp only
      rw [readClassFrom_late hr hq]
      exact .neither

theorem readClass_tailed (h : Tailed s s') : ReadAlike never (readClass v s) (readClass v s') := by
  unfold readClass
  cases hc : openClass v s with
  | some o =>
    have ho := openClass_tailed (v := v) h
    rw [hc] at ho
    obtain ⟨r', hc', hr⟩ := ho.of_some
    rw [hc']
    exact readClassFrom_tailed _ [] hr
  | none =>
    have ho := openClass_tailed (v := v) h
    rw [hc] at ho
    rcases ho.of_none with hc' | ⟨level, r, hc', rfl⟩
    · rw [hc']
      exact .neither
    · rw [hc']
      dsimp only
      rw [readClassFrom_stuck (.inr (skip_paren v))]
      exact .neither

end Delimited.Pattern
