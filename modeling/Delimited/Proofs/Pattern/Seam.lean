import Delimited.Proofs.Pattern.Reading

/-!
# The seam behind a source

The source of a pattern is read with a closing parenthesis behind it. Whatever is read of a text is read alike with the
parenthesis behind it (`ReadAlike`), except for what the text itself is too short for, which is read late. This module
says so of blanks and comments, of counts and of escapes. Only a comment takes the parenthesis away.
-/

namespace Delimited.Pattern

/-- The second text is the first one with a closing parenthesis behind it; or both are at their end, since a comment goes
on over the parenthesis. -/
inductive Tailed : List Char → List Char → Prop
  | closing (s : List Char) : Tailed s (s ++ [')'])
  | swallowed : Tailed [] []

/-- What is read of a text, and of the text with the parenthesis behind it: the same, with the rests of both; or nothing of
the first text, and of the second one something of which `late` holds. -/
inductive ReadAlike {α : Type} (late : α → List Char → Prop) :
    Option (α × List Char) → Option (α × List Char) → Prop
  | read (a : α) {r r' : List Char} (h : Tailed r r') : ReadAlike late (some (a, r)) (some (a, r'))
  | neither : ReadAlike late none none
  | late {a : α} {r : List Char} (h : late a r) : ReadAlike late none (some (a, r))

/-- Nothing is read late. -/
def never {α : Type} (_ : α) (_ : List Char) : Prop := False

variable {s s' r r' : List Char} {c : Char} {v : Bool}

namespace Tailed

theorem nil (h : Tailed [] s') : s' = [')'] ∨ s' = [] := by
  generalize hs : [] = s at h
  cases h with
  | closing => exact Or.inl (by rw [← hs]; rfl)
  | swallowed => exact Or.inr rfl

theorem cons (h : Tailed (c :: r) s') : ∃ r', s' = c :: r' ∧ Tailed r r' := by
  cases h with
  | closing => exact ⟨r ++ [')'], rfl, .closing r⟩

theorem uncons (h : Tailed s (c :: r')) (hc : c ≠ ')') : ∃ r, s = c :: r ∧ Tailed r r' := by
  cases s with
  | nil =>
    rcases h.nil with h | h
    · exact absurd (List.cons.inj h).1 hc
    · cases h
  | cons a r =>
    obtain ⟨q, hq, hr⟩ := h.cons
    obtain ⟨rfl, rfl⟩ := List.cons.inj hq
    exact ⟨r, rfl, hr⟩

private theorem dropWhile {p : Char → Bool} (hp : p ')' = false) (h : Tailed s s') :
    Tailed (s.dropWhile p) (s'.dropWhile p) := by
  induction s generalizing s' with
  | nil =>
    rcases h.nil with rfl | rfl
    · simpa [hp] using Tailed.closing []
    · exact h
  | cons c r ih =>
    obtain ⟨r', rfl, hr⟩ := h.cons
    rw [List.dropWhile_cons, List.dropWhile_cons]
    split
    · exact ih hr
    · exact h

end Tailed

namespace ReadAlike

variable {α β : Type} {late : α → List Char → Prop} {late' : β → List Char → Prop} {x x' : Option (α × List Char)}

theorem known (o : Option β) (f : β → α) (h : Tailed r r') :
    ReadAlike late (o.map fun b => (f b, r)) (o.map fun b => (f b, r')) := by
  cases o with
  | some b => exact .read (f b) h
  | none => exact .neither

theorem of_some {a : α} (h : ReadAlike late (some (a, r)) x') : ∃ r', x' = some (a, r') ∧ Tailed r r' := by
  cases h with
  | read _ h => exact ⟨_, rfl, h⟩

theorem of_none (h : ReadAlike late none x') : x' = none ∨ ∃ a r, x' = some (a, r) ∧ late a r := by
  cases h with
  | neither => exact Or.inl rfl
  | late h => exact Or.inr ⟨_, _, rfl, h⟩

theorem of_never (h : ReadAlike never (none : Option (α × List Char)) x') : x' = none := by
  rcases h.of_none with h | ⟨_, _, -, hf⟩
  · exact h
  · exact hf.elim

theorem map (h : ReadAlike late x x') (f : α → β) (hf : ∀ a r, late a r → late' (f a) r) :
    ReadAlike late' (x.map fun y => (f y.1, y.2)) (x'.map fun y => (f y.1, y.2)) := by
  cases h with
  | read a h => exact .read (f a) h
  | neither => exact .neither
  | late h => exact .late (hf _ _ h)

theorem mono {late' : α → List Char → Prop} (h : ReadAlike late x x') (hl : ∀ a r, late a r → late' a r) :
    ReadAlike late' x x' := by
  cases h with
  | read a h => exact .read a h
  | neither => exact .neither
  | late h => exact .late (hl _ _ h)

/-- Reading goes on behind what has been read. -/
theorem bind {f : α × List Char → Option (β × List Char)} (h : ReadAlike late x x')
    (hf : ∀ a r r', Tailed r r' → ReadAlike late' (f (a, r)) (f (a, r')))
    (hl : ∀ a r, late a r → ∀ b, f (a, r) = some b → late' b.1 b.2) : ReadAlike late' (x >>= f) (x' >>= f) := by
  cases h with
  | read a h => exact hf a _ _ h
  | neither => exact .neither
  | @late a r h =>
    cases hb : f (a, r) with
    | none => simpa [hb] using ReadAlike.neither
    | some b => simpa [hb] using ReadAlike.late (hl a r h b hb)

end ReadAlike

/-! ### Ends of texts -/

theorem tailOf_nil (s : List Char) : tailOf s [] = [] := by simp [tailOf]

theorem tailOf_tailed (h : Tailed s s') (hr : Tailed r r') : Tailed (tailOf s r) (tailOf s' r') := by
  cases h with
  | swallowed =>
    have hnil (q : List Char) : tailOf [] q = [] := by simp [tailOf]
    rw [hnil, hnil]
    exact .swallowed
  | closing =>
    cases hr with
    | swallowed =>
      rw [tailOf_nil, tailOf_nil]
      exact .swallowed
    | closing =>
      have htail : tailOf (s ++ [')']) (r ++ [')']) = tailOf s r ++ [')'] := by
        unfold tailOf
        rw [List.length_append, List.length_append, Nat.add_sub_add_right, List.drop_append_of_le_length (Nat.sub_le _ _)]
      rw [htail]
      exact .closing _

/-- What is left at the end of the second text is the parenthesis, or nothing. -/
theorem tailOf_late (h : Tailed s s') (hr : r = [] ∨ r = [')']) : tailOf s' r = [] ∨ tailOf s' r = [')'] := by
  rcases hr with rfl | rfl
  · exact Or.inl (tailOf_nil _)
  · cases h with
    | swallowed => exact Or.inl rfl
    | closing => exact Or.inr (tailOf_append s [')'])

/-! ### Blanks and comments -/

private theorem tailed_skipComments (b : Bool) (s : List Char) :
    Tailed (skipComments b s) (skipComments b (s ++ [')'])) := by
  induction s generalizing b with
  | nil =>
    cases b with
    | true => exact .swallowed
    | false => exact .closing []
  | cons c r ih =>
    simp only [List.cons_append, skipComments]
    split
    · exact ih _
    split
    · exact ih _
    split
    · exact ih _
    · exact .closing (c :: r)

theorem tailed_skip (v : Bool) (h : Tailed s s') : Tailed (skip v s) (skip v s') := by
  cases h with
  | swallowed => cases v <;> exact .swallowed
  | closing =>
    cases v with
    | false => exact .closing s
    | true => exact tailed_skipComments false s

/-- At the end of the text there is the parenthesis, unless a comment has taken it. -/
theorem skip_nil_tailed (h : Tailed s s') (hs : skip v s = []) : skip v s' = [')'] ∨ skip v s' = [] :=
  Tailed.nil (hs ▸ tailed_skip v h)

theorem skip_cons_tailed (h : Tailed s s') (hs : skip v s = c :: r) : ∃ r', skip v s' = c :: r' ∧ Tailed r r' :=
  Tailed.cons (hs ▸ tailed_skip v h)

private theorem go_append (b : Bool) (s : List Char) :
    lookPast.go b (s ++ [')']) = (lookPast.go b s).or (some ')') := by
  induction s generalizing b with
  | nil => cases b <;> decide +kernel
  | cons c r ih =>
    simp only [List.cons_append, lookPast.go]
    split
    · exact ih b
    split
    · exact ih true
    · rfl

/-- With a parenthesis behind the text, the look past blanks sees it or what it sees without it. -/
private theorem lookPast_append (v : Bool) (s : List Char) :
    lookPast v (s ++ [')']) = (lookPast v s).or (some ')') ∨
      lookPast v (s ++ [')']) = some ')' ∧ ∃ c, lookPast v s = some c ∧ (isBlank c = true ∨ c = '#') := by
  unfold lookPast
  cases v with
  | false =>
    refine Or.inl ?_
    cases s <;> rfl
  | true =>
    simp only [if_true, go_append]
    cases hg : lookPast.go false s with
    | some c => exact Or.inl rfl
    | none =>
      cases s with
      | nil => exact Or.inl rfl
      | cons c r =>
        refine Or.inr ⟨rfl, c, rfl, ?_⟩
        rw [lookPast.go] at hg
        grind

/-- The look past blanks sees a closing bracket, or a hyphen, in both texts or in none. -/
theorem lookPast_tailed (h : Tailed s s') (hc : c = ']' ∨ c = '-') : lookPast v s' = some c ↔ lookPast v s = some c := by
  cases h with
  | swallowed => rfl
  | closing =>
    have hne : ')' ≠ c := by rcases hc with rfl | rfl <;> decide
    rcases lookPast_append v s with h | ⟨h, a, ha, hb⟩
    · rw [h]
      cases lookPast v s <;> simp [hne]
    · have hac : a ≠ c := by
        rintro rfl
        revert hb
        rcases hc with rfl | rfl <;> decide +kernel
      simp [h, ha, hne, hac]

/-- The same is taken from both texts, or all of them is. -/
theorem takeSkipping_tailed (p : Char → Bool) (h : Tailed s s') :
    (∃ taken r r', takeSkipping v p s = (taken, r) ∧ takeSkipping v p s' = (taken, r') ∧ Tailed r r') ∨
      p ')' = true ∧ (takeSkipping v p s).2 = [] ∧ (takeSkipping v p s').2 = [] := by
  fun_induction takeSkipping v p s generalizing s' with
  | case1 =>
    rcases h.nil with rfl | rfl
    · rw [takeSkipping]
      cases hp : p ')' with
      | true => exact Or.inr ⟨rfl, rfl, by cases v <;> simp [skip, skipComments, takeSkipping]⟩
      | false => exact Or.inl ⟨[], [], [')'], rfl, rfl, h⟩
    · exact Or.inl ⟨[], [], [], rfl, by rw [takeSkipping], h⟩
  | case2 c r hc _ taken rest hr ih =>
    obtain ⟨r', rfl, hr'⟩ := h.cons
    rw [takeSkipping, if_pos hc]
    rcases ih (tailed_skip v hr') with ⟨t, q, q', h₁, h₂, hq⟩ | ⟨hp, h₁, h₂⟩
    · cases hr.symm.trans h₁
      exact Or.inl ⟨c :: taken, rest, q', rfl, by rw [h₂], hq⟩
    · rw [hr] at h₁
      exact Or.inr ⟨hp, h₁, h₂⟩
  | case3 c r hc =>
    obtain ⟨r', rfl, hr'⟩ := h.cons
    rw [takeSkipping, if_neg hc]
    exact Or.inl ⟨[], c :: r, c :: r', rfl, rfl, h⟩

/-- What stands up to a closing brace is read alike, if what is behind the brace is. -/
theorem readAlike_braced {α : Type} {late : α → List Char → Prop} (p : Char → Bool)
    {f : List Char → List Char → Option (α × List Char)} (h : Tailed s s')
    (hf : ∀ taken r r', Tailed r r' → ReadAlike late (f taken r) (f taken r')) :
    ReadAlike late (match takeSkipping v p s with | (taken, '}' :: r) => f taken r | _ => none)
      (match takeSkipping v p s' with | (taken, '}' :: r) => f taken r | _ => none) := by
  rcases takeSkipping_tailed (v := v) p h with ⟨taken, r, r', h₁, h₂, hr⟩ | ⟨-, h₁, h₂⟩
  · rw [h₁, h₂]
    split
    · rename_i heq
      obtain ⟨rfl, rfl⟩ := Prod.mk.inj heq
      obtain ⟨q, rfl, hq⟩ := hr.cons
      exact hf _ _ _ hq
    · rename_i hne
      split
      · rename_i heq
        obtain ⟨rfl, rfl⟩ := Prod.mk.inj heq
        obtain ⟨_, rfl, -⟩ := hr.uncons (by decide)
        exact absurd rfl (hne _ _)
      · exact .neither
  · rw [← Prod.eta (takeSkipping v p s), ← Prod.eta (takeSkipping v p s'), h₁, h₂]
    exact .neither

/-! ### Numbers and escapes -/

/-- A count is read alike. -/
theorem readCount_tailed (h : Tailed s s') : ReadAlike never (readCount v s) (readCount v s') := by
  unfold readCount
  rcases takeSkipping_tailed (v := v) Char.isDigit (h.dropWhile (p := isBlank) (by decide +kernel)) with
    ⟨ds, r, r', h₁, h₂, hr⟩ | ⟨hp, -⟩
  · simp only [h₁, h₂]
    split
    · exact .neither
    · cases r with
      | nil =>
        rcases hr.nil with rfl | rfl
        · exact .read _ (.closing [])
        · exact .read _ .swallowed
      | cons c r =>
        obtain ⟨q, rfl, hq⟩ := hr.cons
        refine .read _ ?_
        split
        · exact tailed_skip v (hr.dropWhile (by decide +kernel))
        · exact hr
  · exact absurd hp (by decide)

private theorem fixed_tailed (n : Nat) (h : Tailed s s') :
    ReadAlike never (readHex.fixed v n s) (readHex.fixed v n s') := by
  induction n generalizing s s' with
  | zero => exact .read [] h
  | succ n ih =>
    cases s with
    | nil =>
      rcases h.nil with rfl | rfl
      · exact .neither
      · exact .neither
    | cons c r =>
      obtain ⟨r', rfl, hr⟩ := h.cons
      rw [readHex.fixed, readHex.fixed]
      split
      · exact (ih (tailed_skip v hr)).map _ fun _ _ => id
      · exact .neither

private theorem readHex_fixed {w : Nat} (hs : ∀ r, skip v s ≠ '{' :: r) :
    readHex v w s = (readHex.fixed v w (skip v s)).bind fun x =>
      (charOfCode? (numberInBase 16 x.1)).map fun c => (⟨c, w = 2⟩, x.2) := by
  unfold readHex
  split
  · rename_i h
    exact absurd h (hs _)
  · split
    · rename_i h
      rw [h, Option.bind_some]
    · rename_i h
      rw [h, Option.bind_none]

private theorem readHex_braced {w : Nat} (hs : skip v s = '{' :: r) :
    readHex v w s = match takeSkipping v (fun c => (hexValue? c).isSome) (skip v r) with
      | (ds, '}' :: rest) =>
        (if ds.isEmpty then none else charOfCode? (numberInBase 16 ds)).map fun c => (⟨c, false⟩, skip v rest)
      | _ => none := by
  simp only [readHex, hs]
  rcases takeSkipping v (fun c => (hexValue? c).isSome) (skip v r) with ⟨ds, rest⟩
  split
  · rename_i heq
    obtain ⟨rfl, rfl⟩ := Prod.mk.inj heq
    rfl
  · rename_i hne
    split
    · rename_i heq
      obtain ⟨rfl, rfl⟩ := Prod.mk.inj heq
      cases ds with
      | nil => rfl
      | cons d ds => exact absurd rfl (hne _ _ _)
    · rfl

private theorem readHex_tailed (w : Nat) (h : Tailed s s') : ReadAlike never (readHex v w s) (readHex v w s') := by
  have ht := tailed_skip v h
  by_cases hb : ∃ r, skip v s = '{' :: r
  · obtain ⟨r, hb⟩ := hb
    rw [hb] at ht
    obtain ⟨q, hb', hq⟩ := ht.cons
    rw [readHex_braced hb, readHex_braced hb']
    exact readAlike_braced _ (tailed_skip v hq) fun _ _ _ hr => .known _ _ (tailed_skip v hr)
  · have hne : ∀ r, skip v s ≠ '{' :: r := fun r hr => hb ⟨r, hr⟩
    have hne' : ∀ r, skip v s' ≠ '{' :: r := by
      intro r hr
      rw [hr] at ht
      obtain ⟨q, hq, -⟩ := ht.uncons (by decide)
      exact hne q hq
    rw [readHex_fixed hne, readHex_fixed hne']
    exact (fixed_tailed w ht).bind (fun _ _ _ hr => .known _ _ hr) fun _ _ h => h.elim

private theorem readProperty_letter {n : Bool} (hs : skip v s = c :: r) (h₁ : c ≠ '\\') (h₂ : c ≠ '{') :
    readProperty v n s = some (.property n (.letter c), skip v r) := by
  unfold readProperty
  rw [hs]
  split
  · rename_i h
    cases h
  · rename_i h
    exact absurd (List.cons.inj h).1 h₁
  · rename_i h
    exact absurd (List.cons.inj h).1 h₂
  · rename_i h
    obtain ⟨rfl, rfl⟩ := List.cons.inj h
    rfl

/-- The parenthesis itself may be read as the name of a property. -/
theorem readProperty_tailed (n : Bool) (h : Tailed s s') :
    ReadAlike (fun _ r => r = []) (readProperty v n s) (readProperty v n s') := by
  have ht := tailed_skip v h
  cases hs : skip v s with
  | nil =>
    rw [hs] at ht
    have hnone : readProperty v n s = none := by rw [readProperty, hs]
    rcases ht.nil with hs' | hs'
    · rw [hnone, readProperty_letter hs' (by decide) (by decide)]
      refine .late ?_
      cases v <;> rfl
    · rw [hnone, readProperty, hs']
      exact .neither
  | cons c r =>
    rw [hs] at ht
    obtain ⟨q, hs', hq⟩ := ht.cons
    by_cases h₁ : c = '\\'
    · subst h₁
      simp only [readProperty, hs, hs']
      exact .neither
    by_cases h₂ : c = '{'
    · subst h₂
      simp only [readProperty, hs, hs']
      exact readAlike_braced _ (tailed_skip v hq) fun _ _ _ hr => .read _ hr
    · rw [readProperty_letter hs h₁ h₂, readProperty_letter hs' h₁ h₂]
      exact .read _ (tailed_skip v hq)

/-- What is read late of an escape: something at the end of the text, or a boundary in front of braces that never close. -/
def Unclosed (v : Bool) (s : List Char) (e : Expr) (r : List Char) : Prop :=
  r = [] ∨ e = .anchor .wordBoundary ∧ ∃ q, r = '{' :: q ∧ skip v q = [')'] ∧ r <:+ s

theorem Unclosed.cons {e : Expr} (c : Char) (h : Unclosed v s e r) : Unclosed v (c :: s) e r := by
  rcases h with h | ⟨he, q, hr, hq, hs⟩
  · exact Or.inl h
  · exact Or.inr ⟨he, q, hr, hq, hs.trans (List.suffix_cons c s)⟩

private theorem readBoundary_plain (hs : ∀ r, s ≠ '{' :: r) :
    readBoundary v s = some (.anchor .wordBoundary, s) := by
  unfold readBoundary
  split
  · exact absurd rfl (hs _)
  · rfl

private theorem readBoundary_tailed (h : Tailed s s') :
    ReadAlike (Unclosed v s') (readBoundary v s) (readBoundary v s') := by
  by_cases hb : ∃ r, s = '{' :: r
  · obtain ⟨r, rfl⟩ := hb
    obtain ⟨r', rfl, hr⟩ := h.cons
    have ht := tailed_skip v hr
    simp only [readBoundary]
    cases hs : skip v r with
    | nil =>
      rw [hs] at ht
      rcases ht.nil with hs' | hs'
      · rw [hs']
        exact .late (.inr ⟨rfl, r', rfl, hs', List.suffix_rfl⟩)
      · rw [hs']
        exact .neither
    | cons c q =>
      rw [hs] at ht
      obtain ⟨q', hs', hq⟩ := ht.cons
      rw [hs'] at ht ⊢
      dsimp only
      split
      · exact readAlike_braced _ ht fun _ _ _ hr => .known _ _ hr
      · exact .read _ h
  · have hne : ∀ r, s ≠ '{' :: r := fun r hr => hb ⟨r, hr⟩
    have hne' : ∀ r, s' ≠ '{' :: r := by
      rintro r rfl
      obtain ⟨q, hq, -⟩ := h.uncons (by decide)
      exact hne q hq
    rw [readBoundary_plain hne, readBoundary_plain hne']
    exact .read _ h

/-- An escape is read alike, but for one that is read late. -/
theorem readEscape_tailed (h : Tailed s s') :
    ReadAlike (Unclosed v s') (readEscape v s) (readEscape v s') := by
  cases s with
  | nil =>
    rcases h.nil with rfl | rfl
    · exact .late (.inl rfl)
    · exact .neither
  | cons c r =>
    obtain ⟨r', rfl, hr⟩ := h.cons
    simp only [readEscape]
    split
    case h_1 | h_2 | h_3 => exact (readHex_tailed _ hr).map _ fun _ _ h => h.elim
    case h_4 | h_5 => exact (readProperty_tailed _ hr).mono fun _ _ => Or.inl
    case h_20 => exact (readBoundary_tailed hr).mono fun _ _ => Unclosed.cons _
    case h_24 =>
      split
      · exact .read _ hr
      · exact .neither
    all_goals exact .read _ hr

end Delimited.Pattern
