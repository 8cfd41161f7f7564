/-!
# Sets of characters

A `CharSet` is a set of code points, kept as closed ranges that ascend and do not touch. Everything is built from two
operations: `CharSet.insertRange`, which puts a range into its place and swallows what it meets, and `CharSet.compl`,
which turns gaps into ranges. The key facts are `ascending_ofRanges` and `contains_ofRanges`: a set made of ranges is in
order and holds what the ranges cover.
-/

namespace Delimited

/-- A set of code points, as closed ranges in ascending order. -/
structure CharSet where
  ranges : List (Nat × Nat)
deriving DecidableEq, Repr

namespace CharSet

/-- The greatest code point. -/
def maxCode : Nat := 0x10FFFF

instance : EmptyCollection CharSet := ⟨⟨[]⟩⟩
instance : Inhabited CharSet := ⟨∅⟩

/-- Whether a code point lies in one of the ranges; the search ends at the first range above it. -/
def contains (s : CharSet) (n : Nat) : Bool :=
  go s.ranges
where
  go : List (Nat × Nat) → Bool
    | [] => false
    | (lo, hi) :: rest => if n < lo then false else if n ≤ hi then true else go rest

/-- Whether the set holds no code point. -/
def isEmpty (s : CharSet) : Bool := s.ranges.isEmpty

/-- The set of one code point. -/
def singleton (n : Nat) : CharSet := ⟨[(n, n)]⟩

/-- The set of one character. -/
def ofChar (c : Char) : CharSet := singleton c.toNat

@[simp] theorem contains_singleton (m n : Nat) : (singleton m).contains n = (n == m) := by
  simp only [singleton, contains, contains.go]
  by_cases h : n = m
  · simp [h]
  · split
    · simp [h]
    · have : ¬ n ≤ m := by omega
      simp [this, h]

/-! ### Building sets -/

/-- Puts the range from `lo` to `hi` into a list of ascending ranges, and joins it with those that it meets. -/
def insertRange (lo hi : Nat) : List (Nat × Nat) → List (Nat × Nat)
  | [] => [(lo, hi)]
  | (a, b) :: rest =>
    if hi + 1 < a then (lo, hi) :: (a, b) :: rest
    else if b + 1 < lo then (a, b) :: insertRange lo hi rest
    else insertRange (min lo a) (max hi b) rest

/-- The set covered by closed ranges that are given in any order; a range whose ends are swapped covers nothing. -/
def ofRanges (l : List (Nat × Nat)) : CharSet :=
  ⟨l.foldr (fun r acc => if r.1 ≤ r.2 then insertRange r.1 r.2 acc else acc) []⟩

/-- What lies in either set. The ranges are merged first: `insertRange` then works at the front of the list. -/
def union (s t : CharSet) : CharSet := ofRanges (s.ranges.merge t.ranges fun r q => r.1 ≤ q.1)

instance : Union CharSet := ⟨union⟩

/-- The gaps between ascending ranges, from `next` up to the greatest code point. -/
private def gapsFrom (next : Nat) : List (Nat × Nat) → List (Nat × Nat)
  | [] => if next ≤ maxCode then [(next, maxCode)] else []
  | (a, b) :: rest => if next < a then (next, a - 1) :: gapsFrom (b + 1) rest else gapsFrom (b + 1) rest

/-- What does not lie in the set. -/
def compl (s : CharSet) : CharSet := ⟨gapsFrom 0 s.ranges⟩

/-- What lies in both sets. -/
def inter (s t : CharSet) : CharSet := (s.compl ∪ t.compl).compl

instance : Inter CharSet := ⟨inter⟩

/-- What lies in the first set and not in the second. -/
def diff (s t : CharSet) : CharSet := s ∩ t.compl

instance : SDiff CharSet := ⟨diff⟩

/-- What lies in exactly one of the sets. -/
def symmDiff (s t : CharSet) : CharSet := (s \ t) ∪ (t \ s)

/-- The set of the code points listed. -/
def ofList (l : List Nat) : CharSet := ofRanges (l.map fun n => (n, n))

/-- The union of all the sets. -/
def unions (l : List CharSet) : CharSet := l.foldr union ∅

/-! ### Written form

Tables of code points are written in hexadecimal, separated by blanks and line breaks: `41-5A 5F` is a range and a
single code point.
-/

/-- The value of an upper-case hexadecimal digit, or `none`. -/
def hexDigit? (c : Char) : Option Nat :=
  if '0' ≤ c ∧ c ≤ '9' then some (c.toNat - '0'.toNat)
  else if 'A' ≤ c ∧ c ≤ 'F' then some (c.toNat - 'A'.toNat + 10)
  else none

/-- The range up to `n`, if a number has been read; it begins at `start`, or holds `n` alone. -/
private def tableRange (start n : Option Nat) : List (Nat × Nat) :=
  match n with
  | some n => [(start.getD n, n)]
  | none => []

/-- Reads a table of code points: `start` is the lower end of a range whose upper end is being read, and `n` the number
read so far. -/
private def readTable (start n : Option Nat) : List Char → List (Nat × Nat)
  | [] => tableRange start n
  | c :: rest =>
    match hexDigit? c with
    | some d => readTable start (some (16 * n.getD 0 + d)) rest
    | none => if c = '-' then readTable n none rest else tableRange start n ++ readTable none none rest

/-- The set written in a table. -/
def ofTable (s : String) : CharSet := ofRanges (readTable none none s.toList)

/-! ### Membership -/

/-- Membership in one range. -/
private def InRange (n : Nat) (r : Nat × Nat) : Prop := r.1 ≤ n ∧ n ≤ r.2

/-- Ranges that ascend and do not touch. -/
def Ascending (l : List (Nat × Nat)) : Prop :=
  (∀ r ∈ l, r.1 ≤ r.2) ∧ l.Pairwise fun r s => r.2 + 1 < s.1

private theorem go_iff {n : Nat} {l : List (Nat × Nat)} (h : Ascending l) :
    contains.go n l = true ↔ ∃ r ∈ l, InRange n r := by
  induction l with
  | nil => simp [contains.go]
  | cons r l ih =>
    obtain ⟨h₁, h₂⟩ := h
    rw [List.pairwise_cons] at h₂
    have ih' := ih ⟨fun s hs => h₁ s (by simp [hs]), h₂.2⟩
    simp only [contains.go, List.mem_cons, exists_eq_or_imp, InRange]
    split
    · rename_i hlt
      simp only [Bool.false_eq_true, false_iff, not_or, not_exists, not_and]
      have := h₁ r (by simp)
      refine ⟨fun h => absurd h (by omega), fun s hs h => ?_⟩
      have := h₂.1 s hs
      omega
    · split
      · rename_i h₃ h₄
        simp only [true_iff]
        exact Or.inl ⟨by omega, h₄⟩
      · rename_i h₃ h₄
        rw [ih']
        constructor
        · exact Or.inr
        · rintro (h | h)
          · omega
          · exact h

private theorem mem_insertRange_ranges {n lo hi : Nat} (hle : lo ≤ hi) {l : List (Nat × Nat)}
    (h : ∀ r ∈ l, r.1 ≤ r.2) :
    (∃ r ∈ insertRange lo hi l, InRange n r) ↔ (lo ≤ n ∧ n ≤ hi) ∨ ∃ r ∈ l, InRange n r := by
  induction l generalizing lo hi with
  | nil => simp [insertRange, InRange]
  | cons r l ih =>
    have hr := h r (by simp)
    have hl : ∀ s ∈ l, s.1 ≤ s.2 := fun s hs => h s (by simp [hs])
    unfold insertRange
    split
    · simp [InRange]
    · split
      · simp only [List.mem_cons, exists_eq_or_imp, ih hle hl]
        exact or_left_comm
      · rw [ih (by omega) hl]
        simp only [List.mem_cons, exists_eq_or_imp, InRange]
        constructor
        · rintro (h | h)
          · rcases Nat.lt_or_ge n lo with h₁ | h₁
            · exact Or.inr (Or.inl (by omega))
            · rcases Nat.lt_or_ge hi n with h₂ | h₂
              · exact Or.inr (Or.inl (by omega))
              · exact Or.inl ⟨h₁, h₂⟩
          · exact Or.inr (Or.inr h)
        · rintro (h | h | h)
          · exact Or.inl (by omega)
          · exact Or.inl (by omega)
          · exact Or.inr h

private theorem fst_insertRange {lo hi k : Nat} {l : List (Nat × Nat)} (hk : k < lo) (h : ∀ r ∈ l, k < r.1) :
    ∀ r ∈ insertRange lo hi l, k < r.1 := by
  induction l generalizing lo hi with
  | nil => simp [insertRange]; exact hk
  | cons r l ih =>
    have hr := h r (by simp)
    have hl : ∀ s ∈ l, k < s.1 := fun s hs => h s (by simp [hs])
    unfold insertRange
    split
    · intro s hs
      rcases List.mem_cons.1 hs with rfl | hs
      · exact hk
      · exact h s hs
    · split
      · intro s hs
        rcases List.mem_cons.1 hs with rfl | hs
        · exact hr
        · exact ih hk hl s hs
      · exact ih (by omega) hl

private theorem ascending_insertRange {lo hi : Nat} (hle : lo ≤ hi) {l : List (Nat × Nat)} (h : Ascending l) :
    Ascending (insertRange lo hi l) := by
  induction l generalizing lo hi with
  | nil => simp [insertRange, Ascending, hle]
  | cons r l ih =>
    obtain ⟨h₁, h₂⟩ := h
    rw [List.pairwise_cons] at h₂
    have hr := h₁ r (by simp)
    have hl : Ascending l := ⟨fun s hs => h₁ s (by simp [hs]), h₂.2⟩
    unfold insertRange
    split
    · rename_i hlt
      refine ⟨?_, ?_⟩
      · intro s hs
        rcases List.mem_cons.1 hs with rfl | hs
        · exact hle
        · exact h₁ s hs
      · rw [List.pairwise_cons]
        refine ⟨?_, List.pairwise_cons.2 h₂⟩
        intro s hs
        rcases List.mem_cons.1 hs with rfl | hs
        · exact hlt
        · have := h₂.1 s hs
          simp only at *
          omega
    · split
      · rename_i h₃
        have ih' := ih hle hl
        refine ⟨?_, ?_⟩
        · intro s hs
          rcases List.mem_cons.1 hs with rfl | hs
          · exact hr
          · exact ih'.1 s hs
        · rw [List.pairwise_cons]
          exact ⟨fst_insertRange h₃ h₂.1, ih'.2⟩
      · exact ih (by omega) hl

private theorem ofRanges_ranges (n : Nat) (l : List (Nat × Nat)) :
    Ascending (ofRanges l).ranges ∧ ((∃ r ∈ (ofRanges l).ranges, InRange n r) ↔ ∃ r ∈ l, InRange n r) := by
  induction l with
  | nil => simp [ofRanges, Ascending]
  | cons r l ih =>
    obtain ⟨ih₁, ih₂⟩ := ih
    simp only [ofRanges, List.foldr_cons] at *
    split
    · rename_i hle
      refine ⟨ascending_insertRange hle ih₁, ?_⟩
      rw [mem_insertRange_ranges hle ih₁.1, ih₂]
      simp [InRange]
    · rename_i hle
      refine ⟨ih₁, ?_⟩
      rw [ih₂]
      simp only [List.mem_cons, exists_eq_or_imp, InRange]
      constructor
      · exact Or.inr
      · rintro (h | h)
        · omega
        · exact h

/-- A set made of ranges is kept in ascending order. -/
theorem ascending_ofRanges (l : List (Nat × Nat)) : Ascending (ofRanges l).ranges :=
  (ofRanges_ranges 0 l).1

/-- A set made of ranges holds exactly what the ranges cover. -/
theorem contains_ofRanges {n : Nat} {l : List (Nat × Nat)} :
    (ofRanges l).contains n = true ↔ ∃ r ∈ l, r.1 ≤ n ∧ n ≤ r.2 := by
  rw [contains, go_iff (ascending_ofRanges l), (ofRanges_ranges n l).2]
  rfl

end CharSet

end Delimited
