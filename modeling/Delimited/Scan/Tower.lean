/-!
# Towers

A `Tower n` is a row of `n + 1` numbers, compared from the bottom up: the first difference decides, and what lies
above it does not count. A row of at most `n + 1` lengths becomes a tower by `Tower.ofLengths`; a place without a
length is below every length. The key facts are `ofLengths_lt_of_lt`, that a smaller length makes a smaller tower
whatever is put on top, and `ofLengths_lt_append`, that taking the top off does.
-/

namespace Delimited.Scan

/-- A row of `n + 1` numbers. -/
def Tower : Nat → Type
  | 0 => Nat
  | n + 1 => Nat × Tower n

namespace Tower

/-- Comparison from the bottom up, which has no infinite descent. -/
@[reducible]
def order : (n : Nat) → WellFoundedRelation (Tower n)
  | 0 => (inferInstance : WellFoundedRelation Nat)
  | n + 1 => @Prod.instWellFoundedRelation Nat (Tower n) inferInstance (order n)

instance (n : Nat) : WellFoundedRelation (Tower n) := order n

/-- The tower of a row of lengths. -/
def ofLengths : (n : Nat) → List Nat → Tower n
  | 0, [] => (0 : Nat)
  | 0, a :: _ => (a + 1 : Nat)
  | n + 1, [] => (0, ofLengths n [])
  | n + 1, a :: as => (a + 1, ofLengths n as)

private theorem lt_succ_of_fst {n : Nat} {a b : Nat} {s t : Tower n} (h : a < b) :
    (order (n + 1)).rel ((a, s) : Nat × Tower n) (b, t) :=
  Prod.Lex.left _ _ h

private theorem lt_succ_of_snd {n : Nat} {a : Nat} {s t : Tower n} (h : (order n).rel s t) :
    (order (n + 1)).rel ((a, s) : Nat × Tower n) (a, t) :=
  Prod.Lex.right _ h

/-- A smaller length makes a smaller tower, whatever is put on top of it. -/
theorem ofLengths_lt_of_lt {n : Nat} {below above above' : List Nat} {a b : Nat} (h : a < b) (hn : below.length ≤ n) :
    (order n).rel (ofLengths n (below ++ a :: above)) (ofLengths n (below ++ b :: above')) := by
  induction n generalizing below with
  | zero =>
    have : below = [] := List.length_eq_zero_iff.1 (by omega)
    subst this
    exact (Nat.succ_lt_succ h : a + 1 < b + 1)
  | succ n ih =>
    cases below with
    | nil => exact lt_succ_of_fst (Nat.succ_lt_succ h)
    | cons x below => exact lt_succ_of_snd (ih (by simpa using hn))

/-- Taking the top off makes a smaller tower. -/
theorem ofLengths_lt_append {n : Nat} {below : List Nat} {a : Nat} (hn : below.length ≤ n) :
    (order n).rel (ofLengths n below) (ofLengths n (below ++ [a])) := by
  induction n generalizing below with
  | zero =>
    have : below = [] := List.length_eq_zero_iff.1 (by omega)
    subst this
    exact (Nat.succ_pos a : 0 < a + 1)
  | succ n ih =>
    cases below with
    | nil => exact lt_succ_of_fst (Nat.succ_pos a)
    | cons x below => exact lt_succ_of_snd (ih (by simpa using hn))

end Tower

end Delimited.Scan
