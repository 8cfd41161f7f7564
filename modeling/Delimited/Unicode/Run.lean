/-!
# Runs of a character map

A map between code points that is regular over long stretches is kept as `Run`s: the code points from `lo` to `hi`,
every `step`-th of them, go in order to the code points from `target` on. `Run.find?` looks a code point up in a
list of runs.
-/

namespace Delimited.Unicode

/-- A stretch of a map: `lo + k * step` goes to `target + k * step`, up to `hi`. -/
structure Run where
  lo : Nat
  hi : Nat
  step : Nat
  target : Nat

/-- The image of `n`, if the run covers it. -/
def Run.image? (r : Run) (n : Nat) : Option Nat :=
  if r.lo ≤ n ∧ n ≤ r.hi ∧ (n - r.lo) % r.step = 0 then some (r.target + (n - r.lo)) else none

/-- The image of `n` under the first run that covers it. -/
def Run.find? (runs : List Run) (n : Nat) : Option Nat := runs.findSome? fun r => r.image? n

/-- The code points that the run covers. -/
def Run.sources (r : Run) : List Nat := (List.range ((r.hi - r.lo) / r.step + 1)).map fun k => r.lo + k * r.step

end Delimited.Unicode
