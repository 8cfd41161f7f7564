import Delimited.Pattern.Program

/-!
# Search

A search moves through a text with a list of threads, the preferred one first. At each place the threads are
followed through the instructions that consume nothing; no address is entered twice at one place, so the work at a
place is bounded by the size of the program. A thread that accepts ends all less preferred ones. As long as nothing
has been found and the pattern may begin anywhere, every place starts one more thread, the least preferred one. The
result is the leftmost match, and among those the preferred one.
-/

namespace Delimited.Pattern

/-- The places that a match records: for each capture, the numbers of characters before its start and its end. -/
abbrev Places := Array (Option Nat)

/-- A thread that waits for a character of a set. -/
structure Waiting where
  set : CharSet
  next : Nat
  places : Places

/-- The addresses that have not been entered. -/
private def unseen (seen : Array Bool) : Nat := seen.countP (!·)

private theorem unseen_set {seen : Array Bool} {a : Nat} (h : a < seen.size) (hf : seen[a] = false) :
    unseen (seen.set a true) < unseen seen := by
  have hpos : 0 < unseen seen := by
    rw [unseen, Array.countP_pos_iff]
    exact ⟨false, hf ▸ Array.getElem_mem h, rfl⟩
  have : unseen (seen.set a true) = unseen seen - 1 := by
    unfold unseen
    rw [Array.countP_set]
    simp [hf]
  omega

/-- Follows threads, the preferred one first, up to where they wait or accept. -/
def Program.follow (p : Program) (before after : Option Char) (place : Nat) (seen : Array Bool) :
    List (Nat × Places) → List Waiting × Option Places
  | [] => ([], none)
  | (a, places) :: todo =>
    if h : a < seen.size then
      match hs : seen[a] with
      | true => p.follow before after place seen todo
      | false =>
        have := unseen_set h hs
        let seen := seen.set a true
        match p.code[a]? with
        | none => p.follow before after place seen todo
        | some .accept => ([], some places)
        | some (.set s next) =>
          let (waiting, found) := p.follow before after place seen todo
          (⟨s, next, places⟩ :: waiting, found)
        | some (.look l next) =>
          if l.holds before after then p.follow before after place seen ((next, places) :: todo)
          else p.follow before after place seen todo
        | some (.save slot next) =>
          p.follow before after place seen ((next, places.setIfInBounds slot (some place)) :: todo)
        | some (.split first second) =>
          p.follow before after place seen ((first, places) :: (second, places) :: todo)
    else p.follow before after place seen todo
termination_by todo => (unseen seen, todo.length)

section

variable {p : Program} {before after : Option Char} {place a : Nat} {seen : Array Bool} {places : Places}
  {todo : List (Nat × Places)}

/-- A thread ends at an address that has been entered, or that there is not. -/
theorem Program.follow_of_seen (h : seen[a]? ≠ some false) :
    p.follow before after place seen ((a, places) :: todo) = p.follow before after place seen todo := by
  rw [Program.follow]
  split
  · rename_i hlt
    split
    · rfl
    · rename_i hs
      exact absurd (by rw [Array.getElem?_eq_getElem hlt, hs]) h
  · rfl

/-- A thread goes on at an address that has not been entered. -/
theorem Program.follow_of_unseen (h : seen[a]? = some false) :
    p.follow before after place seen ((a, places) :: todo) =
      match p.code[a]? with
      | none => p.follow before after place (seen.setIfInBounds a true) todo
      | some .accept => ([], some places)
      | some (.set s next) =>
        let (waiting, found) := p.follow before after place (seen.setIfInBounds a true) todo
        (⟨s, next, places⟩ :: waiting, found)
      | some (.look l next) =>
        if l.holds before after then p.follow before after place (seen.setIfInBounds a true) ((next, places) :: todo)
        else p.follow before after place (seen.setIfInBounds a true) todo
      | some (.save slot next) =>
        p.follow before after place (seen.setIfInBounds a true) ((next, places.setIfInBounds slot (some place)) :: todo)
      | some (.split first second) =>
        p.follow before after place (seen.setIfInBounds a true) ((first, places) :: (second, places) :: todo) := by
  obtain ⟨hlt, hs⟩ := Array.getElem?_eq_some_iff.1 h
  have hset : seen.setIfInBounds a true = seen.set a true := by
    unfold Array.setIfInBounds
    rw [dif_pos hlt]
  rw [Program.follow, dif_pos hlt, hset]
  split
  · rename_i h'
    cases hs.symm.trans h'
  · rfl

end

/-- The threads that go on after a character. -/
def advance (c : Char) (waiting : List Waiting) : List (Nat × Places) :=
  waiting.filterMap fun w => if w.set.contains c.toNat then some (w.next, w.places) else none

/-- Follows threads at one place, where nothing has been entered yet. -/
def Program.followAt (p : Program) (before after : Option Char) (place : Nat) (todo : List (Nat × Places)) :
    List Waiting × Option Places :=
  p.follow before after place (Array.replicate p.code.size false) todo

/-- A thread at the start of the program. -/
def Program.fresh (p : Program) : Nat × Places := (p.start, Array.replicate p.slots none)

/-- Searches on from a place: `best` is what has been found so far. -/
def Program.searchFrom (p : Program) (before : Option Char) (place : Nat) (todo : List (Nat × Places))
    (best : Option Places) : List Char → Option Places
  | [] => (p.followAt before none place todo).2.or best
  | c :: rest =>
    let (waiting, found) := p.followAt before (some c) place todo
    let best := found.or best
    let todo := advance c waiting ++ if best.isNone && !p.anchored then [p.fresh] else []
    if todo.isEmpty then best else p.searchFrom (some c) (place + 1) todo best rest

/-- The places of the preferred match in a text. -/
def Program.search (p : Program) (text : List Char) : Option Places :=
  p.searchFrom none 0 [p.fresh] none text

end Delimited.Pattern
