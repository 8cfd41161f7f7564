import Std.Data.HashMap
import Delimited.Pattern.Form
import Delimited.Text.ByteLength
import Delimited.Text.ByteRange

/-!
# Storage

A pattern is stored as two automata on bytes: one reads a text forward, the other reads it backward from the end of a
match. Each of them may take `storageLimit` bytes. A state takes 32 bytes, and 8 more for every range of bytes that it
tells apart, or 4 more for every way on that it offers. `Node.fits` says whether both automata of a pattern keep to the
limit.

A `Tally` counts what an automaton takes so far. Every operation on it adds to it, and has no result once the limit has
been passed.
-/

namespace Delimited.Pattern

/-- How many bytes an automaton may take. -/
def storageLimit : Nat := 10485760

/-- The direction in which an automaton reads. -/
inductive Direction where
  | forward
  | backward
deriving DecidableEq, Repr

/-- The number of states of an automaton, and the bytes that they take besides 32 each. -/
structure Tally where
  states : Nat := 0
  extra : Nat := 0
deriving DecidableEq, Repr

namespace Tally

/-- The number of bytes taken. -/
def bytes (t : Tally) : Nat := 32 * t.states + t.extra

/-- Adds states and extra bytes. -/
def add (t : Tally) (states extra : Nat) : Option Tally :=
  let t := ⟨t.states + states, t.extra + extra⟩
  if t.bytes ≤ storageLimit then some t else none

theorem isSome_add {t : Tally} {states extra : Nat} :
    (t.add states extra).isSome = true ↔ (⟨t.states + states, t.extra + extra⟩ : Tally).bytes ≤ storageLimit := by
  simp [add]

/-- After an addition one goes on within the limit. -/
theorem isSome_bind_add {α : Type} {t : Tally} {states extra : Nat} {f : Tally → Option α} :
    ((t.add states extra).bind f).isSome = true ↔
      (⟨t.states + states, t.extra + extra⟩ : Tally).bytes ≤ storageLimit ∧
        (f ⟨t.states + states, t.extra + extra⟩).isSome = true := by
  unfold add
  dsimp only
  split <;> simp [*]

/-- The extra bytes of a state that tells so many ranges of bytes apart. -/
def forRanges (n : Nat) : Nat := 8 * n

/-- The extra bytes of a state that offers so many ways on. -/
def forWays (n : Nat) : Nat := 4 * n

end Tally

/-- What has been added for a part of a pattern: the tally after it, and whether the part ends in a state that may
offer several ways on, which then takes more for every state that is put behind it. -/
structure Stored where
  tally : Tally
  openEnd : Bool := false

/-- The ways on that an end offers to what is put behind it. -/
def Stored.waysOn (s : Stored) : Nat := if s.openEnd then 1 else 0

/-! ### Sets -/

/-- What has been built of late, by keys. There is a fixed number of places; each keeps what was put there last, so
that not all is found again. -/
private structure Recent where
  places : Nat
  entries : Std.HashMap Nat (List Nat × Nat) := ∅

namespace Recent

/-- The place of a key. -/
private def place (r : Recent) (key : List Nat) : Nat :=
  (key.foldl (fun (h : UInt64) n => (h ^^^ n.toUInt64) * 1099511628211) 14695981039346656037).toNat % r.places

private def find? (r : Recent) (key : List Nat) : Option Nat :=
  match r.entries[r.place key]? with
  | some (k, n) => if k = key then some n else none
  | none => none

private def insert (r : Recent) (key : List Nat) (n : Nat) : Recent :=
  { r with entries := r.entries.insert (r.place key) (key, n) }

end Recent

/-- An automaton under construction, with the states that may serve again. -/
private structure Building where
  tally : Tally
  recent : Recent

/-- The state with a key: one built of late, or a new one that takes so many extra bytes. -/
private def Building.state (b : Building) (key : List Nat) (extra : Nat) : Option (Nat × Building) :=
  match b.recent.find? key with
  | some n => some (n, b)
  | none => do
    let n := b.tally.states
    return (n, ⟨← b.tally.add 1 extra, b.recent.insert key n⟩)

/-- How many of the states that read forward are kept in mind. -/
private def forwardPlaces : Nat := 10000

/-- How many of the states that read backward are kept in mind. -/
private def backwardPlaces : Nat := 1000

/-- Adds the states that read any of several sequences of bytes, up to the state `target`; gives the one where they
begin. The sequences have at most `depth` bytes, and what ends alike is stored once. -/
private def storeForward (target : Nat) : Nat → List (List ByteRange) → Building → Option (Nat × Building)
  | 0, _, b => some (target, b)
  | depth + 1, sequences, b =>
    if sequences.all List.isEmpty then some (target, b)
    else do
      let (key, b) ← (sequences.splitBy fun q r => q.head? == r.head?).foldlM (fun (key, b) group => do
        let (next, b) ← storeForward target depth (group.map List.tail) b
        return (key ++ (group.filterMap List.head?).head?.elim [] fun r => [r.lo, r.hi, next], b)) (([] : List Nat), b)
      b.state key (Tally.forRanges (key.length / 3))

/-- Adds the states that read a sequence of bytes backward, up to the state `target`; gives the one where they
begin. -/
private def storeBackward (target : Nat) (sequence : List ByteRange) (b : Building) : Option (Nat × Building) :=
  sequence.foldlM (fun (next, b) r => b.state [next, r.lo, r.hi] 0) (target, b)

/-- Adds a set of characters. -/
def storeSet (d : Direction) (s : CharSet) (t : Tally) : Option Tally :=
  if s.ranges.all fun (_, hi) => hi < 0x80 then t.add 2 (Tally.forRanges s.ranges.length)
  else
    let sequences := s.ranges.flatMap fun (lo, hi) => byteRanges lo hi
    match d with
    | .forward => do
      let target := t.states
      let (_, b) ← storeForward target 4 sequences ⟨← t.add 1 0, ⟨forwardPlaces, ∅⟩⟩
      return b.tally
    | .backward => do
      let target := t.states + 1
      let b ← sequences.foldlM (fun b q => do return (← storeBackward target q b).2)
        ⟨← t.add 2 (Tally.forWays sequences.length), ⟨backwardPlaces, ∅⟩⟩
      return b.tally

/-! ### Choices of texts -/

/-- The bytes of a text in the order in which they are read. -/
private def bytesOf (d : Direction) (cs : List Char) : List UInt8 :=
  let bytes := cs.flatMap String.utf8EncodeChar
  match d with
  | .forward => bytes
  | .backward => bytes.reverse

/-- Cuts a list of byte sequences at the empty ones. -/
private def cutAtEmpty (l : List (List UInt8)) : List (List (List UInt8)) :=
  l.foldr (fun q pieces =>
    if q.isEmpty then [] :: pieces
    else match pieces with
      | [] => [[q]]
      | piece :: pieces => (q :: piece) :: pieces) [[]]

/-- Groups byte sequences by their first byte, and leaves it out. -/
private def afterFirst (l : List (List UInt8)) : List (List (List UInt8)) :=
  (l.filterMap List.head?).eraseDups.map fun c => (l.filter (·.head? = some c)).map List.tail

/-- What is left to be read of each text where the beginnings of some texts have been read. Texts that end here cut the
others into groups, as those that come first are preferred; but as long as all texts end, only the first matters. -/
private def groupsAt (rests : List (List UInt8)) : List (List (List UInt8)) :=
  let others := rests.dropWhile List.isEmpty
  cutAtEmpty (if others.length < rests.length then [] :: others else others)

/-- Adds the states for a place in a choice of texts: one for each group that goes on, and one that offers these, and
the end after each group but the last. -/
private def storeGroups (t : Tally) (groups : List (List (List UInt8))) : Option Tally :=
  let sizes := (groups.map fun g => (afterFirst g).length).filter (0 < ·)
  let ranges := sizes.foldl (fun total n => total + if n = 1 then 0 else Tally.forRanges n) 0
  t.add (sizes.length + 1) (ranges + Tally.forWays (sizes.length + (groups.length - 1)))

/-- Adds the states for places in a choice of texts, and for all that follow them within `depth` bytes. -/
private def storePlaces : Nat → List (List (List UInt8)) → Tally → Option Tally
  | 0, _, t => some t
  | depth + 1, places, t => do
    let groups := places.map groupsAt
    let t ← groups.foldlM storeGroups t
    storePlaces depth ((groups.flatMap (·.flatMap afterFirst)).filter (·.any (!·.isEmpty))) t

/-- Adds a choice of texts, in which common beginnings are stored once. -/
def storeTexts (d : Direction) (texts : List (List Char)) (t : Tally) : Option Tally := do
  let sequences := texts.map (bytesOf d)
  storePlaces ((sequences.map List.length).foldl Nat.max 0) [sequences] (← t.add 1 0)

/-- The texts in a choice of nothing but texts. -/
private def Form.texts? (branches : List Form) : Option (List (List Char)) :=
  branches.mapM fun
    | .text cs => some cs
    | _ => none

/-! ### Forms -/

/-- Adds more copies of a part after one that has been added. -/
def Stored.copies (part : Tally → Option Stored) : Nat → Stored → Option Stored
  | 0, s => some s
  | n + 1, s => do
    let t ← s.tally.add 0 (Tally.forWays s.waysOn)
    copies part n (← part t)

/-- Adds a number of copies of a part, one after the other. -/
def Tally.copies (part : Tally → Option Stored) (n : Nat) (t : Tally) : Option Stored :=
  match n with
  | 0 => do return ⟨← t.add 1 0, false⟩
  | n + 1 => do Stored.copies part n (← part t)

/-- Adds copies of a part after what has been added, each of which may be left out together with those behind it. -/
def Stored.optionalCopies (part : Tally → Option Stored) : Nat → Stored → Option Tally
  | 0, s => s.tally.add 0 (Tally.forWays s.waysOn)
  | n + 1, s => do
    let t ← s.tally.add 1 (Tally.forWays (s.waysOn + 2))
    optionalCopies part n (← part t)

mutual

/-- Adds a form. -/
def Form.store (d : Direction) : Form → Tally → Option Stored
  | .empty, t => do return ⟨← t.add 1 0, false⟩
  | .text cs, t => do return ⟨← t.add (byteLength cs) 0, false⟩
  | .set s, t => do return ⟨← storeSet d s t, false⟩
  | .look _, t => do return ⟨← t.add 1 0, false⟩
  | .capture _ e, t =>
    match d with
    | .forward => do
      let s ← e.store d (← t.add 1 0)
      return ⟨← s.tally.add 1 (Tally.forWays s.waysOn), false⟩
    | .backward => e.store d t
  | .sequence es, t => Form.storeItems d es t
  | .choice es, t =>
    match Form.texts? es with
    | some texts => do return ⟨← storeTexts d texts t, false⟩
    | none => Form.storeBranches d es t
  | .repetition 0 (some 1) _ e, t => do
    let s ← e.store d (← t.add 1 (Tally.forWays 2))
    return ⟨← s.tally.add 1 (Tally.forWays s.waysOn), false⟩
  | .repetition 0 none _ e, t =>
    if e.leastLength?.any (0 < ·) then do
      let s ← e.store d (← t.add 1 (Tally.forWays 1))
      return ⟨← s.tally.add 0 (Tally.forWays s.waysOn), true⟩
    else do
      let s ← e.store d t
      return ⟨← s.tally.add 3 (Tally.forWays (s.waysOn + 4)), false⟩
  | .repetition (min + 1) none _ e, t => do
    let s ← Tally.copies (fun t => e.store d t) (min + 1) t
    return ⟨← s.tally.add 1 (Tally.forWays (s.waysOn + 1)), true⟩
  | .repetition min (some max) _ e, t => do
    let s ← Tally.copies (fun t => e.store d t) min t
    if min = max then return s
    let t ← Stored.optionalCopies (fun t => e.store d t) (max - min) ⟨← s.tally.add 1 0, s.openEnd⟩
    return ⟨t, false⟩

/-- Adds forms side by side, in the order in which they are read. -/
def Form.storeItems (d : Direction) : List Form → Tally → Option Stored
  | [], t => do return ⟨← t.add 1 0, false⟩
  | [e], t => e.store d t
  | e :: es, t =>
    match d with
    | .forward => do
      let s ← e.store d t
      Form.storeItems d es (← s.tally.add 0 (Tally.forWays s.waysOn))
    | .backward => do
      let s ← Form.storeItems d es t
      e.store d (← s.tally.add 0 (Tally.forWays s.waysOn))

/-- Adds a choice. The state that offers the branches, and the one that they meet in, come after the first two
branches. -/
def Form.storeBranches (d : Direction) : List Form → Tally → Option Stored
  | e :: e' :: es, t => do
    let s ← e.store d t
    let s' ← e'.store d s.tally
    let t ← s'.tally.add 2 (Tally.forWays (s.waysOn + s'.waysOn + 2))
    return ⟨← Form.storeMore d es t, false⟩
  | [e], t => e.store d t
  | [], t => do return ⟨← t.add 1 0, false⟩

/-- Adds more branches of a choice. -/
def Form.storeMore (d : Direction) : List Form → Tally → Option Tally
  | [], t => some t
  | e :: es, t => do
    let s ← e.store d t
    Form.storeMore d es (← s.tally.add 0 (Tally.forWays (s.waysOn + 1)))

end

/-! ### Patterns -/

/-- Adds what stands in front of a pattern: a state that begins, and unless the pattern can match at one place only, a
loop over the bytes before a match. -/
def storeBegin (fixed : Bool) (t : Tally) : Option Tally :=
  if fixed then t.add 1 0 else t.add 3 (Tally.forRanges 1 + Tally.forWays 2)

/-- The automaton of a node in one direction, unless it passes the limit. Only the one that reads forward records
captures, among them the whole match. -/
def Node.stored? (n : Node) (d : Direction) : Option Tally := do
  let t ← storeBegin (match d with | .forward => n.anchored | .backward => n.anchoredAtEnd) {}
  let s ← (Form.capture 0 n.form).store d t
  s.tally.add 1 (Tally.forWays s.waysOn)

/-- Whether both automata of a node keep to the limit. -/
def Node.fits (n : Node) : Bool := (n.stored? .forward).isSome && (n.stored? .backward).isSome

end Delimited.Pattern
