import Delimited.Proofs.Text.Slice
import Delimited.Trace.Event

/-!
# Replays

A `Replay` reads the events of a scan again without the grammar. All that it knows is a stack of texts, each with the
offset up to which it has been read, and a stack of the names of open blocks. `Replay.step` refuses an event that does
not fit: what an event is about has to stand in the current text at the offset of the event, and in the block that the
event names; only the innermost block can be closed, and never the root; and a text is taken up again when the one above
it has been used up, and only then (`resume_of_step`). The text at the bottom always stays the same (`bottom_replay?`).
-/

namespace Delimited

/-! ### Texts that are being read -/

/-- A text, and the offset up to which it has been read. -/
structure Reading where
  text : List Char
  offset : Nat
deriving DecidableEq, Repr

namespace Reading

/-- The start of a text. -/
def ofString (text : String) : Reading := ⟨text.toList, 0⟩

/-- Whether the text has been used up. -/
def atEnd (t : Reading) : Bool := t.offset = byteLength t.text

/-- Reads what has to stand at the offset. Nothing is no text to be read. -/
def read? (m : List Char) (t : Reading) : Option Reading :=
  if m ≠ [] ∧ slice? t.text t.offset (t.offset + byteLength m) = some m then
    some { t with offset := t.offset + byteLength m }
  else none

/-- What stands behind the text that has been read can be read. -/
theorem read?_of_eq_append {a m b : List Char} (hm : m ≠ []) :
    read? m ⟨a ++ m ++ b, byteLength a⟩ = some ⟨a ++ m ++ b, byteLength (a ++ m)⟩ := by
  have hs : slice? (a ++ m ++ b) (byteLength a) (byteLength a + byteLength m) = some m :=
    slice?_eq_some_iff.2 ⟨a, b, rfl, rfl, by rw [byteLength_append]⟩
  rw [read?, if_pos ⟨hm, hs⟩, byteLength_append]

private theorem text_of_read? {t u : Reading} {m : List Char} (h : t.read? m = some u) : u.text = t.text := by
  unfold read? at h
  split at h
  · rw [← Option.some.inj h]
  · cases h

/-- A text that has been used up cannot be read. -/
theorem read?_of_atEnd {t : Reading} (h : t.atEnd = true) (m : List Char) : t.read? m = none := by
  refine if_neg fun ⟨hm, hs⟩ => hm ?_
  obtain ⟨a, b, ht, ha, hl⟩ := slice?_eq_some_iff.1 hs
  have he : t.offset = byteLength t.text := of_decide_eq_true h
  have hb : byteLength t.text = byteLength (a ++ m) + byteLength b := by rw [ht, byteLength_append]
  exact byteLength_eq_zero.1 (by omega)

end Reading

/-! ### The machine -/

/-- The texts and the open blocks in the middle of a replay. -/
structure Replay where
  current : Reading
  suspended : List Reading
  /-- The names of the open blocks, innermost first, with the offsets at which they were entered. The root comes last. -/
  opened : List (String × Nat)
  /-- The block that the last event has closed. -/
  closed : Option String
deriving DecidableEq, Repr

namespace Replay

/-- The start of a text, where only the root is open. -/
def start (text : String) : Replay := ⟨.ofString text, [], [("root", 0)], none⟩

/-- Reads a text at an offset, which has to be that of the current text. -/
def read (offset : Nat) (m : List Char) (r : Replay) : Option Replay :=
  if offset = r.current.offset then (r.current.read? m).map fun current => { r with current, closed := none } else none

/-- Reads a text that belongs to a block, which has to be the innermost one. -/
def readIn (block : String) (offset : Nat) (m : List Char) (r : Replay) : Option Replay :=
  if r.opened.head?.map Prod.fst = some block then r.read offset m else none

/-- Closes the innermost block, which has to be the one with this name and not the root. -/
def leave (block : String) (r : Replay) : Option Replay :=
  match r.opened with
  | (name, _) :: outer :: opened =>
    if name = block then some { r with opened := outer :: opened, closed := some block } else none
  | _ => none

/-- What an event does, if it fits. -/
def step (r : Replay) : Event → Option Replay
  | .char offset c block => r.readIn block offset [c]
  | .escape offset block escaped => r.readIn block offset escaped.toList
  | .split offset block matched => r.readIn block offset matched.toList
  | .strip offset block matched => r.readIn block offset matched.toList
  | .enter offset block start =>
    (r.read offset start.toList).map fun r => { r with opened := (block, offset) :: r.opened }
  | .exit offset block (some stop) => (r.read offset stop.toList).bind (leave block)
  | .exit offset block none =>
    if offset = r.current.offset ∧ r.current.atEnd ∧ r.suspended = [] then r.leave block else none
  | .reparse block text depth =>
    if r.closed = some block ∧ depth = r.suspended.length + 1 then
      some { r with current := .ofString text, suspended := r.current :: r.suspended, closed := none }
    else none
  | .resume offset depth =>
    match r.suspended with
    | [] => none
    | t :: ts =>
      if r.current.atEnd ∧ offset = t.offset ∧ depth = ts.length then
        some { r with current := t, suspended := ts, closed := none }
      else none

end Replay

/-- What events come to that were recorded from the start of a text, if they fit. -/
def replay? (text : String) (events : List Event) : Option Replay := events.foldlM Replay.step (.start text)

theorem replay?_concat (text : String) (events : List Event) (e : Event) :
    replay? text (events ++ [e]) = (replay? text events).bind (·.step e) := by
  unfold replay?
  rw [List.foldlM_append]
  exact congrArg _ (funext fun r => by simp)

/-- Events fit only as long as those before them do. -/
theorem exists_replay?_of_prefix {text : String} {events more : List Event} {r : Replay}
    (h : replay? text (events ++ more) = some r) :
    ∃ q, replay? text events = some q ∧ more.foldlM Replay.step q = some r := by
  unfold replay? at h
  rw [List.foldlM_append] at h
  exact Option.bind_eq_some_iff.1 h

/-! ### What every replay keeps -/

namespace Replay

/-- The text at the bottom of the stack. -/
def bottom (r : Replay) : List Char := (r.suspended.getLastD r.current).text

private theorem bottom_of_read {r q : Replay} {offset : Nat} {m : List Char} (h : r.read offset m = some q) :
    q.bottom = r.bottom := by
  unfold read at h
  split at h
  · obtain ⟨t, ht, rfl⟩ := Option.map_eq_some_iff.1 h
    unfold bottom
    cases hs : r.suspended with
    | nil => exact Reading.text_of_read? ht
    | cons => rfl
  · cases h

private theorem bottom_of_readIn {r q : Replay} {block : String} {offset : Nat} {m : List Char}
    (h : r.readIn block offset m = some q) : q.bottom = r.bottom := by
  unfold readIn at h
  split at h
  · exact bottom_of_read h
  · cases h

private theorem bottom_of_leave {r q : Replay} {block : String} (h : r.leave block = some q) :
    q.bottom = r.bottom := by
  unfold leave at h
  split at h
  · split at h
    · rw [← Option.some.inj h]
      rfl
    · cases h
  · cases h

private theorem bottom_step {r q : Replay} {e : Event} (h : r.step e = some q) : q.bottom = r.bottom := by
  cases e with
  | char offset c block => exact bottom_of_readIn h
  | escape offset block escaped => exact bottom_of_readIn h
  | split offset block matched => exact bottom_of_readIn h
  | strip offset block matched => exact bottom_of_readIn h
  | enter offset block start =>
    obtain ⟨q', hq, rfl⟩ := Option.map_eq_some_iff.1 h
    exact bottom_of_read (q := q') hq
  | exit offset block stop =>
    cases stop with
    | some stop =>
      obtain ⟨q', hq, h⟩ := Option.bind_eq_some_iff.1 h
      exact (bottom_of_leave h).trans (bottom_of_read hq)
    | none =>
      simp only [step] at h
      split at h
      · exact bottom_of_leave h
      · cases h
  | reparse block text depth =>
    simp only [step] at h
    split at h
    · rw [← Option.some.inj h]
      -- the text that was current is below the new one
      unfold bottom
      cases r.suspended <;> rfl
    · cases h
  | resume offset depth =>
    simp only [step] at h
    split at h
    · cases h
    · rename_i t ts hs
      split at h
      · rw [← Option.some.inj h]
        unfold bottom
        rw [hs]
        cases ts <;> rfl
      · cases h

private theorem bottom_foldlM {events : List Event} {r q : Replay} (h : events.foldlM step r = some q) :
    q.bottom = r.bottom := by
  induction events generalizing r with
  | nil =>
    rw [List.foldlM_nil] at h
    rw [← Option.some.inj h]
  | cons e events ih =>
    rw [List.foldlM_cons] at h
    obtain ⟨p, hp, h⟩ := Option.bind_eq_some_iff.1 h
    exact (ih h).trans (bottom_step hp)

/-- The text at the bottom stays the one that was scanned first. -/
theorem bottom_replay? {text : String} {events : List Event} {r : Replay} (h : replay? text events = some r) :
    r.bottom = text.toList := bottom_foldlM h

/-- Where a text has been used up and another one waits, the only event that fits is that the other text is taken up
again; unless a block has just been closed, whose output may still be scanned before. -/
theorem resume_of_step {r q : Replay} {e : Event} (h : r.step e = some q) (he : r.current.atEnd = true)
    (hs : r.suspended ≠ []) :
    (∃ offset depth, e = .resume offset depth) ∨
      ∃ block text depth, e = .reparse block text depth ∧ r.closed = some block := by
  have hread : ∀ offset m, r.read offset m = none := by
    intro offset m
    unfold read
    rw [Reading.read?_of_atEnd he]
    split <;> rfl
  have hreadIn : ∀ block offset m, r.readIn block offset m = none := by
    intro block offset m
    unfold readIn
    rw [hread]
    split <;> rfl
  cases e with
  | char => simp [step, hreadIn] at h
  | escape => simp [step, hreadIn] at h
  | split => simp [step, hreadIn] at h
  | strip => simp [step, hreadIn] at h
  | enter => simp [step, hread] at h
  | exit offset block stop => cases stop <;> simp [step, hread, hs] at h
  | reparse block text depth =>
    refine Or.inr ⟨block, text, depth, rfl, ?_⟩
    simp only [step] at h
    split at h
    · rename_i hc
      exact hc.1
    · cases h
  | resume offset depth => exact Or.inl ⟨offset, depth, rfl⟩

end Replay

end Delimited
