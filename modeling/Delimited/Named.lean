/-!
# Named values

Lists of values with names, in which the order counts. `assign` keeps the place of a name that is there already.
-/

namespace Delimited

/-- Gives a name a new value: in the place of the old one, or at the end. -/
def assign {α : Type} (name : String) (value : α) : List (String × α) → List (String × α)
  | [] => [(name, value)]
  | (n, v) :: rest => if n = name then (name, value) :: rest else (n, v) :: assign name value rest

variable {α : Type} {name : String} {value : α}

theorem map_assign {β : Type} (f : α → β) (l : List (String × α)) :
    (assign name value l).map (fun entry => (entry.1, f entry.2)) =
      assign name (f value) (l.map fun entry => (entry.1, f entry.2)) := by
  induction l with
  | nil => rfl
  | cons entry l ih =>
    simp only [assign, List.map_cons]
    split <;> simp [ih]

theorem mem_assign_self (name : String) (value : α) (l : List (String × α)) : (name, value) ∈ assign name value l := by
  induction l with
  | nil => simp [assign]
  | cons entry l ih =>
    unfold assign
    split <;> simp [ih]

/-- Entries with other names stay as they are. -/
theorem mem_assign_of_ne {l : List (String × α)} {entry : String × α} (h : entry ∈ l) (hn : entry.1 ≠ name) :
    entry ∈ assign name value l := by
  induction l with
  | nil => cases h
  | cons e l ih =>
    unfold assign
    rcases List.mem_cons.1 h with rfl | h
    · rw [if_neg hn]
      exact List.mem_cons_self
    · split
      · exact List.mem_cons_of_mem _ h
      · exact List.mem_cons_of_mem _ (ih h)

/-- Nothing is there but the new entry and those that were there before. -/
theorem eq_or_mem_of_mem_assign {l : List (String × α)} {entry : String × α} (h : entry ∈ assign name value l) :
    entry = (name, value) ∨ entry ∈ l := by
  induction l with
  | nil => simpa [assign] using h
  | cons e l ih =>
    unfold assign at h
    split at h
    · rcases List.mem_cons.1 h with h | h
      · exact Or.inl h
      · exact Or.inr (List.mem_cons_of_mem _ h)
    · rcases List.mem_cons.1 h with rfl | h
      · exact Or.inr List.mem_cons_self
      · exact (ih h).imp_right (List.mem_cons_of_mem _)

/-- Names stay distinct. -/
theorem nodup_assign {l : List (String × α)} (h : (l.map Prod.fst).Nodup) :
    ((assign name value l).map Prod.fst).Nodup := by
  induction l with
  | nil => simp [assign]
  | cons e l ih =>
    rw [List.map_cons, List.nodup_cons] at h
    unfold assign
    split
    · rename_i hn
      rw [List.map_cons, List.nodup_cons]
      exact ⟨hn ▸ h.1, h.2⟩
    · rename_i hn
      rw [List.map_cons, List.nodup_cons]
      refine ⟨fun hm => ?_, ih h.2⟩
      obtain ⟨entry, hm, he⟩ := List.mem_map.1 hm
      rcases eq_or_mem_of_mem_assign hm with rfl | hm
      · exact hn he.symm
      · exact h.1 (he ▸ List.mem_map_of_mem hm)

end Delimited
