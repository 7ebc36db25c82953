import ShaderBindings.Table

/-!
# Tables — Looking up

What is found in a table after a value was put in, and what is found in a list
of keys that are distinct.
-/

namespace ShaderBindings.Table

variable {κ α : Type} [BEq κ] [LawfulBEq κ]
variable {key other : κ} {value : α}

/-- Of distinct keys, each is found with its own value. -/
theorem lookup_eq_some_of_mem {t : List (κ × α)}
    (hnodup : (t.map Prod.fst).Nodup) (h : (key, value) ∈ t) :
    t.lookup key = some value := by
  induction t with
  | nil => cases h
  | cons entry rest ih =>
    obtain ⟨k, old⟩ := entry
    obtain ⟨hnot, hrest⟩ := List.nodup_cons.mp hnodup
    obtain heq | hmem := List.mem_cons.mp h
    · cases heq
      simp
    · have hne : key ≠ k := by
        rintro rfl
        exact hnot (List.mem_map.mpr ⟨_, hmem, rfl⟩)
      simpa [List.lookup_cons, beq_false_of_ne hne] using ih hrest hmem

theorem mem_of_lookup {t : List (κ × α)} (h : t.lookup key = some value) :
    (key, value) ∈ t := by
  obtain ⟨before, after, rfl, -⟩ := List.lookup_eq_some_iff.mp h
  exact List.mem_append_cons_self

variable [DecidableEq κ]

theorem lookup_insert_self (key : κ) (value : α) (t : List (κ × α)) :
    (insert key value t).lookup key = some value := by
  induction t with
  | nil => simp [insert]
  | cons entry rest ih =>
    obtain ⟨k, old⟩ := entry
    by_cases h : k = key
    · simp [insert, h]
    · simp [insert, h, List.lookup_cons, beq_false_of_ne (Ne.symm h), ih]

/-- The values of the other keys are still there. -/
theorem lookup_insert_of_ne (h : other ≠ key) (value : α) (t : List (κ × α)) :
    (insert key value t).lookup other = t.lookup other := by
  induction t with
  | nil => simp [insert, h]
  | cons entry rest ih =>
    obtain ⟨k, old⟩ := entry
    by_cases hk : k = key
    · subst hk
      simp [insert, List.lookup_cons, beq_false_of_ne h]
    · simp [insert, hk, List.lookup_cons, ih]

/-- Putting in what is there changes nothing. -/
theorem insert_of_lookup {t : List (κ × α)} (h : t.lookup key = some value) :
    insert key value t = t := by
  induction t with
  | nil => cases h
  | cons entry rest ih =>
    obtain ⟨k, old⟩ := entry
    unfold insert
    by_cases hk : k = key
    · subst hk
      obtain rfl : old = value := by simpa using h
      rw [if_pos rfl]
    · rw [List.lookup_cons, beq_false_of_ne (Ne.symm hk)] at h
      rw [if_neg hk, ih h]

end ShaderBindings.Table
