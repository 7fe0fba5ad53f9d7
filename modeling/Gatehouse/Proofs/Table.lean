import Gatehouse.Table

/-!
# What a table holds

Each operation on a table, through `get?`.
-/

set_option autoImplicit false

namespace Gatehouse.Table

variable {κ ν : Type} [DecidableEq κ]

theorem get?_eq_some_iff (table : Table κ ν) (key : κ) (value : ν) :
    table.get? key = some value ↔ (key, value) ∈ table.entries := by
  obtain ⟨entries, distinct⟩ := table
  simp only [get?]
  induction entries with
  | nil => simp
  | cons entry entries ih =>
      obtain ⟨first, held⟩ := entry
      rw [List.map_cons, List.nodup_cons] at distinct
      rw [List.find?_cons]
      by_cases same : first = key
      · subst same
        have absent : (first, value) ∉ entries := fun member =>
          distinct.1 (List.mem_map.mpr ⟨(first, value), member, rfl⟩)
        simp [absent, eq_comm]
      · have differs : (first == key) = false := beq_false_of_ne same
        have other : ¬ key = first := fun equal => same equal.symm
        simp only [differs, ih distinct.2, List.mem_cons, Prod.mk.injEq, other, false_and,
          false_or]

theorem get?_put (table : Table κ ν) (key : κ) (value : ν) (other : κ) :
    (table.put key value).get? other = if other = key then some value else table.get? other := by
  apply Option.ext
  intro found
  rw [get?_eq_some_iff, put]
  split
  · rename_i known
    have replaced : (other, found) ∈ replace key value table.entries ↔
        (other = key ∧ found = value) ∨ (other ≠ key ∧ (other, found) ∈ table.entries) := by
      simp only [replace, List.mem_map]
      constructor
      · rintro ⟨entry, member, same⟩
        split at same
        · cases same
          exact Or.inl ⟨rfl, rfl⟩
        · rename_i differs
          cases same
          exact Or.inr ⟨differs, member⟩
      · rintro (⟨rfl, rfl⟩ | ⟨differs, member⟩)
        · obtain ⟨entry, member, same⟩ := List.mem_map.mp known
          exact ⟨entry, member, by rw [if_pos same]⟩
        · exact ⟨(other, found), member, by rw [if_neg differs]⟩
    simp only [replaced]
    by_cases same : other = key
    · simp [same, eq_comm]
    · simp [same, get?_eq_some_iff]
  · rename_i unknown
    simp only [List.mem_append, List.mem_singleton, Prod.mk.injEq]
    by_cases same : other = key
    · subst same
      have absent : (other, found) ∉ table.entries := fun member =>
        unknown (List.mem_map.mpr ⟨(other, found), member, rfl⟩)
      simp [absent, eq_comm]
    · simp [same, get?_eq_some_iff]

theorem get?_filter (table : Table κ ν) (keep : κ → ν → Bool) (key : κ) :
    (table.filter keep).get? key = (table.get? key).filter (keep key) := by
  apply Option.ext
  intro found
  rw [get?_eq_some_iff, Option.filter_eq_some_iff, get?_eq_some_iff]
  simp [filter]

theorem get?_erase (table : Table κ ν) (key other : κ) :
    (table.erase key).get? other = if other = key then none else table.get? other := by
  rw [erase, get?_filter]
  by_cases same : other = key
  · simp [same]
  · have kept : (other != key) = true := bne_iff_ne.mpr same
    simp only [kept, if_neg same]
    cases table.get? other <;> rfl

end Gatehouse.Table
