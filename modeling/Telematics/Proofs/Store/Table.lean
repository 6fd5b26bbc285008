import Telematics.Store.Table

/-!
What is found in a table after a change of it, by the number of a row.

* `find?_put`, `find?_set`: one law for each change.
* `rows_put_nextId`: a row that is put under the next number comes last.
-/

namespace Telematics.Table

variable {α : Type}

/-- Tables that hold the same rows under a number give the same row for it. -/
theorem find?_congr {table other : Table α} {id : Int}
    (same : ∀ row : Row α, row.id = id → (row ∈ table.rows ↔ row ∈ other.rows)) :
    table.find? id = other.find? id := by
  refine Option.ext fun row => ?_
  rw [find?_eq_some_iff, find?_eq_some_iff]
  constructor
  · rintro ⟨present, named⟩
    exact ⟨(same row named).1 present, named⟩
  · rintro ⟨present, named⟩
    exact ⟨(same row named).2 present, named⟩

/-- The row that is put is found by its number, and every other row as before. -/
theorem find?_put (table : Table α) (id other : Int) (value : α) :
    (table.put id value).find? other =
      if other = id then some ⟨id, value⟩ else table.find? other := by
  split
  · rename_i same
    rw [find?_eq_some_iff, mem_put_iff]
    exact ⟨.inl rfl, same.symm⟩
  · rename_i differ
    refine find?_congr fun row named => ?_
    rw [mem_put_iff]
    constructor
    · rintro (rfl | ⟨present, -⟩)
      · exact absurd named.symm differ
      · exact present
    · intro present
      exact .inr ⟨present, named ▸ differ⟩

/-- A row that is set is found with its new value, if it was there, and every other row as
    before. -/
theorem find?_set (table : Table α) (id other : Int) (value : α) :
    (table.set id value).find? other =
      if other = id then (table.find? id).map fun row => ⟨row.id, value⟩
      else table.find? other := by
  refine Option.ext fun row => ?_
  have inSet : row ∈ (table.set id value).rows ↔
      ∃ old ∈ table.rows, ⟨old.id, if old.id = id then value else old.value⟩ = row := by
    simp [set]
  rw [find?_eq_some_iff, inSet]
  split
  · rename_i same
    subst same
    rw [Option.map_eq_some_iff]
    constructor
    · rintro ⟨⟨old, present, rfl⟩, named⟩
      refine ⟨old, find?_eq_some_iff.2 ⟨present, named⟩, ?_⟩
      simp only [show old.id = other from named, if_true]
    · rintro ⟨old, found, rfl⟩
      obtain ⟨present, named⟩ := mem_of_find? found
      exact ⟨⟨old, present, by simp only [named, if_true]⟩, named⟩
  · rename_i differ
    rw [find?_eq_some_iff]
    constructor
    · rintro ⟨⟨old, present, rfl⟩, named⟩
      have kept : old.id ≠ id := fun own => differ (named.symm.trans own)
      simp only [kept, if_false]
      exact ⟨present, named⟩
    · rintro ⟨present, named⟩
      have kept : row.id ≠ id := fun own => differ (named.symm.trans own)
      exact ⟨⟨row, present, by simp only [kept, if_false]⟩, named⟩

theorem removeIf_eq_self {table : Table α} {condition : Row α → Bool}
    (none : ∀ row ∈ table.rows, condition row = false) : table.removeIf condition = table := by
  obtain ⟨rows, lastId, ordered⟩ := table
  simp only [removeIf, mk.injEq, and_true, List.filter_eq_self]
  intro row present
  rw [none row present]
  rfl

/-- A row whose number is above all others is put behind them. -/
theorem rows_put_nextId (table : Table α) (value : α) :
    (table.put table.nextId value).rows = table.rows ++ [⟨table.nextId, value⟩] := by
  have below : table.rows.filter (·.id < table.nextId) = table.rows := by
    rw [List.filter_eq_self]
    intro row present
    simpa using lt_nextId present
  have above : table.rows.filter (table.nextId < ·.id) = [] := by
    rw [List.filter_eq_nil_iff]
    intro row present
    have := lt_nextId present
    simp only [decide_eq_true_eq]
    omega
  simp only [put, place, below, above]

/-- No row has the next number. -/
theorem find?_nextId (table : Table α) : table.find? table.nextId = none := by
  cases found : table.find? table.nextId with
  | none => rfl
  | some row =>
    obtain ⟨present, named⟩ := mem_of_find? found
    have := lt_nextId present
    omega

end Telematics.Table
