import Mathlib
import Telematics.Store.Locations

/-!
The newest location. Locations are in a linear order, by the time of the fix and then by number, and
the newest of them is the greatest.

* `age`, `isNewer_iff`, `eq_of_age_eq`: the order of locations.
* `mem_of_newestOf?`, `age_le_newestOf?`: the newest location is one of them, and none is newer.
* `newestOf?_eq_none_iff`: there is a newest one unless there is none at all.
-/

namespace Telematics.Store

/-- Where a location stands in the order of locations; one without a time of the fix is before all
    that have one. -/
def age (row : Row Location) : Lex (WithBot Int × Int) :=
  toLex ((fixInstant row).elim ⊥ (fun instant => (instant : WithBot Int)), row.id)

theorem isNewer_iff {one other : Row Location} :
    isNewer one other = true ↔ age other < age one := by
  unfold isNewer age
  rw [Prod.Lex.toLex_lt_toLex]
  cases fixInstant one with
  | none => cases fixInstant other <;> simp [isAfter]
  | some first =>
    cases fixInstant other with
    | none => simp [isAfter, WithBot.bot_lt_coe]
    | some second =>
      have turned : first = second ↔ second = first := eq_comm
      simp [isAfter, turned]

/-- No two locations stand in the same place of the order. -/
theorem eq_of_age_eq {store : Store} {one other : Row Location}
    (first : one ∈ store.locations.rows) (second : other ∈ store.locations.rows)
    (same : age one = age other) : one = other :=
  Table.eq_of_id_eq first second (congrArg (fun age => (ofLex age).2) same)

theorem age_newer (one other : Row Location) :
    age (newer one other) = max (age one) (age other) := by
  unfold newer
  split
  · rename_i after
    exact (max_eq_right (isNewer_iff.mp after).le).symm
  · rename_i before
    exact (max_eq_left (not_lt.mp fun after => before (isNewer_iff.mpr after))).symm

theorem newer_eq_or (one other : Row Location) :
    newer one other = one ∨ newer one other = other := by
  unfold newer
  split
  · exact .inr rfl
  · exact .inl rfl

variable {rows : List (Row Location)} {row other : Row Location}

theorem foldl_newer_mem (first : Row Location) :
    rows.foldl newer first ∈ first :: rows := by
  induction rows generalizing first with
  | nil => exact List.mem_cons_self
  | cons head rest ih =>
    rcases List.mem_cons.mp (ih (newer first head)) with same | later
    · rw [List.foldl_cons, same]
      rcases newer_eq_or first head with left | right
      · rw [left]
        exact List.mem_cons_self
      · rw [right]
        exact List.mem_cons_of_mem _ List.mem_cons_self
    · exact List.mem_cons_of_mem _ (List.mem_cons_of_mem _ later)

theorem age_le_foldl_newer (first : Row Location) (present : other ∈ first :: rows) :
    age other ≤ age (rows.foldl newer first) := by
  induction rows generalizing first other with
  | nil =>
    rw [List.mem_singleton.mp present]
    exact le_refl _
  | cons head rest ih =>
    have grows := ih (newer first head) List.mem_cons_self
    rw [age_newer] at grows
    rcases List.mem_cons.mp present with rfl | later
    · exact (le_max_left _ _).trans grows
    rcases List.mem_cons.mp later with rfl | inRest
    · exact (le_max_right _ _).trans grows
    · exact ih (newer first head) (List.mem_cons_of_mem _ inRest)

/-- The newest location is one of them. -/
theorem mem_of_newestOf? (newest : newestOf? rows = some row) : row ∈ rows := by
  cases rows with
  | nil => cases newest
  | cons first rest =>
    cases newest
    exact foldl_newer_mem first

/-- No location is newer than the newest one. -/
theorem age_le_newestOf? (newest : newestOf? rows = some row) (present : other ∈ rows) :
    age other ≤ age row := by
  cases rows with
  | nil => cases newest
  | cons first rest =>
    cases newest
    exact age_le_foldl_newer first present

theorem newestOf?_eq_none_iff : newestOf? rows = none ↔ rows = [] := by
  cases rows <;> simp [newestOf?]

end Telematics.Store
