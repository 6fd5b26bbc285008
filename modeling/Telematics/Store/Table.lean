/-!
Tables. A row has a number that is its own. A table keeps the greatest number that a row was put in
under, and a row without a number of its own is given one above it and above the rows that are
there. So the number of a deleted row is not given out again, unless the row came to it later by
being renumbered.

* `Table.ordered`, `lt_nextId`: rows are in the order of their numbers, below the next number.
* `find?_insert`, `mem_insert_iff`, `mem_put_iff`, `mem_renumber_iff`: what a table holds after an
  insertion and after a row is renumbered.
* `rows_removeIf`, `rows_modify`: what a table holds after a removal and a change.
-/

namespace Telematics

/-- A row of a table: its number and what it holds. -/
structure Row (α : Type) where
  id : Int
  value : α
deriving DecidableEq, Repr

/-- Rows in the order of their numbers, and the greatest number that a row was put in under. -/
structure Table (α : Type) where
  rows : List (Row α)
  lastId : Int
  ordered : rows.Pairwise (·.id < ·.id)
deriving DecidableEq, Repr

namespace Table

variable {α : Type}

/-- The table without rows. Numbers begin with one. -/
def empty : Table α := ⟨[], 0, .nil⟩

/-- The number of the next row that has none of its own. -/
def nextId (table : Table α) : Int :=
  table.rows.foldr (fun row greatest => max row.id greatest) table.lastId + 1

theorem lt_nextId {table : Table α} {row : Row α} (present : row ∈ table.rows) :
    row.id < table.nextId := by
  have below : ∀ (rows : List (Row α)) (last : Int), row ∈ rows →
      row.id ≤ rows.foldr (fun row greatest => max row.id greatest) last := by
    intro rows last found
    induction rows with
    | nil => simp at found
    | cons head rest ih =>
      rw [List.foldr_cons]
      rcases List.mem_cons.1 found with rfl | inRest
      · exact Int.le_max_left _ _
      · exact Int.le_trans (ih inRest) (Int.le_max_right _ _)
  exact Int.lt_add_one_of_le (below table.rows table.lastId present)

/-- The table with one row more. -/
def insert (table : Table α) (value : α) : Table α where
  rows := table.rows ++ [⟨table.nextId, value⟩]
  lastId := table.nextId
  ordered := by
    simp only [List.pairwise_append, List.pairwise_cons, List.mem_singleton, List.Pairwise.nil]
    refine ⟨table.ordered, ⟨by simp, trivial⟩, ?_⟩
    rintro row present _ rfl
    exact lt_nextId present

/-- Rows with a row in its place. A row of its number gives way. -/
def place (rows : List (Row α)) (row : Row α) : List (Row α) :=
  rows.filter (·.id < row.id) ++ row :: rows.filter (row.id < ·.id)

theorem mem_place_iff {rows : List (Row α)} {placed row : Row α} :
    row ∈ place rows placed ↔ row = placed ∨ row ∈ rows ∧ row.id ≠ placed.id := by
  simp only [place, List.mem_append, List.mem_cons, List.mem_filter, decide_eq_true_eq]
  constructor
  · rintro (⟨present, low⟩ | rfl | ⟨present, high⟩)
    · exact .inr ⟨present, by omega⟩
    · exact .inl rfl
    · exact .inr ⟨present, by omega⟩
  · rintro (rfl | ⟨present, other⟩)
    · exact .inr (.inl rfl)
    · rcases Int.lt_or_gt_of_ne other with low | high
      · exact .inl ⟨present, low⟩
      · exact .inr (.inr ⟨present, high⟩)

theorem ordered_place {rows : List (Row α)} (ordered : rows.Pairwise (·.id < ·.id))
    (row : Row α) : (place rows row).Pairwise (·.id < ·.id) := by
  rw [place, List.pairwise_append, List.pairwise_cons]
  refine ⟨ordered.filter _, ⟨?_, ordered.filter _⟩, ?_⟩
  · intro other present
    simpa using (List.mem_filter.1 present).2
  · intro one before other after
    have low : one.id < row.id := by simpa using (List.mem_filter.1 before).2
    rcases List.mem_cons.1 after with rfl | high
    · exact low
    · have high : row.id < other.id := by simpa using (List.mem_filter.1 high).2
      omega

/-- The table in which the row of a number holds a value: the row that is there is replaced, or a
    row is put in its place. -/
def put (table : Table α) (id : Int) (value : α) : Table α where
  rows := place table.rows ⟨id, value⟩
  lastId := max table.lastId id
  ordered := ordered_place table.ordered _

/-- The table in which a row has another number and holds a value. No number is given out for
    that. -/
def renumber (table : Table α) (old new : Int) (value : α) : Table α where
  rows := place (table.rows.filter (·.id ≠ old)) ⟨new, value⟩
  lastId := table.lastId
  ordered := ordered_place (table.ordered.filter _) _

/-- The row of a number. -/
def find? (table : Table α) (id : Int) : Option (Row α) := table.rows.find? (·.id = id)

/-- Changes what the rows hold. -/
def modify (table : Table α) (change : Row α → α) : Table α where
  rows := table.rows.map fun row => ⟨row.id, change row⟩
  lastId := table.lastId
  ordered := by
    rw [List.pairwise_map]
    exact table.ordered

/-- Changes what the row of a number holds. -/
def set (table : Table α) (id : Int) (value : α) : Table α :=
  table.modify fun row => if row.id = id then value else row.value

/-- The table without the rows that meet a condition. -/
def removeIf (table : Table α) (condition : Row α → Bool) : Table α where
  rows := table.rows.filter (!condition ·)
  lastId := table.lastId
  ordered := table.ordered.filter _

@[simp] theorem rows_empty : (empty : Table α).rows = [] := rfl

@[simp] theorem rows_insert (table : Table α) (value : α) :
    (table.insert value).rows = table.rows ++ [⟨table.nextId, value⟩] := rfl

@[simp] theorem rows_modify (table : Table α) (change : Row α → α) :
    (table.modify change).rows = table.rows.map fun row => ⟨row.id, change row⟩ := rfl

@[simp] theorem rows_removeIf (table : Table α) (condition : Row α → Bool) :
    (table.removeIf condition).rows = table.rows.filter (!condition ·) := rfl

theorem mem_put_iff {table : Table α} {id : Int} {value : α} {row : Row α} :
    row ∈ (table.put id value).rows ↔ row = ⟨id, value⟩ ∨ row ∈ table.rows ∧ row.id ≠ id :=
  mem_place_iff

theorem mem_renumber_iff {table : Table α} {old new : Int} {value : α} {row : Row α} :
    row ∈ (table.renumber old new value).rows ↔
      row = ⟨new, value⟩ ∨ row ∈ table.rows ∧ row.id ≠ old ∧ row.id ≠ new := by
  simp [renumber, mem_place_iff, and_assoc]

theorem mem_insert_iff {table : Table α} {value : α} {row : Row α} :
    row ∈ (table.insert value).rows ↔ row ∈ table.rows ∨ row = ⟨table.nextId, value⟩ := by
  simp

/-- Rows with one number are one row. -/
theorem eq_of_id_eq {table : Table α} {row other : Row α} (present : row ∈ table.rows)
    (found : other ∈ table.rows) (same : row.id = other.id) : row = other := by
  have ordered := table.ordered
  generalize table.rows = rows at ordered present found
  induction rows with
  | nil => simp at present
  | cons head rest ih =>
    rw [List.pairwise_cons] at ordered
    rcases List.mem_cons.1 present with rfl | inRest
    · rcases List.mem_cons.1 found with rfl | otherInRest
      · rfl
      · have := ordered.1 _ otherInRest; omega
    · rcases List.mem_cons.1 found with rfl | otherInRest
      · have := ordered.1 _ inRest; omega
      · exact ih ordered.2 inRest otherInRest

theorem mem_of_find? {table : Table α} {id : Int} {row : Row α}
    (found : table.find? id = some row) : row ∈ table.rows ∧ row.id = id :=
  ⟨List.mem_of_find?_eq_some found, by simpa using List.find?_some found⟩

theorem find?_eq_some_iff {table : Table α} {id : Int} {row : Row α} :
    table.find? id = some row ↔ row ∈ table.rows ∧ row.id = id := by
  constructor
  · exact mem_of_find?
  · rintro ⟨present, same⟩
    cases found : table.find? id with
    | none => exact absurd same (by simpa using List.find?_eq_none.1 found row present)
    | some other =>
      have ⟨inTable, otherId⟩ := mem_of_find? found
      rw [eq_of_id_eq inTable present (otherId.trans same.symm)]

/-- The new row is found by its number, and every other row as before. -/
theorem find?_insert (table : Table α) (value : α) (id : Int) :
    (table.insert value).find? id =
      if id = table.nextId then some ⟨table.nextId, value⟩ else table.find? id := by
  by_cases last : id = table.nextId
  · subst last
    rw [if_pos rfl, find?_eq_some_iff]
    simp
  · rw [if_neg last]
    cases found : table.find? id with
    | some row =>
      rw [find?_eq_some_iff] at found ⊢
      exact ⟨mem_insert_iff.2 (.inl found.1), found.2⟩
    | none =>
      unfold find? at found ⊢
      rw [List.find?_eq_none] at found ⊢
      intro row present
      rcases mem_insert_iff.1 present with inTable | rfl
      · exact found row inTable
      · simpa using fun same : table.nextId = id => last same.symm

end Table

end Telematics
