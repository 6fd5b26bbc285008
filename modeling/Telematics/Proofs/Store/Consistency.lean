import Telematics.Proofs.Store.Devices
import Telematics.Proofs.Store.Locations
import Telematics.Store.Commands

/-!
Consistency of the store. Everything that is done to a store is made of a few changes, and each of
them leaves a consistent store consistent: a command or a location comes in for a device that is
there, and a device goes with everything that belongs to it.

* `Change`: one change of a store.
* `Change.isConsistent`: a change keeps the store consistent.
* `isConsistent_addLocation`: when a location keeps it so.
-/

namespace Telematics.Store

/-- One change of a store. -/
inductive Change (store : Store) : Store → Prop where
  | deviceAdded {id : Int} {device : Device} :
      store.hasDevice id = false → Change store (store.addDevice id device)
  | deviceReplaced {id : Int} {device : Device} : Change store (store.setDevice id device)
  /-- A device gets another number. Nothing refers to it. -/
  | deviceRenumbered {old new : Int} {device : Device} :
      store.isReferredTo old = false →
      Change store { store with devices := store.devices.renumber old new device }
  | deviceDeleted {id : Int} : Change store (store.deleteDevice id)
  | commandQueued {command : Command} :
      store.hasDevice command.device = true → Change store (store.addCommand command).2
  | commandsRemoved {ids : List Int} : Change store (store.removeCommands ids)
  | locationAdded {location : Location} :
      store.hasDevice location.device = true → Change store (store.addLocation location).2
  | locationReplaced {row : Row Location} {location : Location} :
      store.locations.find? row.id = some row → location.device = row.value.device →
      Change store { store with locations := store.locations.set row.id location }

variable {store after : Store}

theorem isConsistent_iff :
    store.isConsistent = true ↔
      (∀ row ∈ store.commands.rows, store.hasDevice row.value.device = true) ∧
        ∀ row ∈ store.locations.rows, store.hasDevice row.value.device = true := by
  simp [isConsistent]

theorem isConsistent_empty : Store.empty.isConsistent = true := rfl

/-- A store stays consistent if its commands and locations are among those that it had, and every
    device that one of them belongs to is still there. -/
theorem isConsistent_of_subset (consistent : store.isConsistent = true)
    (commands : ∀ row ∈ after.commands.rows, row ∈ store.commands.rows)
    (locations : ∀ row ∈ after.locations.rows, row ∈ store.locations.rows)
    (commandOwner : ∀ row ∈ after.commands.rows, store.hasDevice row.value.device = true →
      after.hasDevice row.value.device = true)
    (locationOwner : ∀ row ∈ after.locations.rows, store.hasDevice row.value.device = true →
      after.hasDevice row.value.device = true) :
    after.isConsistent = true := by
  rw [isConsistent_iff] at consistent ⊢
  constructor
  · intro row present
    exact commandOwner row present (consistent.1 row (commands row present))
  · intro row present
    exact locationOwner row present (consistent.2 row (locations row present))

/-- A device that is there stays there if devices are only added or replaced. -/
theorem isConsistent_of_hasDevice (consistent : store.isConsistent = true)
    (commands : after.commands = store.commands) (locations : after.locations = store.locations)
    (devices : ∀ id, store.hasDevice id = true → after.hasDevice id = true) :
    after.isConsistent = true := by
  refine isConsistent_of_subset consistent ?_ ?_ (fun _ _ => devices _) (fun _ _ => devices _)
  · rw [commands]
    exact fun _ => id
  · rw [locations]
    exact fun _ => id

theorem hasDevice_iff {id : Int} :
    store.hasDevice id = true ↔ ∃ row ∈ store.devices.rows, row.id = id := by
  rw [hasDevice, Option.isSome_iff_exists]
  simp only [device?, Table.find?_eq_some_iff]

/-- A device to which something refers keeps its number when another one gets a new number. -/
theorem hasDevice_renumber {old new id : Int} {device : Device} (differ : id ≠ old)
    (known : store.hasDevice id = true) :
    ({ store with devices := store.devices.renumber old new device } : Store).hasDevice id =
      true := by
  rw [hasDevice_iff] at known ⊢
  obtain ⟨row, present, rfl⟩ := known
  by_cases taken : row.id = new
  · exact ⟨⟨new, device⟩, Table.mem_renumber_iff.2 (.inl rfl), taken.symm⟩
  · exact ⟨row, Table.mem_renumber_iff.2 (.inr ⟨present, differ, taken⟩), rfl⟩

/-- The devices but for the deleted one stay. -/
theorem hasDevice_deleteDevice {deleted id : Int} (differ : id ≠ deleted)
    (known : store.hasDevice id = true) : (store.deleteDevice deleted).hasDevice id = true := by
  rw [hasDevice_iff] at known ⊢
  obtain ⟨row, present, rfl⟩ := known
  refine ⟨row, ?_, rfl⟩
  simp only [deleteDevice, Table.rows_removeIf, List.mem_filter]
  exact ⟨present, by simpa using differ⟩

/-- A change keeps the store consistent. -/
theorem Change.isConsistent (change : Change store after)
    (consistent : store.isConsistent = true) : after.isConsistent = true := by
  cases change with
  | deviceAdded _ =>
    exact isConsistent_of_hasDevice consistent rfl rfl fun other known => hasDevice_addDevice known
  | deviceReplaced =>
    refine isConsistent_of_hasDevice consistent rfl rfl fun other known => ?_
    rw [hasDevice_setDevice]
    exact known
  | @deviceRenumbered old new device alone =>
    simp only [isReferredTo, Bool.or_eq_false_iff, List.any_eq_false, decide_eq_true_eq] at alone
    exact isConsistent_of_subset consistent (fun _ => id) (fun _ => id)
      (fun row present known => hasDevice_renumber (alone.1 row present) known)
      (fun row present known => hasDevice_renumber (alone.2 row present) known)
  | @deviceDeleted deleted =>
    have mine : ∀ {α : Type} {table : Table α} {owner : Row α → Int} {row : Row α},
        row ∈ (table.removeIf fun row => decide (owner row = deleted)).rows →
          row ∈ table.rows ∧ owner row ≠ deleted := by
      intro α table owner row present
      simpa using present
    exact isConsistent_of_subset consistent (fun row present => (mine present).1)
      (fun row present => (mine present).1)
      (fun row present known => hasDevice_deleteDevice (mine present).2 known)
      (fun row present known => hasDevice_deleteDevice (mine present).2 known)
  | @commandQueued command known =>
    rw [isConsistent_iff] at consistent ⊢
    refine ⟨fun row present => ?_, consistent.2⟩
    rcases Table.mem_insert_iff.1 present with old | rfl
    · exact consistent.1 row old
    · exact known
  | commandsRemoved =>
    exact isConsistent_of_subset consistent (fun row present => (List.mem_filter.1 present).1)
      (fun _ => id) (fun _ _ known => known) (fun _ _ known => known)
  | @locationAdded location known =>
    rw [isConsistent_iff] at consistent ⊢
    refine ⟨consistent.1, fun row present => ?_⟩
    rcases Table.mem_insert_iff.1 present with old | rfl
    · exact consistent.2 row old
    · exact known
  | @locationReplaced row location found owner =>
    rw [isConsistent_iff] at consistent ⊢
    refine ⟨consistent.1, fun other present => ?_⟩
    obtain ⟨old, inTable, rfl⟩ := List.mem_map.1 present
    -- The owner of the marked location is the one that it had.
    by_cases own : old.id = row.id
    · simp only [own, if_true]
      rw [owner]
      exact consistent.2 row (Table.mem_of_find? found).1
    · simp only [own, if_false]
      exact consistent.2 old inTable

/-- With a location more, a consistent store stays so if and only if the device of the location
    exists. -/
theorem isConsistent_addLocation (consistent : store.isConsistent = true) (location : Location) :
    (store.addLocation location).2.isConsistent = store.hasDevice location.device := by
  cases known : store.hasDevice location.device with
  | true => exact (Change.locationAdded known).isConsistent consistent
  | false =>
    rw [← Bool.not_eq_true, isConsistent_iff]
    rintro ⟨-, owned⟩
    have kept : store.hasDevice location.device = true :=
      owned ⟨store.locations.nextId, location⟩ (Table.mem_insert_iff.2 (.inr rfl))
    rw [known] at kept
    cases kept

end Telematics.Store
