import Telematics.Proofs.Store.Table
import Telematics.Store.Commands
import Telematics.Store.Devices

/-!
The queue of commands, seen by one device.

* `pending_addCommand`: a new command waits behind the others of its device.
* `pending_ordered`: what waits is in the order of its numbers.
* `Queued`: one command more waits. `queued_addCommand`: so it is when a command is added.
* `takeCommands_one_cases`: the oldest command is taken, if one waits.
-/

namespace Telematics.Store

variable {store : Store} {device : Int}

theorem mem_pending {row : Row Command} :
    row ∈ store.pending device ↔ row ∈ store.commands.rows ∧ row.value.device = device := by
  simp [pending]

theorem pending_congr {changed : Store} (same : changed.commands = store.commands) :
    changed.pending device = store.pending device := by
  rw [pending, same]
  rfl

theorem pending_ordered (store : Store) (device : Int) :
    (store.pending device).Pairwise (·.id < ·.id) :=
  store.commands.ordered.filter _

theorem pending_nodup (store : Store) (device : Int) : (store.pending device).Nodup := by
  refine (pending_ordered store device).imp fun {one other} below same => ?_
  rw [same] at below
  exact Int.lt_irrefl _ below

theorem pending_empty (device : Int) : Store.empty.pending device = [] := rfl

/-- A new command waits behind the others of its device. -/
theorem pending_addCommand (store : Store) (command : Command) (device : Int) :
    (store.addCommand command).2.pending device =
      store.pending device ++
        [⟨store.commands.nextId, command⟩].filter (·.value.device = device) := by
  simp [addCommand, pending]

/-- A command of a type and with a payload waits behind the others of its device, and nothing else
    has changed. -/
structure Queued (store after : Store) (device : Int) (type : String) (payload : Json) : Prop where
  appended : ∃ row : Row Command, row.value.type = type ∧ row.value.payload = payload ∧
    after.pending device = store.pending device ++ [row]
  others : ∀ other, other ≠ device → after.pending other = store.pending other
  devices : after.devices = store.devices
  locations : after.locations = store.locations

theorem queued_addCommand (store : Store) (command : Command) :
    Queued store (store.addCommand command).2 command.device command.type command.payload where
  appended := by
    refine ⟨⟨store.commands.nextId, command⟩, rfl, rfl, ?_⟩
    rw [pending_addCommand, List.filter_cons_of_pos (by simp), List.filter_nil]
  others other differ := by
    rw [pending_addCommand, List.filter_cons_of_neg (by simpa using differ.symm), List.filter_nil,
      List.append_nil]
  devices := rfl
  locations := rfl

/-- What waits for a device stays when another one is deleted. -/
theorem pending_deleteDevice_of_ne {deleted : Int} (differ : deleted ≠ device) :
    (store.deleteDevice deleted).pending device = store.pending device := by
  simp only [pending, deleteDevice, Table.rows_removeIf, List.filter_filter]
  refine List.filter_congr fun row _ => ?_
  by_cases own : row.value.device = device
  · simp [own, differ.symm]
  · simp [own]

/-- Whatever is taken was waiting for the device. -/
theorem mem_pending_of_taken {count : Option Nat} {row : Row Command}
    (taken : row ∈ (store.takeCommands device count).1) : row ∈ store.pending device := by
  rw [← pending_takeCommands store device count]
  exact List.mem_append_left _ taken

/-- What is taken belongs to the device. -/
theorem filter_taken (store : Store) (device other : Int) (count : Option Nat) :
    (store.takeCommands device count).1.filter (·.value.device = other) =
      if device = other then (store.takeCommands device count).1 else [] := by
  have own : ∀ row ∈ (store.takeCommands device count).1, row.value.device = device :=
    fun row taken => (mem_pending.mp (mem_pending_of_taken taken)).2
  split
  · rename_i same
    rw [List.filter_eq_self]
    intro row taken
    simpa [same] using own row taken
  · rename_i differ
    rw [List.filter_eq_nil_iff]
    intro row taken
    simpa [own row taken] using differ

/-- The oldest command is taken and no other one, if one waits at all. -/
theorem takeCommands_one_cases (store : Store) (device : Int) :
    store.pending device = [] ∧ store.takeCommands device (some 1) = ([], store) ∨
      ∃ row rest, store.pending device = row :: rest ∧
        (store.takeCommands device (some 1)).1 = [row] ∧
        (store.takeCommands device (some 1)).2.commands.rows =
          store.commands.rows.filter (· ≠ row) := by
  cases waiting : store.pending device with
  | nil =>
    refine .inl ⟨rfl, ?_⟩
    have kept : store.commands.removeIf (fun row => ([] : List Int).contains row.id) =
        store.commands := Table.removeIf_eq_self fun row _ => by simp
    simp only [takeCommands, waiting, List.take_nil, List.map_nil, removeCommands, kept]
  | cons row rest =>
    refine .inr ⟨row, rest, rfl, by simp [takeCommands, waiting], ?_⟩
    have present : row ∈ store.commands.rows := by
      refine (mem_pending.mp (?_ : row ∈ store.pending device)).1
      rw [waiting]
      exact List.mem_cons_self
    simp only [takeCommands, waiting, List.take_succ_cons, List.take_zero, List.map_cons,
      List.map_nil, removeCommands, Table.rows_removeIf]
    -- Commands are removed by number, and no other command has the number of this one.
    refine List.filter_congr fun other inTable => ?_
    by_cases same : other = row
    · simp [same]
    · have differ : other.id ≠ row.id := fun named =>
        same (Table.eq_of_id_eq inTable present named)
      simp [same, differ]

end Telematics.Store
