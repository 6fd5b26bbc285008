import Telematics.Store.Basic

/-!
The queue of commands. Commands wait in the order in which they came, and are taken out oldest
first.

* `Store.pending`: the commands that wait for a device.
* `pending_takeCommands`, `pending_takeCommands_of_ne`: what waits after commands are taken.
-/

namespace Telematics.Store

open Calendar (Moment)

/-- The commands that wait for a device, oldest first. -/
def pending (store : Store) (device : Int) : List (Row Command) :=
  store.commands.rows.filter (·.value.device = device)

/-- How a command of a device is shown: its type, and the identifier of the device. -/
def commandTitle (store : Store) (command : Command) : String :=
  command.type ++ " -> " ++ ((store.device? command.device).map (·.value.uniqueId)).getD ""

/-- The store with a new command, and the row of the command. -/
def addCommand (store : Store) (command : Command) : Row Command × Store :=
  (⟨store.commands.nextId, command⟩, { store with commands := store.commands.insert command })

/-- A command as it is handed in. -/
structure CommandForm where
  device : Json
  type : Json
  payload : Json
  createdAt : Moment
deriving DecidableEq, Repr

/-- How a command that was handed in is shown, beside the identifier of its device. -/
def CommandForm.title (form : CommandForm) (uniqueId : String) : String :=
  form.type.asText.shown ++ " -> " ++ uniqueId

/-- The command that the columns make of a form. -/
def CommandForm.toCommand (form : CommandForm) : Except Fault Command := do
  let device ← bounded? (← ofColumn (Column.integer "id" form.device))
  let type ← ofColumn (Column.text form.type)
  return {
    device := ← required device
    type := ← required type
    payload := ← strict form.payload
    createdAt := ← storableTime form.createdAt }

/-- Queues a command for a device, which has to exist. -/
def queueCommand (store : Store) (command : Command) : Except Fault (Row Command × Store) :=
  if !store.hasDevice command.device then .error .danglingReference
  else .ok (store.addCommand command)

/-- The store without some commands. -/
def removeCommands (store : Store) (ids : List Int) : Store :=
  { store with commands := store.commands.removeIf fun row => ids.contains row.id }

/-- Takes the oldest commands of a device out of the queue: at most `count` of them, or all. -/
def takeCommands (store : Store) (device : Int) (count : Option Nat) :
    List (Row Command) × Store :=
  let waiting := store.pending device
  let taken := match count with
    | some count => waiting.take count
    | none => waiting
  (taken, store.removeCommands (taken.map (·.id)))

/-- What is taken and what still waits are together what waited before. -/
theorem pending_takeCommands (store : Store) (device : Int) (count : Option Nat) :
    (store.takeCommands device count).1 ++ (store.takeCommands device count).2.pending device =
      store.pending device := by
  have split : ∀ taken rest : List (Row Command), taken ++ rest = store.pending device →
      taken ++ (store.removeCommands (taken.map (·.id))).pending device =
        store.pending device := by
    intro taken rest parts
    have ordered : (store.pending device).Pairwise (·.id < ·.id) :=
      store.commands.ordered.filter _
    rw [← parts, List.pairwise_append] at ordered
    have remaining : (store.removeCommands (taken.map (·.id))).pending device =
        (store.pending device).filter fun row => !(taken.map (·.id)).contains row.id := by
      simp [removeCommands, pending, List.filter_filter, Bool.and_comm]
    rw [remaining, ← parts, List.filter_append]
    have gone : taken.filter (fun row => !(taken.map (·.id)).contains row.id) = [] := by
      rw [List.filter_eq_nil_iff]
      intro row present
      simpa using ⟨row, present, rfl⟩
    have kept : rest.filter (fun row => !(taken.map (·.id)).contains row.id) = rest := by
      rw [List.filter_eq_self]
      intro row present
      simp only [List.contains_eq_mem, Bool.not_eq_true', decide_eq_false_iff_not, List.mem_map,
        not_exists, not_and]
      intro other inTaken same
      have := ordered.2.2 other inTaken row present
      omega
    rw [gone, kept, List.nil_append]
  cases count with
  | none => exact split (store.pending device) [] (List.append_nil _)
  | some count => exact split _ _ (List.take_append_drop count (store.pending device))

/-- Taking commands of one device leaves those of another waiting. -/
theorem pending_takeCommands_of_ne (store : Store) {device other : Int} (count : Option Nat)
    (differ : device ≠ other) :
    (store.takeCommands device count).2.pending other = store.pending other := by
  have kept : ∀ taken : List (Row Command), (∀ row ∈ taken, row ∈ store.pending device) →
      (store.removeCommands (taken.map (·.id))).pending other = store.pending other := by
    intro taken inPending
    simp only [removeCommands, pending, Table.rows_removeIf, List.filter_filter]
    refine List.filter_congr fun row present => ?_
    by_cases own : row.value.device = other
    · simp only [own, decide_true, Bool.true_and, Bool.not_eq_true', List.contains_eq_mem,
        decide_eq_false_iff_not, List.mem_map, not_exists, not_and]
      intro taken' inTaken same
      have waiting := List.mem_filter.1 (inPending taken' inTaken)
      have : taken' = row := Table.eq_of_id_eq waiting.1 present same
      subst this
      exact differ ((of_decide_eq_true waiting.2).symm.trans own)
    · simp [own]
  unfold takeCommands
  cases count with
  | none => exact kept _ fun _ present => present
  | some count => exact kept _ fun _ present => List.mem_of_mem_take present

end Telematics.Store
