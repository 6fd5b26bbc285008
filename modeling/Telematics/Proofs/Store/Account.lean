import Mathlib.Data.List.Find
import Telematics.Proofs.Store.Commands
import Telematics.Proofs.Store.Devices
import Telematics.Store.Locations

/-!
The account of a device: the device itself, the commands that wait for it, and the locations that
are stored for it. Two stores may hold the same account of a device under other numbers of commands
and locations, because these numbers are counted over all devices.

* `SameAccount`: two stores hold the same account of a device.
* `SameAccount.newest?`, `SameAccount.takeCommands`, `SameAccount.addToken`,
  `SameAccount.addCommand`, `SameAccount.addLocation`: what is asked of the account is answered
  alike, and what is done to it is done alike.
* `sameAccount_setDevice_of_ne`, `sameAccount_takeCommands_of_ne`, `sameAccount_addCommand_of_ne`,
  `sameAccount_addLocation_of_ne`: what is done to another account leaves it as it is.
* `grants`: the device that may report under an identifier. `grants_setDevice`: that does not depend
  on what else the devices hold.
-/

namespace Telematics.Store

open Calendar (Moment)

/-- Two stores hold the same account of a device. Numbers of commands and locations are no part of
    it, but their order is. -/
structure SameAccount (device : Int) (first second : Store) : Prop where
  row : first.device? device = second.device? device
  commands : (first.pending device).map (·.value) = (second.pending device).map (·.value)
  locations : (first.locationsOf device).map (·.value) = (second.locationsOf device).map (·.value)

variable {store first second third : Store} {device other : Int}

namespace SameAccount

theorem refl (device : Int) (store : Store) : SameAccount device store store := ⟨rfl, rfl, rfl⟩

theorem trans (one : SameAccount device first second) (two : SameAccount device second third) :
    SameAccount device first third :=
  ⟨one.row.trans two.row, one.commands.trans two.commands,
    one.locations.trans two.locations⟩

theorem hasDevice (same : SameAccount device first second) :
    first.hasDevice device = second.hasDevice device := by
  rw [Store.hasDevice, Store.hasDevice, same.row]

end SameAccount

/-! ## The newest location -/

/-- Which of two locations is newer depends on their numbers by their order alone. -/
theorem value_newer_congr {one next one' next' : Row Location} (before : one.id < next.id)
    (before' : one'.id < next'.id) (same : one.value = one'.value)
    (sameNext : next.value = next'.value) : (newer one next).value = (newer one' next').value := by
  have decides : isNewer next one = isNewer next' one' := by
    have fixed : fixInstant one = fixInstant one' := by rw [fixInstant, same]; rfl
    have fixedNext : fixInstant next = fixInstant next' := by rw [fixInstant, sameNext]; rfl
    rw [isNewer, isNewer, fixed, fixedNext, decide_eq_true (show next.id > one.id from before),
      decide_eq_true (show next'.id > one'.id from before')]
  unfold newer
  rw [decides]
  split
  · exact sameNext
  · exact same

theorem value_foldl_newer_congr {rows rows' : List (Row Location)} {one one' : Row Location}
    (ordered : (one :: rows).Pairwise (·.id < ·.id))
    (ordered' : (one' :: rows').Pairwise (·.id < ·.id)) (same : one.value = one'.value)
    (values : rows.map (·.value) = rows'.map (·.value)) :
    (rows.foldl newer one).value = (rows'.foldl newer one').value := by
  induction rows generalizing one one' rows' with
  | nil =>
    rw [List.map_nil, eq_comm, List.map_eq_nil_iff] at values
    subst values
    exact same
  | cons next rest ih =>
    cases rows' with
    | nil => cases values
    | cons next' rest' =>
      obtain ⟨sameNext, values⟩ := List.cons.inj values
      -- The newer of two locations is one of them, so it is before the rest as well.
      have stays : ∀ {one next : Row Location} {rest : List (Row Location)},
          (one :: next :: rest).Pairwise (·.id < ·.id) →
            (newer one next :: rest).Pairwise (·.id < ·.id) := by
        intro one next rest ordered
        obtain ⟨first, ordered⟩ := List.pairwise_cons.mp ordered
        rw [List.pairwise_cons] at ordered ⊢
        refine ⟨fun row present => ?_, ordered.2⟩
        unfold newer
        split
        · exact ordered.1 row present
        · exact first row (List.mem_cons_of_mem _ present)
      rw [List.foldl_cons, List.foldl_cons]
      refine ih (stays ordered) (stays ordered') ?_ values
      exact value_newer_congr (List.rel_of_pairwise_cons ordered List.mem_cons_self)
        (List.rel_of_pairwise_cons ordered' List.mem_cons_self) same sameNext

/-- What the newest location holds depends on the numbers of locations by their order alone. -/
theorem value_newestOf?_congr {rows rows' : List (Row Location)}
    (ordered : rows.Pairwise (·.id < ·.id)) (ordered' : rows'.Pairwise (·.id < ·.id))
    (values : rows.map (·.value) = rows'.map (·.value)) :
    (newestOf? rows).map (·.value) = (newestOf? rows').map (·.value) := by
  cases rows with
  | nil =>
    rw [List.map_nil, eq_comm, List.map_eq_nil_iff] at values
    rw [values]
  | cons one rest =>
    cases rows' with
    | nil => cases values
    | cons one' rest' =>
      obtain ⟨same, values⟩ := List.cons.inj values
      exact congrArg some (value_foldl_newer_congr ordered ordered' same values)

/-- The newest position is the same. -/
theorem SameAccount.newest? (same : SameAccount device first second) :
    first.newest? device = second.newest? device := by
  have ordered : ∀ store : Store, (store.locationsOf device).Pairwise (·.id < ·.id) :=
    fun store => store.locations.ordered.filter _
  have newest := value_newestOf?_congr (ordered first) (ordered second) same.locations
  have read : ∀ store : Store, store.newest? device =
      ((newestOf? (store.locationsOf device)).map (·.value)).map Location.toPosition := by
    intro store
    rw [Option.map_map]
    rfl
  rw [read, read, newest]

/-! ## Commands and locations -/

theorem values_pending_addCommand (store : Store) (command : Command) (device : Int) :
    ((store.addCommand command).2.pending device).map (·.value) =
      (store.pending device).map (·.value) ++ [command].filter (·.device = device) := by
  rw [pending_addCommand, List.map_append, List.filter_cons, List.filter_cons]
  split <;> rfl

theorem values_locationsOf_addLocation (store : Store) (location : Location) (device : Int) :
    ((store.addLocation location).2.locationsOf device).map (·.value) =
      (store.locationsOf device).map (·.value) ++ [location].filter (·.device = device) := by
  simp only [locationsOf, addLocation, Table.rows_insert, List.filter_append, List.map_append,
    List.filter_cons]
  split <;> rfl

/-- Commands that are queued alike wait alike. -/
theorem SameAccount.addCommand (same : SameAccount device first second) (command : Command) :
    SameAccount device (first.addCommand command).2 (second.addCommand command).2 where
  row := same.row
  commands := by rw [values_pending_addCommand, values_pending_addCommand, same.commands]
  locations := same.locations

theorem sameAccount_addCommand_of_ne (store : Store) {command : Command}
    (differ : command.device ≠ device) :
    SameAccount device (store.addCommand command).2 store where
  row := rfl
  commands := by simp [values_pending_addCommand, differ]
  locations := rfl

/-- Locations that are stored alike come last alike. -/
theorem SameAccount.addLocation (same : SameAccount device first second) (location : Location) :
    SameAccount device (first.addLocation location).2 (second.addLocation location).2 where
  row := same.row
  commands := same.commands
  locations := by
    rw [values_locationsOf_addLocation, values_locationsOf_addLocation, same.locations]

theorem sameAccount_addLocation_of_ne (store : Store) {location : Location}
    (differ : location.device ≠ device) :
    SameAccount device (store.addLocation location).2 store where
  row := rfl
  commands := rfl
  locations := by simp [values_locationsOf_addLocation, differ]

/-- The commands that are taken are the oldest of those that wait. -/
theorem values_takeCommands (store : Store) (device : Int) (count : Option Nat) :
    (store.takeCommands device count).1.map (·.value) =
      match count with
      | some count => ((store.pending device).map (·.value)).take count
      | none => (store.pending device).map (·.value) := by
  cases count with
  | none => rfl
  | some count => exact List.map_take

/-- The same commands are taken, and the same ones still wait. -/
theorem SameAccount.takeCommands (same : SameAccount device first second) (count : Option Nat) :
    (first.takeCommands device count).1.map (·.value) =
        (second.takeCommands device count).1.map (·.value) ∧
      SameAccount device (first.takeCommands device count).2
        (second.takeCommands device count).2 := by
  have taken : (first.takeCommands device count).1.map (·.value) =
      (second.takeCommands device count).1.map (·.value) := by
    rw [values_takeCommands, values_takeCommands, same.commands]
  refine ⟨taken, same.row, ?_, same.locations⟩
  have whole : ∀ store : Store, (store.takeCommands device count).1.map (·.value) ++
      ((store.takeCommands device count).2.pending device).map (·.value) =
        (store.pending device).map (·.value) := by
    intro store
    rw [← List.map_append, pending_takeCommands]
  have both := (whole first).trans (same.commands.trans (whole second).symm)
  rw [taken] at both
  exact List.append_cancel_left both

theorem sameAccount_takeCommands_of_ne (store : Store) (count : Option Nat)
    (differ : other ≠ device) : SameAccount device (store.takeCommands other count).2 store where
  row := rfl
  commands := by rw [pending_takeCommands_of_ne store count differ]
  locations := rfl

/-! ## Devices -/

theorem SameAccount.setDevice (same : SameAccount device first second) (value : Device) :
    SameAccount device (first.setDevice device value) (second.setDevice device value) where
  row := by rw [device?_setDevice, device?_setDevice, if_pos rfl, if_pos rfl, same.row]
  commands := same.commands
  locations := same.locations

theorem sameAccount_setDevice_of_ne (store : Store) (value : Device) (differ : other ≠ device) :
    SameAccount device (store.setDevice other value) store where
  row := device?_setDevice_of_ne differ.symm
  commands := rfl
  locations := rfl

/-- Whether a token is added to a device, and what the device holds then, depends on the device
    alone. -/
theorem addTokenTo_cases (now : Moment) (row : Row Device) (members : Json.Members)
    (token : Json) :
    (∃ value, ∀ store : Store,
        store.addTokenTo now row members token = .added (store.setDevice row.id value)) ∨
      ∃ result, (∀ after, result ≠ .added after) ∧
        ∀ store : Store, store.addTokenTo now row members token = result := by
  unfold addTokenTo
  cases itemsOf? ((members.get? tokensKey).getD .null) with
  | none => exact .inr ⟨.noItems, fun _ => nofun, fun _ => rfl⟩
  | some tokens =>
    by_cases known : tokens.any (·.isSame token) = true
    · exact .inr ⟨.unchanged, fun _ => nofun, fun _ => if_pos known⟩
    · by_cases strict : token.isStrict = true
      · exact .inl ⟨_, fun _ => (if_neg known).trans (if_pos strict)⟩
      · exact .inr ⟨.notStrict, fun _ => nofun, fun _ => (if_neg known).trans (if_neg strict)⟩

/-- A token is added to the device alike, or none is added and it is told alike why. -/
theorem SameAccount.addToken (same : SameAccount device first second) (now : Moment)
    (token : Json) :
    (∃ value, first.addToken now device token = .added (first.setDevice device value) ∧
        second.addToken now device token = .added (second.setDevice device value)) ∨
      ∃ result, (∀ after, result ≠ .added after) ∧
        first.addToken now device token = result ∧ second.addToken now device token = result := by
  unfold Store.addToken
  rw [same.row]
  cases found : second.device? device with
  | none => exact .inr ⟨.unchanged, fun _ => nofun, rfl, rfl⟩
  | some row =>
    obtain ⟨-, rfl⟩ := Table.mem_of_find? found
    dsimp only
    cases row.value.attributes with
    | object members =>
      rcases addTokenTo_cases now row members token with ⟨value, added⟩ | ⟨result, none, told⟩
      · exact .inl ⟨value, added first, added second⟩
      · exact .inr ⟨result, none, told first, told second⟩
    | _ => exact .inr ⟨.noAttributes, fun _ => nofun, rfl, rfl⟩

/-- A token that is added to another device leaves the account as it is. -/
theorem sameAccount_addToken_of_ne {now : Moment} {token : Json} {after : Store}
    (added : store.addToken now other token = .added after) (differ : other ≠ device) :
    SameAccount device after store := by
  obtain ⟨row, members, tokens, found, -, -, rfl⟩ := addToken_eq_added added
  obtain ⟨-, rfl⟩ := Table.mem_of_find? found
  exact sameAccount_setDevice_of_ne store _ differ

/-! ## Identifiers -/

/-- The device that may report under an identifier. -/
def grants (store : Store) (identifier : String) : Option Int :=
  ((store.deviceOf? identifier).filter (·.value.isEnabled)).map (·.id)

/-- The device of an identifier is found again after a device is replaced that keeps its own. -/
theorem deviceOf?_setDevice {row : Row Device} {value : Device}
    (found : store.device? row.id = some row) (named : value.uniqueId = row.value.uniqueId)
    (identifier : String) :
    (store.setDevice row.id value).deviceOf? identifier =
      (store.deviceOf? identifier).map fun old =>
        ⟨old.id, if old.id = row.id then value else old.value⟩ := by
  obtain ⟨present, -⟩ := Table.mem_of_find? found
  have keeps : ∀ old ∈ store.devices.rows,
      (if old.id = row.id then value else old.value).uniqueId = old.value.uniqueId := by
    intro old was
    split
    · rename_i same
      rw [named, Table.eq_of_id_eq was present same]
    · rfl
  unfold deviceOf? setDevice Table.set
  rw [Table.rows_modify, List.find?_map]
  refine congrArg _ (List.find?_congr fun old was => ?_)
  exact congrArg (fun named => decide (named = identifier)) (keeps old was)

/-- Who may report does not depend on what a device holds beside its identifier and its status. -/
theorem grants_setDevice {row : Row Device} {value : Device}
    (found : store.device? row.id = some row) (named : value.uniqueId = row.value.uniqueId)
    (enabled : value.isEnabled = row.value.isEnabled) (identifier : String) :
    (store.setDevice row.id value).grants identifier = store.grants identifier := by
  rw [grants, grants, deviceOf?_setDevice found named]
  cases known : store.deviceOf? identifier with
  | none => rfl
  | some old =>
    have same : (if old.id = row.id then value else old.value).isEnabled = old.value.isEnabled := by
      split
      · rename_i same
        rw [enabled, Table.eq_of_id_eq (List.mem_of_find?_eq_some known)
          (Table.mem_of_find? found).1 same]
      · rfl
    simp only [Option.map_some, Option.filter_some, same]
    split <;> rfl

/-- Who may report does not depend on notification tokens. -/
theorem grants_addToken {now : Moment} {token : Json} {after : Store}
    (added : store.addToken now device token = .added after) (identifier : String) :
    after.grants identifier = store.grants identifier := by
  obtain ⟨row, members, tokens, found, -, -, rfl⟩ := addToken_eq_added added
  obtain ⟨-, rfl⟩ := Table.mem_of_find? found
  apply grants_setDevice found <;> rfl

end Telematics.Store
