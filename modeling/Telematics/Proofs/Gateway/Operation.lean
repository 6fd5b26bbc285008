import Telematics.Gateway.Step
import Telematics.Proofs.Gateway.Broadcast
import Telematics.Proofs.Gateway.Effect
import Telematics.Proofs.Store.Locations

/-!
What the operations on devices, commands and positions do, one law for each of them. An operation
that fails changes nothing.

* `attempt_cases`: what comes of an operation that may fail.
* `createDevice_stored`, `updateDevice_stored`, `overwriteDevice_stored`: what is asked of the
  store. `createDevice_eq_ok`, `updateDevice_cases`, `overwriteDevice_cases`,
  `deleteDevice_eq_ok`: what becomes of devices.
* `queueCommand_eq_ok`, `runConsole_eq_ok`, `runConsole_of_order`, `takeCommands_cases`: commands.
* `registerTokenOf_asks`, `queueCommand_asks`, `takeCommands_asks`: what is asked of the store,
  which does not depend on the gateway.
* `storePosition_cases`, `setValid_marks`: positions.
-/

namespace Telematics.Gateway

open Relation (ReflTransGen)

variable {gateway after : Gateway}

/-- What is attempted succeeds, or nothing changes. Nothing is sent. -/
theorem attempt_cases {α : Type} (gateway : Gateway) (reply : α → Reply)
    (change : Except Fault (α × Gateway)) :
    (∃ value after, change = .ok (value, after) ∧
        gateway.attempt reply change = ⟨.ok (reply value), [], after⟩) ∨
      ∃ fault, change = .error fault ∧
        gateway.attempt reply change = ⟨.error fault, [], gateway⟩ := by
  cases change with
  | ok result => exact .inl ⟨result.1, result.2, rfl, rfl⟩
  | error fault => exact .inr ⟨fault, rfl, rfl⟩

theorem ofStore_eq_ok {α : Type} {change : Except Store.Fault (α × Store)} {value : α}
    (done : gateway.ofStore change = .ok (value, after)) :
    ∃ store, change = .ok (value, store) ∧ after = { gateway with store } := by
  unfold ofStore at done
  split at done
  · cases done
    exact ⟨_, rfl, rfl⟩
  · cases done

/-- Dropping sessions under a value drops those of one device or none. -/
theorem evictNumbered_cases (gateway : Gateway) (device : Json) :
    gateway.evictNumbered device = gateway ∨
      ∃ id, device.integer? = some id ∧ gateway.evictNumbered device = gateway.evict id := by
  unfold evictNumbered
  split
  · rename_i id known
    exact .inr ⟨id, known, rfl⟩
  · exact .inl rfl

/-- Dropping sessions of the second manager concerns it alone. -/
theorem evictOwnNumbered_eq (gateway : Gateway) (device : Json) :
    ∃ ownSessions, gateway.evictOwnNumbered device = { gateway with ownSessions } := by
  unfold evictOwnNumbered
  split
  · exact ⟨_, rfl⟩
  · exact ⟨gateway.ownSessions, rfl⟩

@[simp] theorem store_evictNumbered (gateway : Gateway) (device : Json) :
    (gateway.evictNumbered device).store = gateway.store := by
  rcases evictNumbered_cases gateway device with same | ⟨id, -, same⟩ <;> rw [same]
  rfl

/-! ## Devices -/

/-- The device of an identifier is a device of the store. -/
theorem device?_of_deviceOf {uniqueId : Json} {row : Row Device}
    (found : gateway.deviceOf uniqueId = .ok row) : gateway.store.device? row.id = some row := by
  unfold deviceOf at found
  obtain ⟨text, -, found⟩ := bind_eq_ok_iff.1 found
  split at found
  · rename_i known
    cases found
    obtain ⟨name, -, known⟩ := Option.bind_eq_some_iff.1 known
    exact Table.find?_eq_some_iff.2 ⟨List.mem_of_find?_eq_some known, rfl⟩
  · cases found

/-- A device is created in the store. The sessions under the number of its form are dropped. -/
theorem createDevice_stored {change : DeviceChange} {form : DeviceForm}
    (created : gateway.createDevice change = .ok (form, after)) :
    ∃ store, gateway.store.createDevice gateway.clock.now change = .ok (form, store) ∧
      after = { gateway with store }.evictNumbered form.id := by
  unfold createDevice at created
  obtain ⟨⟨form', changed⟩, made, created⟩ := bind_eq_ok_iff.1 created
  obtain ⟨store, stored, rfl⟩ := ofStore_eq_ok made
  cases created
  exact ⟨store, stored, rfl⟩

/-- A created device loses the sessions that were kept under its number. -/
theorem createDevice_eq_ok {change : DeviceChange} {form : DeviceForm}
    (created : gateway.createDevice change = .ok (form, after)) :
    ∃ id device, gateway.store.hasDevice id = false ∧
      after = { gateway with store := gateway.store.addDevice id device }.evict id := by
  obtain ⟨store, stored, rfl⟩ := createDevice_stored created
  obtain ⟨id, device, named, free, rfl⟩ := Store.createDevice_eq_ok stored
  refine ⟨id, device, free, ?_⟩
  rw [evictNumbered, named]
  rfl

/-- A device is changed in the store. The sessions under the number of its form are dropped. -/
theorem updateDevice_stored {uniqueId : Json} {change : DeviceChange} {form : DeviceForm}
    (updated : gateway.updateDevice uniqueId change = .ok (form, after)) :
    ∃ row store, gateway.deviceOf uniqueId = .ok row ∧
      gateway.store.updateDevice gateway.clock.now row change = .ok (form, store) ∧
      after = { gateway with store }.evictNumbered form.id := by
  unfold updateDevice at updated
  obtain ⟨row, found, updated⟩ := bind_eq_ok_iff.1 updated
  obtain ⟨⟨form', changed⟩, made, updated⟩ := bind_eq_ok_iff.1 updated
  obtain ⟨store, stored, rfl⟩ := ofStore_eq_ok made
  cases updated
  exact ⟨row, store, found, stored, rfl⟩

/-- A device that is changed is replaced, or a new device is written. The sessions under the number
    of the form are dropped. -/
theorem updateDevice_cases {uniqueId : Json} {change : DeviceChange} {form : DeviceForm}
    (updated : gateway.updateDevice uniqueId change = .ok (form, after)) :
    (∃ row device, form.number? = .ok (some row.id) ∧ gateway.store.device? row.id = some row ∧
        after = { gateway with
          store := gateway.store.setDevice row.id device }.evictNumbered form.id) ∨
      ∃ id device, form.id = .int id ∧ gateway.store.hasDevice id = false ∧
        after = { gateway with store := gateway.store.addDevice id device }.evict id := by
  obtain ⟨_, store, -, stored, rfl⟩ := updateDevice_stored updated
  rcases Store.saveDevice_cases stored with
    ⟨row, device, numbered, known, rfl, rfl⟩ | ⟨id, device, named, free, rfl⟩
  · exact .inl ⟨row, device, numbered, known, rfl⟩
  · refine .inr ⟨id, device, named, free, ?_⟩
    rw [evictNumbered, named]
    rfl

/-- A device is overwritten in the store, or nothing changes. -/
theorem overwriteDevice_stored {uniqueId : Json} {change : DeviceChange} {count : Nat}
    (done : gateway.overwriteDevice uniqueId change = .ok (count, after)) :
    after = gateway ∨
      ∃ row store, gateway.store.overwriteDevice gateway.clock.zone row change = .ok store ∧
        after = { gateway with store } := by
  unfold overwriteDevice at done
  obtain ⟨text, -, done⟩ := bind_eq_ok_iff.1 done
  split at done
  · cases done
    exact .inl rfl
  · split at done
    · cases done
      exact .inl rfl
    · obtain ⟨store, stored, rfl⟩ := ofStore_eq_ok done
      obtain ⟨store', written, same⟩ := map_eq_ok_iff.1 stored
      cases same
      exact .inr ⟨_, store, written, rfl⟩

/-- A device that is overwritten keeps its sessions. -/
theorem overwriteDevice_cases {uniqueId : Json} {change : DeviceChange} {count : Nat}
    (done : gateway.overwriteDevice uniqueId change = .ok (count, after)) :
    after = gateway ∨
      (∃ id device, after = { gateway with store := gateway.store.setDevice id device }) ∨
      ∃ old new device, gateway.store.isReferredTo old = false ∧
        after = { gateway with store := { gateway.store with
          devices := gateway.store.devices.renumber old new device } } := by
  rcases overwriteDevice_stored done with same | ⟨row, store, written, rfl⟩
  · exact .inl same
  · rcases Store.overwriteDevice_cases written with ⟨device, rfl⟩ | ⟨id, device, alone, rfl⟩
    · exact .inr (.inl ⟨_, device, rfl⟩)
    · exact .inr (.inr ⟨_, id, device, alone, rfl⟩)

/-- A device goes with its sessions and with everything that belongs to it. -/
theorem deleteDevice_eq_ok {uniqueId : Json}
    (deleted : gateway.deleteDevice uniqueId = .ok after) :
    ∃ row, gateway.deviceOf uniqueId = .ok row ∧
      after = { gateway with store := gateway.store.deleteDevice row.id }.evict row.id := by
  unfold deleteDevice at deleted
  obtain ⟨row, found, deleted⟩ := bind_eq_ok_iff.1 deleted
  cases deleted
  exact ⟨row, found, rfl⟩

/-- The second manager registers a device, which loses its sessions at the first one, or it changes
    sessions of its own alone. -/
theorem openOwnSession_cases {protocol remote : Json} {identifiers : List String}
    {session : Option Session}
    (opened : gateway.openOwnSession protocol remote identifiers = .ok (session, after)) :
    (∃ ownSessions, after = { gateway with ownSessions }) ∨
      ∃ name identifier ownSessions,
        after = { gateway with
          store := gateway.store.addDevice gateway.store.devices.nextId
            (Store.newDevice gateway.clock.now name identifier)
          sessions := gateway.sessions.evict gateway.store.devices.nextId
          ownSessions } := by
  unfold openOwnSession at opened
  split at opened
  · cases opened
    exact .inl ⟨gateway.ownSessions, rfl⟩
  · obtain ⟨found, looked, opened⟩ := bind_eq_ok_iff.1 opened
    rw [mapError_eq_ok_iff] at looked
    cases opened
    unfold lookUp at looked
    split at looked
    · cases looked
      exact .inl ⟨_, rfl⟩
    · split at looked
      · obtain ⟨⟨row, store⟩, registered, looked⟩ := bind_eq_ok_iff.1 looked
        obtain ⟨name, -, rfl, rfl⟩ := Store.register_eq_ok registered
        cases looked
        exact .inr ⟨name, _, _, rfl⟩
      · cases looked
        exact .inl ⟨_, rfl⟩
    · cases looked
      exact .inl ⟨_, rfl⟩

/-- The number that a value is as that of a device. -/
def numberOf? (device : Json) : Option Int := (Column.integer "id" device).toOption.join

theorem numberOf?_of_integer {value : Json} {number : Option Int}
    (numbered : Column.integer "id" value = .ok number) : numberOf? value = number := by
  rw [numberOf?, numbered]
  rfl

/-- A token is registered for the device whose number is handed in, or nothing is done. -/
theorem registerTokenOf_asks (value token : Json) :
    (∃ fault, ∀ gateway : Gateway, gateway.registerTokenOf value token = .error fault) ∨
      (∀ gateway : Gateway, gateway.registerTokenOf value token = .ok gateway) ∨
      ∃ owner, numberOf? value = some owner ∧ ∀ gateway : Gateway,
        gateway.registerTokenOf value token = gateway.registerToken owner token := by
  unfold registerTokenOf
  cases numbered : Column.integer "id" value with
  | error fault => exact .inl ⟨.store (.column fault), fun _ => rfl⟩
  | ok number =>
    cases number with
    | none => exact .inr (.inl fun _ => rfl)
    | some owner =>
      exact .inr (.inr ⟨owner, numberOf?_of_integer numbered, fun _ => rfl⟩)

/-- A token of the device whose number a value is is added, or nothing happens. -/
theorem registerTokenOf_cases {device token : Json}
    (registered : gateway.registerTokenOf device token = .ok after) :
    after = gateway ∨
      ∃ id store, gateway.store.addToken gateway.clock.now id token = .added store ∧
        after = { gateway with store }.evict id := by
  rcases registerTokenOf_asks device token with ⟨fault, refused⟩ | nothing | ⟨id, -, asks⟩
  · rw [refused] at registered
    cases registered
  · rw [nothing] at registered
    cases registered
    exact .inl rfl
  · rw [asks] at registered
    rcases registerToken_cases registered with ⟨-, same⟩ | ⟨store, added, same⟩
    · exact .inl same
    · exact .inr ⟨id, store, added, same⟩

/-! ## Commands -/

/-- A command that the columns make of a form is queued, if its device exists. -/
theorem queueCommand_of_toCommand {form : Store.CommandForm} {command : Command}
    (made : form.toCommand = .ok command) (gateway : Gateway) :
    gateway.queueCommand form =
      if gateway.store.hasDevice command.device then
        .ok ((gateway.store.addCommand command).1,
          { gateway with store := (gateway.store.addCommand command).2 })
      else .error (.store .danglingReference) := by
  rw [queueCommand, made]
  show gateway.ofStore (gateway.store.queueCommand command) = _
  unfold Store.queueCommand
  cases gateway.store.hasDevice command.device <;> rfl

/-- A command is queued for the device whose number is handed in, if there is that device. -/
theorem queueCommand_asks (form : Store.CommandForm) :
    (∃ fault, ∀ gateway : Gateway, gateway.queueCommand form = .error fault) ∨
      ∃ command, form.toCommand = .ok command ∧ numberOf? form.device = some command.device ∧
        ∀ gateway : Gateway, gateway.queueCommand form =
          if gateway.store.hasDevice command.device then
            .ok ((gateway.store.addCommand command).1,
              { gateway with store := (gateway.store.addCommand command).2 })
          else .error (.store .danglingReference) := by
  cases made : form.toCommand with
  | error fault => exact .inl ⟨.store fault, fun gateway => by rw [queueCommand, made]; rfl⟩
  | ok command =>
    refine .inr ⟨command, rfl, ?_, queueCommand_of_toCommand made⟩
    unfold Store.CommandForm.toCommand at made
    obtain ⟨number, read, made⟩ := bind_eq_ok_iff.mp made
    obtain ⟨kept, within, made⟩ := bind_eq_ok_iff.mp made
    obtain ⟨_, -, made⟩ := bind_eq_ok_iff.mp made
    obtain ⟨device, there, made⟩ := bind_eq_ok_iff.mp made
    obtain ⟨_, -, made⟩ := bind_eq_ok_iff.mp made
    obtain ⟨_, -, made⟩ := bind_eq_ok_iff.mp made
    obtain ⟨_, -, made⟩ := bind_eq_ok_iff.mp made
    cases made
    rw [Store.required_eq_ok_iff] at there
    subst there
    rw [← (Store.bounded?_eq_ok_iff.mp within).1]
    exact numberOf?_of_integer (Store.ofColumn_eq_ok_iff.mp read)

/-- A command is queued behind all others, if its device exists. -/
theorem queueCommand_eq_ok {form : Store.CommandForm} {row : Row Command}
    (queued : gateway.queueCommand form = .ok (row, after)) :
    ∃ command, form.toCommand = .ok command ∧ gateway.store.hasDevice command.device = true ∧
      row = ⟨gateway.store.commands.nextId, command⟩ ∧
      after = { gateway with store := (gateway.store.addCommand command).2 } := by
  rcases queueCommand_asks form with ⟨fault, refused⟩ | ⟨command, made, -, asks⟩
  · rw [refused] at queued
    cases queued
  · rw [asks] at queued
    split at queued
    · rename_i known
      cases queued
      exact ⟨command, made, known, rfl, rfl⟩
    · cases queued

/-- The command that a command line asks for. -/
def consoleOrder? (gateway : Gateway) (arguments : List String) : Option Command :=
  (Console.read arguments).toOption.bind fun order =>
    (gateway.store.deviceOf? order.uniqueId).bind fun device =>
      (Store.CommandForm.toCommand {
        device := .int device.id
        type := order.type.getD (.text customType)
        payload := order.payload
        createdAt := gateway.clock.now }).toOption

/-- The command that a command line asks for is queued. -/
theorem runConsole_eq_ok {arguments : List String} {text : String}
    (done : gateway.runConsole arguments = .ok (text, after)) :
    ∃ command, gateway.consoleOrder? arguments = some command ∧
      gateway.store.hasDevice command.device = true ∧
      after = { gateway with store := (gateway.store.addCommand command).2 } := by
  unfold runConsole at done
  obtain ⟨order, read, done⟩ := bind_eq_ok_iff.1 done
  rw [mapError_eq_ok_iff] at read
  split at done
  · cases done
  · rename_i device found
    obtain ⟨⟨row, changed⟩, queued, done⟩ := bind_eq_ok_iff.1 done
    obtain ⟨command, made, known, rfl, rfl⟩ := queueCommand_eq_ok queued
    cases done
    refine ⟨command, ?_, known, rfl⟩
    simp [consoleOrder?, read, found, made, Except.toOption]

/-- A command that a command line asks for is queued if its device exists. -/
theorem runConsole_of_order {arguments : List String} {command : Command}
    (ordered : gateway.consoleOrder? arguments = some command)
    (known : gateway.store.hasDevice command.device = true) :
    ∃ text, gateway.runConsole arguments =
      .ok (text, { gateway with store := (gateway.store.addCommand command).2 }) := by
  obtain ⟨order, read, ordered⟩ := Option.bind_eq_some_iff.mp ordered
  obtain ⟨device, found, made⟩ := Option.bind_eq_some_iff.mp ordered
  have queued := queueCommand_of_toCommand (toOption_eq_some_iff.mp made) gateway
  rw [if_pos known] at queued
  rw [runConsole, toOption_eq_some_iff.mp read, mapError_ok_bind, found]
  dsimp only
  rw [queued]
  exact ⟨_, rfl⟩

/-- Commands are taken from the device whose number is handed in, or none are taken. -/
theorem takeCommands_asks (value count : Json) :
    (∃ fault, ∀ gateway : Gateway, gateway.takeCommands value count = .error fault) ∨
      (∀ gateway : Gateway, gateway.takeCommands value count = .ok ([], gateway)) ∨
      ∃ owner limit, numberOf? value = some owner ∧
        ∀ gateway : Gateway, gateway.takeCommands value count =
          .ok ((gateway.store.takeCommands owner limit).1,
            { gateway with store := (gateway.store.takeCommands owner limit).2 }) := by
  unfold takeCommands
  cases numbered : Column.integer "id" value with
  | error fault => exact .inl ⟨.store (.column fault), fun _ => rfl⟩
  | ok number =>
    simp only [ofColumn, mapError_ok_bind]
    cases readCount count with
    | error fault => exact .inl ⟨fault, fun _ => rfl⟩
    | ok limit =>
      simp only [ok_bind]
      by_cases zero : limit = some 0
      · simp only [zero, if_true]
        exact .inr (.inl fun _ => rfl)
      · simp only [zero, if_false]
        cases bounded : Store.bounded? number with
        | error fault => exact .inl ⟨.store fault, fun _ => rfl⟩
        | ok kept =>
          simp only [mapError_ok_bind]
          by_cases large : (limit : Option Int).any (Column.integerLimit ≤ ·) = true
          · simp only [large, if_true]
            exact .inl ⟨_, fun _ => rfl⟩
          · simp only [large]
            cases kept with
            | none => exact .inr (.inl fun _ => rfl)
            | some owner =>
              refine .inr (.inr ⟨owner, limit, ?_, fun _ => rfl⟩)
              rw [numberOf?_of_integer numbered]
              exact (Store.bounded?_eq_ok_iff.mp bounded).1

/-- The oldest commands of a device are taken, or none at all. -/
theorem takeCommands_cases {device count : Json} {taken : List (Row Command)}
    (done : gateway.takeCommands device count = .ok (taken, after)) :
    (taken = [] ∧ after = gateway) ∨
      ∃ id limit, taken = (gateway.store.takeCommands id limit).1 ∧
        after = { gateway with store := (gateway.store.takeCommands id limit).2 } := by
  rcases takeCommands_asks device count with ⟨fault, refused⟩ | nothing | ⟨id, limit, -, asks⟩
  · rw [refused] at done
    cases done
  · rw [nothing] at done
    cases done
    exact .inl ⟨rfl, rfl⟩
  · rw [asks] at done
    cases done
    exact .inr ⟨id, limit, rfl, rfl⟩

/-! ## Positions -/

/-- A position of a device that exists is stored and published, and no other one. -/
theorem storePosition_cases (gateway : Gateway) (position : Position) :
    (∃ stored location, gateway.store.addPosition position =
          .ok (stored, (gateway.store.addLocation location).2) ∧
        stored.row = ⟨gateway.store.locations.nextId, location⟩ ∧
        gateway.store.hasDevice location.device = true ∧
        gateway.storePosition position =
          ⟨.ok stored.row.id, gateway.publication stored.handedIn,
            { gateway with store := (gateway.store.addLocation location).2 }⟩) ∨
      ∃ fault, gateway.storePosition position = ⟨.error (.store fault), [], gateway⟩ := by
  rw [storePosition_eq]
  cases done : gateway.store.storePosition position with
  | error fault => exact .inr ⟨fault, rfl⟩
  | ok result =>
    obtain ⟨stored, store⟩ := result
    obtain ⟨added, known⟩ := Store.storePosition_eq_ok done
    obtain ⟨location, -, row, -, rfl⟩ := Store.addPosition_eq_ok added
    rw [row] at known
    exact .inl ⟨stored, location, added, row, known, rfl⟩

/-- A location that is marked is as it was, but for the mark. -/
theorem setValid_marks {id valid : Json} (done : gateway.setValid id valid = .ok after) :
    ∃ row flag, gateway.store.locations.find? row.id = some row ∧
      after = { gateway with store := { gateway.store with
        locations := gateway.store.locations.set row.id { row.value with valid := flag } } } := by
  unfold setValid at done
  obtain ⟨number, -, done⟩ := bind_eq_ok_iff.1 done
  split at done
  · rename_i row found
    obtain ⟨id, -, found⟩ := Option.bind_eq_some_iff.1 found
    obtain ⟨store, written, done⟩ := bind_eq_ok_iff.1 done
    rw [mapError_eq_ok_iff] at written
    unfold Store.setValid at written
    obtain ⟨_, -, written⟩ := bind_eq_ok_iff.1 written
    obtain ⟨flag, -, written⟩ := bind_eq_ok_iff.1 written
    cases written
    cases done
    obtain ⟨-, rfl⟩ := Table.mem_of_find? found
    exact ⟨row, flag, found, rfl⟩
  · cases done

/-- A location that is marked stays where it is. -/
theorem setValid_eq_ok {id valid : Json} (done : gateway.setValid id valid = .ok after) :
    ∃ row location, gateway.store.locations.find? row.id = some row ∧
      location.device = row.value.device ∧
      after = { gateway with store := { gateway.store with
        locations := gateway.store.locations.set row.id location } } := by
  obtain ⟨row, flag, found, rfl⟩ := setValid_marks done
  exact ⟨row, { row.value with valid := flag }, found, rfl, rfl⟩

end Telematics.Gateway
