import Telematics.Proofs.Report.Action
import Telematics.Proofs.Store.Table
import Telematics.Session

/-!
What becomes of the devices of a store. A device that is saved is written under its number, in the
place of the device that was there or as a new one; nothing else of the store changes.

* `createDevice_inserts`, `saveDevice_writes`, `overwriteDevice_writes`: which write an operation
  comes to.
* `register_eq_ok`, `addToken_eq_added`, `createDevice_eq_ok`: what a device is written with.
* `saveDevice_cases`, `overwriteDevice_cases`: a device is replaced or newly written.
* `device?_setDevice`: a device that is replaced keeps its number.
-/

namespace Telematics.Store

open Calendar (Moment)

variable {store after : Store} {now : Moment}

theorem ofColumn_eq_ok_iff {α : Type} {column : Except Column.Fault α} {value : α} :
    ofColumn column = .ok value ↔ column = .ok value :=
  mapError_eq_ok_iff

theorem required_eq_ok_iff {α : Type} {value : Option α} {kept : α} :
    required value = .ok kept ↔ value = some kept := by
  cases value <;> simp [required]

/-- A new device is written under its number. -/
def addDevice (store : Store) (id : Int) (device : Device) : Store :=
  { store with devices := store.devices.put id device }

theorem device?_addDevice (store : Store) (id other : Int) (device : Device) :
    (store.addDevice id device).device? other =
      if other = id then some ⟨id, device⟩ else store.device? other :=
  Table.find?_put _ _ _ _

theorem device?_setDevice (store : Store) (id other : Int) (device : Device) :
    (store.setDevice id device).device? other =
      if other = id then (store.device? id).map fun row => ⟨row.id, device⟩
      else store.device? other :=
  Table.find?_set _ _ _ _

theorem device?_addDevice_of_ne {store : Store} {id other : Int} {device : Device}
    (differ : other ≠ id) : (store.addDevice id device).device? other = store.device? other := by
  rw [Store.device?_addDevice, if_neg differ]

theorem device?_setDevice_of_ne {store : Store} {id other : Int} {device : Device}
    (differ : other ≠ id) : (store.setDevice id device).device? other = store.device? other := by
  rw [Store.device?_setDevice, if_neg differ]

theorem device?_deleteDevice_of_ne {store : Store} {id other : Int} (differ : other ≠ id) :
    (store.deleteDevice id).device? other = store.device? other := by
  refine Table.find?_congr fun row named => ?_
  simp only [deleteDevice, Table.rows_removeIf, List.mem_filter, Bool.not_eq_true',
    decide_eq_false_iff_not, and_iff_left_iff_imp]
  rintro - rfl
  exact differ named.symm

theorem hasDevice_addDevice {store : Store} {id other : Int} {device : Device}
    (known : store.hasDevice other = true) :
    (store.addDevice id device).hasDevice other = true := by
  rw [hasDevice, device?_addDevice]
  split
  · rfl
  · exact known

@[simp] theorem hasDevice_setDevice (store : Store) (id other : Int) (device : Device) :
    (store.setDevice id device).hasDevice other = store.hasDevice other := by
  unfold hasDevice
  rw [device?_setDevice]
  split
  · rename_i same
    rw [same, Option.isSome_map]
  · rfl

/-- The device that registration makes of an identifier and a protocol. -/
def newDevice (now : Moment) (protocol uniqueId : String) : Device where
  name := uniqueId
  uniqueId
  protocol
  status := activeStatus
  attributes := .object []
  createdAt := now
  updatedAt := now

theorem isEnabled_newDevice (now : Moment) (protocol uniqueId : String) :
    (newDevice now protocol uniqueId).isEnabled = true := by
  show decide (activeStatus ≠ inactiveStatus) = true
  decide

theorem deviceNumber_none_eq_ok {id : Int} (numbered : store.deviceNumber none = .ok id) :
    id = store.devices.nextId := by
  simp only [deviceNumber] at numbered
  split at numbered
  · exact (Except.ok.inj numbered).symm
  · cases numbered

/-- A registered device has the next number, and its identifier for a name. -/
theorem register_eq_ok {protocol : Json} {uniqueId : String} {row : Row Device}
    (registered : store.register now protocol uniqueId = .ok (row, after)) :
    ∃ text, Column.text protocol = .ok (some text) ∧
      row = ⟨store.devices.nextId, newDevice now text uniqueId⟩ ∧
      after = store.addDevice row.id row.value := by
  unfold register at registered
  obtain ⟨text?, written, registered⟩ := bind_eq_ok_iff.1 registered
  obtain ⟨id, numbered, registered⟩ := bind_eq_ok_iff.1 registered
  obtain ⟨text, known, registered⟩ := bind_eq_ok_iff.1 registered
  obtain rfl := required_eq_ok_iff.1 known
  cases registered
  exact ⟨_, ofColumn_eq_ok_iff.1 written, by rw [deviceNumber_none_eq_ok numbered]; rfl, rfl⟩

/-- A device is registered if its protocol can be a name and a number is left for it. -/
theorem register_isOk_iff {protocol : Json} {uniqueId : String} :
    (∃ registered, store.register now protocol uniqueId = .ok registered) ↔
      Column.IsName protocol ∧ store.devices.nextId < Column.integerLimit := by
  constructor
  · rintro ⟨⟨row, after⟩, done⟩
    obtain ⟨name, named, -, -⟩ := register_eq_ok done
    unfold register at done
    obtain ⟨_, -, done⟩ := bind_eq_ok_iff.1 done
    obtain ⟨id, numbered, -⟩ := bind_eq_ok_iff.1 done
    refine ⟨Column.exists_text_iff.1 ⟨name, named⟩, ?_⟩
    simp only [deviceNumber] at numbered
    split at numbered
    · assumption
    · cases numbered
  · rintro ⟨named, left⟩
    obtain ⟨name, text⟩ := Column.exists_text_iff.2 named
    have numbered : store.deviceNumber none = .ok store.devices.nextId := if_pos left
    rw [register, text, numbered]
    exact ⟨_, rfl⟩

/-- Apart from a torn protocol, a registration is refused for want of a protocol or a number. -/
theorem register_refuses_iff {protocol : Json} {uniqueId : String} :
    (∃ fault, store.register now protocol uniqueId = .error fault ∧
        fault ≠ .column .unencodable) ↔
      (∀ torn, protocol ≠ .text (.torn torn)) ∧
        (protocol = .null ∨ Column.integerLimit ≤ store.devices.nextId) := by
  constructor
  · rintro ⟨fault, failed, other⟩
    have whole : ∀ torn, protocol ≠ .text (.torn torn) := by
      rintro torn rfl
      cases failed
      exact other rfl
    refine ⟨whole, Decidable.or_iff_not_imp_left.mpr fun named => Int.not_lt.mp fun left => ?_⟩
    obtain ⟨registered, done⟩ := register_isOk_iff.mpr ⟨⟨named, whole⟩, left⟩
    rw [failed] at done
    cases done
  · rintro ⟨whole, wanting⟩
    cases result : store.register now protocol uniqueId with
    | ok registered =>
      obtain ⟨named, left⟩ := register_isOk_iff.mp ⟨_, result⟩
      exact (wanting.elim named.1 (Int.not_le.mpr left)).elim
    | error fault =>
      refine ⟨fault, rfl, ?_⟩
      rintro rfl
      obtain ⟨kept, text⟩ := Column.exists_text_eq_ok whole
      rw [register, text] at result
      cases numbered : store.deviceNumber none with
      | ok number =>
        rw [numbered] at result
        cases kept <;> cases result
      | error refusal =>
        rw [numbered] at result
        cases result
        rw [deviceNumber] at numbered
        split at numbered <;> cases numbered

/-- Of a single identifier, the first device that is known is the one that it names. -/
@[simp] theorem firstKnown?_singleton (store : Store) (identifier : String) :
    store.firstKnown? [identifier] = store.deviceOf? identifier := by
  simp only [firstKnown?, List.findSome?_cons, List.findSome?_nil]
  split
  · rename_i row found
    exact found.symm
  · rename_i missing
    exact missing.symm

/-- Identifiers that are found belong to a device of the store. -/
theorem mem_of_firstKnown? {identifiers : List String} {row : Row Device}
    (known : store.firstKnown? identifiers = some row) :
    store.device? row.id = some row ∧ row.value.uniqueId ∈ identifiers := by
  obtain ⟨identifier, listed, found⟩ := List.exists_of_findSome?_eq_some known
  have named : row.value.uniqueId = identifier := by simpa using List.find?_some found
  refine ⟨Table.find?_eq_some_iff.2 ⟨List.mem_of_find?_eq_some found, rfl⟩, ?_⟩
  rw [named]
  exact listed

/-- A token that is added comes behind the others, which the attributes of the device hold. -/
theorem addToken_eq_added {id : Int} {token : Json}
    (added : store.addToken now id token = .added after) :
    ∃ (row : Row Device) (members : Json.Members) (tokens : List Json),
      store.device? id = some row ∧ row.value.attributes = .object members ∧
      itemsOf? ((members.get? tokensKey).getD .null) = some tokens ∧
      after = store.setDevice row.id { row.value with
        attributes := .object (members.put tokensKey (.list (tokens ++ [token])))
        updatedAt := now } := by
  unfold addToken at added
  split at added
  · cases added
  · rename_i row found
    split at added
    · rename_i members kept
      unfold addTokenTo at added
      split at added
      · cases added
      · rename_i tokens listed
        split at added
        · cases added
        · split at added
          · cases added
            exact ⟨row, members, tokens, found, kept, listed, rfl⟩
          · cases added
    · cases added

theorem addToken_others {changed : Store} {id : Int} {token : Json}
    (added : store.addToken now id token = .added changed) :
    ∀ other, other ≠ id → changed.device? other = store.device? other := by
  obtain ⟨row, members, tokens, found, -, -, rfl⟩ := addToken_eq_added added
  have named : row.id = id := (Table.mem_of_find? found).2
  intro other differ
  exact device?_setDevice_of_ne (by rw [named]; exact differ)

/-! ## Columns -/

theorem bounded?_eq_ok_iff {number : Option Int} {kept : Int} :
    bounded? number = .ok (some kept) ↔
      number = some kept ∧ Column.bounded kept = .ok kept := by
  cases number with
  | none => exact iff_of_false (fun same => nomatch same) (fun same => nomatch same.1)
  | some number =>
    show Except.map some (ofColumn (Column.bounded number)) = _ ↔ _
    rw [map_eq_ok_iff]
    simp only [ofColumn_eq_ok_iff, Option.some.injEq, Column.bounded_eq_ok_iff]
    constructor
    · rintro ⟨_, ⟨rfl, within⟩, rfl⟩
      exact ⟨rfl, trivial, within⟩
    · rintro ⟨rfl, -, within⟩
      exact ⟨_, ⟨rfl, within⟩, rfl⟩

/-- A value that equals an integer is that integer as a number. -/
theorem integer_of_integer? {value : Json} {whole : Int} (equals : value.integer? = some whole) :
    Column.integer "id" value = .ok (some whole) := by
  cases value with
  | int number =>
    cases equals
    rfl
  | bool flag =>
    cases equals
    rfl
  | float number =>
    -- A float that equals an integer has no fraction, so cutting it off gives that integer.
    obtain ⟨known, -⟩ := Option.filter_eq_some_iff.mp equals
    cases number with
    | infinite sign => cases known
    | _ => simp only [Column.integer, known]
  | _ => cases equals

/-- The number of a form is that of its column, and can be kept. -/
theorem number?_eq_some_iff {form : DeviceForm} {id : Int} :
    form.number? = .ok (some id) ↔
      Column.integer "id" form.id = .ok (some id) ∧ Column.bounded id = .ok id := by
  unfold DeviceForm.number?
  simp only [bind_eq_ok_iff, ofColumn_eq_ok_iff, bounded?_eq_ok_iff]
  constructor
  · rintro ⟨_, read, rfl, kept⟩
    exact ⟨read, kept⟩
  · rintro ⟨read, kept⟩
    exact ⟨_, read, rfl, kept⟩

/-- The number of a form that equals an integer is that integer. -/
theorem number?_of_integer? {form : DeviceForm} {whole id : Int}
    (equals : form.id.integer? = some whole) (numbered : form.number? = .ok (some id)) :
    whole = id := by
  have read := (number?_eq_some_iff.mp numbered).1
  rw [integer_of_integer? equals] at read
  exact Option.some.inj (Except.ok.inj read)

/-! ## Saving -/

/-- A device is put under a free number only. -/
theorem insertDevice_eq_ok {id : Int} {device : Device}
    (inserted : store.insertDevice id device = .ok after) :
    store.hasDevice id = false ∧ after = store.addDevice id device := by
  unfold insertDevice at inserted
  split at inserted
  · cases inserted
  · split at inserted
    · cases inserted
    · rename_i free
      exact ⟨by simpa using free, (Except.ok.inj inserted).symm⟩

theorem replaceDevice_eq_ok {id : Int} {device : Device}
    (replaced : store.replaceDevice id device = .ok after) :
    after = store.setDevice id device := by
  unfold replaceDevice at replaced
  split at replaced
  · cases replaced
  · exact (Except.ok.inj replaced).symm

/-- A created device is put in under the number of its form, or under one that is given out. -/
theorem createDevice_inserts {change : DeviceChange} {form : DeviceForm}
    (created : store.createDevice now change = .ok (form, after)) :
    ∃ number id device, (change.onto (.blank now)).number? = .ok number ∧
      store.deviceNumber number = .ok id ∧ form.id = .int id ∧
      store.insertDevice id device = .ok after := by
  unfold createDevice at created
  obtain ⟨number, numbered, created⟩ := bind_eq_ok_iff.1 created
  obtain ⟨id, chosen, created⟩ := bind_eq_ok_iff.1 created
  obtain ⟨device, _, created⟩ := bind_eq_ok_iff.1 created
  obtain ⟨_, inserted, created⟩ := bind_eq_ok_iff.1 created
  cases created
  exact ⟨number, id, device, numbered, chosen, rfl, inserted⟩

/-- A created device has a number of its own, which its form comes out with. -/
theorem createDevice_eq_ok {change : DeviceChange} {form : DeviceForm}
    (created : store.createDevice now change = .ok (form, after)) :
    ∃ id device, form.id = .int id ∧ store.hasDevice id = false ∧
      after = store.addDevice id device := by
  obtain ⟨_, id, device, -, -, named, inserted⟩ := createDevice_inserts created
  exact ⟨id, device, named, insertDevice_eq_ok inserted⟩

/-- A saved form replaces the device of its number. Without one a new device is put in. -/
theorem saveDevice_writes {form saved : DeviceForm}
    (done : store.saveDevice now form = .ok (saved, after)) :
    (∃ row device, form.number? = .ok (some row.id) ∧ store.device? row.id = some row ∧
        saved = form ∧ store.replaceDevice row.id device = .ok after) ∨
      ∃ number id device, form.number? = .ok number ∧ number.bind store.device? = none ∧
        store.deviceNumber number = .ok id ∧ saved.id = .int id ∧
        store.insertDevice id device = .ok after := by
  unfold saveDevice at done
  obtain ⟨number, numbered, done⟩ := bind_eq_ok_iff.1 done
  split at done
  · rename_i row found
    obtain ⟨device, _, done⟩ := bind_eq_ok_iff.1 done
    obtain ⟨_, replaced, done⟩ := bind_eq_ok_iff.1 done
    cases done
    obtain ⟨id, rfl, known⟩ := Option.bind_eq_some_iff.1 found
    obtain ⟨-, rfl⟩ := Table.mem_of_find? known
    exact .inl ⟨row, device, numbered, known, rfl, replaced⟩
  · rename_i missing
    obtain ⟨id, chosen, done⟩ := bind_eq_ok_iff.1 done
    obtain ⟨device, _, done⟩ := bind_eq_ok_iff.1 done
    obtain ⟨_, inserted, done⟩ := bind_eq_ok_iff.1 done
    cases done
    exact .inr ⟨number, id, _, numbered, missing, chosen, rfl, inserted⟩

/-- A saved device is replaced if there is one of its number, and newly written otherwise. -/
theorem saveDevice_cases {form saved : DeviceForm}
    (done : store.saveDevice now form = .ok (saved, after)) :
    (∃ row device, form.number? = .ok (some row.id) ∧ store.device? row.id = some row ∧
        saved = form ∧ after = store.setDevice row.id device) ∨
      ∃ id device, saved.id = .int id ∧ store.hasDevice id = false ∧
        after = store.addDevice id device := by
  rcases saveDevice_writes done with
    ⟨row, device, numbered, known, same, replaced⟩ | ⟨_, id, device, -, -, -, named, inserted⟩
  · exact .inl ⟨row, device, numbered, known, same, replaceDevice_eq_ok replaced⟩
  · exact .inr ⟨id, device, named, insertDevice_eq_ok inserted⟩

/-- A device to which nothing refers is given another number. -/
theorem renumberDevice_eq_ok {row : Row Device} {id : Int} {device : Device}
    (renumbered : store.renumberDevice row id device = .ok after) :
    store.isReferredTo row.id = false ∧
      after = { store with devices := store.devices.renumber row.id id device } := by
  unfold renumberDevice at renumbered
  split at renumbered
  · cases renumbered
  · split at renumbered
    · cases renumbered
    · split at renumbered
      · cases renumbered
      · rename_i alone
        exact ⟨by simpa using alone, (Except.ok.inj renumbered).symm⟩

/-- A device that is overwritten is replaced under its number, or gets that of its form. -/
theorem overwriteDevice_writes {zone : Calendar.Zone} {row : Row Device} {change : DeviceChange}
    (done : store.overwriteDevice zone row change = .ok after) :
    (∃ device, store.replaceDevice row.id device = .ok after) ∨
      ∃ id device, id ≠ row.id ∧ (change.onto (.ofRow row)).number? = .ok (some id) ∧
        store.renumberDevice row id device = .ok after := by
  unfold overwriteDevice at done
  obtain ⟨number, numbered, done⟩ := bind_eq_ok_iff.1 done
  obtain ⟨id, kept, done⟩ := bind_eq_ok_iff.1 done
  obtain ⟨_, _, done⟩ := bind_eq_ok_iff.1 done
  obtain ⟨_, _, done⟩ := bind_eq_ok_iff.1 done
  obtain ⟨device, _, done⟩ := bind_eq_ok_iff.1 done
  rw [required_eq_ok_iff.mp kept] at numbered
  split at done
  · rename_i own
    subst own
    exact .inl ⟨_, done⟩
  · rename_i other
    exact .inr ⟨id, _, other, numbered, done⟩

/-- A device that is overwritten keeps its number, or nothing refers to it. -/
theorem overwriteDevice_cases {zone : Calendar.Zone} {row : Row Device} {change : DeviceChange}
    (done : store.overwriteDevice zone row change = .ok after) :
    (∃ device, after = store.setDevice row.id device) ∨
      ∃ id device, store.isReferredTo row.id = false ∧
        after = { store with devices := store.devices.renumber row.id id device } := by
  rcases overwriteDevice_writes done with ⟨device, replaced⟩ | ⟨id, device, -, -, renumbered⟩
  · exact .inl ⟨device, replaceDevice_eq_ok replaced⟩
  · exact .inr ⟨id, device, renumberDevice_eq_ok renumbered⟩

end Telematics.Store
