import Telematics.Proofs.Store.Devices

/-!
The numbers of devices. A number that is given out is above zero and can be kept, and a device that
comes with a number of its own has one that can be kept.

* `NumbersFrom`: the numbers of devices are in the range of numbers from some number on.
* `createDevice_numbersFrom`, `updateDevice_numbersFrom`, `overwriteDevice_numbersFrom`,
  `addToken_numbersFrom`, `lookUp_numbersFrom`: they stay there when a device is written.
-/

namespace Telematics.Store

open Calendar (Moment)

/-- The numbers of devices that can be kept, from some number on. Numbers are given out above
    zero. -/
structure NumbersFrom (least : Int) (store : Store) : Prop where
  given : 0 ≤ store.devices.lastId
  within : ∀ row ∈ store.devices.rows, least ≤ row.id ∧ row.id < Column.integerLimit

variable {store after : Store} {least : Int} {now : Moment}

theorem numbersFrom_empty (least : Int) : NumbersFrom least .empty :=
  ⟨Int.le_refl _, fun _ present => absurd present List.not_mem_nil⟩

/-- A number that is given out is above zero. -/
theorem NumbersFrom.nextId_pos (numbers : NumbersFrom least store) : 0 < store.devices.nextId := by
  have above : ∀ rows : List (Row Device),
      store.devices.lastId ≤ rows.foldr (fun row greatest => max row.id greatest)
        store.devices.lastId := by
    intro rows
    induction rows with
    | nil => exact Int.le_refl _
    | cons row rest ih => exact Int.le_trans ih (Int.le_max_right _ _)
  have := above store.devices.rows
  have := numbers.given
  simp only [Table.nextId]
  omega

/-- A device is written under a number in the range. -/
theorem NumbersFrom.addDevice (numbers : NumbersFrom least store) {id : Int}
    (low : least ≤ id) (high : id < Column.integerLimit) (device : Device) :
    NumbersFrom least (store.addDevice id device) where
  given := Int.le_trans numbers.given (Int.le_max_left _ _)
  within row present := by
    rcases Table.mem_put_iff.mp present with rfl | ⟨old, -⟩
    · exact ⟨low, high⟩
    · exact numbers.within row old

theorem NumbersFrom.setDevice (numbers : NumbersFrom least store) (id : Int) (device : Device) :
    NumbersFrom least (store.setDevice id device) where
  given := numbers.given
  within row present := by
    obtain ⟨old, was, rfl⟩ := List.mem_map.mp present
    exact numbers.within old was

theorem NumbersFrom.deleteDevice (numbers : NumbersFrom least store) (id : Int) :
    NumbersFrom least (store.deleteDevice id) where
  given := numbers.given
  within row present := numbers.within row (List.mem_filter.mp present).1

theorem NumbersFrom.of_devices (numbers : NumbersFrom least store)
    (same : after.devices = store.devices) : NumbersFrom least after := by
  obtain ⟨given, within⟩ := numbers
  rw [← same] at given within
  exact ⟨given, within⟩

/-- The number of a form, if it has one, can be kept. -/
theorem bounded_of_number? {form : DeviceForm} {id : Int}
    (numbered : form.number? = .ok (some id)) :
    -Column.integerLimit ≤ id ∧ id < Column.integerLimit :=
  (Column.bounded_eq_ok_iff.mp (number?_eq_some_iff.mp numbered).2).2

/-- The number of a new device is in the range if it is given out, or if the range is that of all
    numbers that can be kept. -/
theorem NumbersFrom.of_deviceNumber (numbers : NumbersFrom least store) {form : DeviceForm}
    {number : Option Int} {id : Int} (positive : least ≤ 1)
    (own : number ≠ none → least ≤ -Column.integerLimit) (numbered : form.number? = .ok number)
    (chosen : store.deviceNumber number = .ok id) :
    least ≤ id ∧ id < Column.integerLimit := by
  cases number with
  | some number =>
    cases chosen
    obtain ⟨low, high⟩ := bounded_of_number? numbered
    exact ⟨Int.le_trans (own (Option.some_ne_none _)) low, high⟩
  | none =>
    simp only [deviceNumber] at chosen
    split at chosen
    · rename_i room
      cases chosen
      exact ⟨Int.le_trans positive numbers.nextId_pos, room⟩
    · cases chosen

theorem register_numbersFrom (numbers : NumbersFrom least store) (positive : least ≤ 1)
    {protocol : Json} {uniqueId : String} {row : Row Device}
    (registered : store.register now protocol uniqueId = .ok (row, after)) :
    NumbersFrom least after := by
  unfold register at registered
  obtain ⟨_, -, registered⟩ := bind_eq_ok_iff.mp registered
  obtain ⟨id, chosen, registered⟩ := bind_eq_ok_iff.mp registered
  obtain ⟨text, -, registered⟩ := bind_eq_ok_iff.mp registered
  cases registered
  simp only [deviceNumber] at chosen
  split at chosen
  · rename_i room
    cases chosen
    exact numbers.addDevice (Int.le_trans positive numbers.nextId_pos) room _
  · cases chosen

/-- The number of a form that names none is given out. -/
theorem number?_of_unnamed {change : DeviceChange} {number : Option Int}
    (unnamed : change.id = none)
    (numbered : (change.onto (.blank now)).number? = .ok number) : number = none := by
  unfold DeviceForm.number? at numbered
  obtain ⟨read, known, numbered⟩ := bind_eq_ok_iff.mp numbered
  simp only [DeviceChange.onto, unnamed, DeviceForm.blank, Option.getD_none, Column.integer]
    at known
  cases known
  cases numbered
  rfl

theorem createDevice_numbersFrom (numbers : NumbersFrom least store) (positive : least ≤ 1)
    {change : DeviceChange} (own : change.id ≠ none → least ≤ -Column.integerLimit)
    {form : DeviceForm} (created : store.createDevice now change = .ok (form, after)) :
    NumbersFrom least after := by
  obtain ⟨number, id, device, numbered, chosen, -, inserted⟩ := createDevice_inserts created
  obtain ⟨-, rfl⟩ := insertDevice_eq_ok inserted
  have named : number ≠ none → least ≤ -Column.integerLimit := fun some =>
    own fun unnamed => some (number?_of_unnamed unnamed numbered)
  obtain ⟨low, high⟩ := numbers.of_deviceNumber positive named numbered chosen
  exact numbers.addDevice low high _

/-- The form of a device that is there has its number, unless a change names another one. -/
theorem number?_of_unchanged {row : Row Device} {change : DeviceChange} {number : Option Int}
    {updatedAt : Moment} (unnamed : change.id = none)
    (numbered : DeviceForm.number? { change.onto (.ofRow row) with updatedAt } = .ok number) :
    number = some row.id := by
  unfold DeviceForm.number? at numbered
  obtain ⟨read, known, numbered⟩ := bind_eq_ok_iff.mp numbered
  simp only [DeviceChange.onto, unnamed, DeviceForm.ofRow, Option.getD_none, Column.integer]
    at known
  cases known
  obtain ⟨kept, bounded, same⟩ := map_eq_ok_iff.mp numbered
  cases same
  rw [ofColumn, mapError_eq_ok_iff, Column.bounded_eq_ok_iff] at bounded
  rw [bounded.1]

theorem updateDevice_numbersFrom (numbers : NumbersFrom least store) (positive : least ≤ 1)
    {row : Row Device} (known : store.device? row.id = some row) {change : DeviceChange}
    (own : change.id ≠ none → least ≤ -Column.integerLimit) {form : DeviceForm}
    (updated : store.updateDevice now row change = .ok (form, after)) :
    NumbersFrom least after := by
  rcases saveDevice_writes updated with
    ⟨other, device, -, -, -, replaced⟩ |
      ⟨number, id, device, numbered, missing, chosen, -, inserted⟩
  · rw [replaceDevice_eq_ok replaced]
    exact numbers.setDevice _ _
  · obtain ⟨-, rfl⟩ := insertDevice_eq_ok inserted
    -- The device is there under its own number, so the form has another one.
    have named : change.id ≠ none := by
      intro unnamed
      rw [number?_of_unchanged unnamed numbered, Option.bind_some, known] at missing
      cases missing
    obtain ⟨low, high⟩ := numbers.of_deviceNumber positive (fun _ => own named) numbered chosen
    exact numbers.addDevice low high _

theorem overwriteDevice_numbersFrom (numbers : NumbersFrom least store) {zone : Calendar.Zone}
    {row : Row Device} {change : DeviceChange}
    (own : change.id ≠ none → least ≤ -Column.integerLimit)
    (done : store.overwriteDevice zone row change = .ok after) : NumbersFrom least after := by
  rcases overwriteDevice_writes done with
    ⟨device, replaced⟩ | ⟨id, device, other, numbered, renumbered⟩
  · rw [replaceDevice_eq_ok replaced]
    exact numbers.setDevice _ _
  · obtain ⟨-, rfl⟩ := renumberDevice_eq_ok renumbered
    have named : change.id ≠ none := fun unnamed => other (Option.some.inj
      (number?_of_unchanged unnamed numbered))
    obtain ⟨low, high⟩ := bounded_of_number? numbered
    refine ⟨numbers.given, fun row present => ?_⟩
    rcases Table.mem_renumber_iff.mp present with rfl | ⟨old, -, -⟩
    · exact ⟨Int.le_trans (own named) low, high⟩
    · exact numbers.within row old

theorem addToken_numbersFrom (numbers : NumbersFrom least store) {id : Int} {token : Json}
    (added : store.addToken now id token = .added after) : NumbersFrom least after := by
  obtain ⟨row, members, tokens, -, -, -, rfl⟩ := addToken_eq_added added
  exact numbers.setDevice _ _

theorem lookUp_numbersFrom (numbers : NumbersFrom least store) (positive : least ≤ 1)
    {registers : Bool} {protocol remote : Json} {identifiers : List String} {found : Lookup}
    (looked : lookUp store now registers protocol remote identifiers = .ok found) :
    NumbersFrom least found.store := by
  unfold lookUp at looked
  split at looked
  · cases looked
    exact numbers
  · split at looked
    · obtain ⟨⟨row, changed⟩, registered, looked⟩ := bind_eq_ok_iff.mp looked
      cases looked
      exact register_numbersFrom numbers positive registered
    · cases looked
      exact numbers
  · cases looked
    exact numbers

end Telematics.Store
