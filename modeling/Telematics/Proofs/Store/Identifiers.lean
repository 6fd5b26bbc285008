import Telematics.Proofs.Store.Devices

/-!
The identifiers of devices. No two devices of a store have the same one: a device that comes in has
an identifier that is not in use, and so has a device that gets another identifier. So an identifier
leads to the one device that has it.

* `Distinct`: no two devices have the same identifier.
* `Distinct.deviceOf?_eq_some_iff`: which device an identifier leads to.
* `Distinct.addDevice`, `Distinct.setDevice`, `Distinct.renumber`, `Distinct.deleteDevice`: the
  writes that keep identifiers distinct.
* `createDevice_distinct`, `updateDevice_distinct`, `overwriteDevice_distinct`,
  `addToken_distinct`, `lookUp_distinct`: whatever is done to devices does so.
-/

namespace Telematics.Store

open Calendar (Moment Zone)

/-- No two devices have the same identifier. -/
def Distinct (store : Store) : Prop :=
  ∀ row ∈ store.devices.rows, ∀ other ∈ store.devices.rows,
    row.value.uniqueId = other.value.uniqueId → row = other

instance (store : Store) : Decidable store.Distinct :=
  inferInstanceAs (Decidable (∀ row ∈ store.devices.rows, ∀ other ∈ store.devices.rows,
    row.value.uniqueId = other.value.uniqueId → row = other))

variable {store after : Store} {id : Int} {device : Device}

theorem deviceOf?_eq_none_iff {uniqueId : String} :
    store.deviceOf? uniqueId = none ↔
      ∀ row ∈ store.devices.rows, row.value.uniqueId ≠ uniqueId := by
  simp [deviceOf?]

theorem isTaken_eq_false_iff {uniqueId : String} :
    store.isTaken id uniqueId = false ↔
      ∀ row ∈ store.devices.rows, row.id ≠ id → row.value.uniqueId ≠ uniqueId := by
  simp [isTaken]

theorem distinct_empty : Store.empty.Distinct :=
  fun _ present => absurd present List.not_mem_nil

namespace Distinct

/-- Only devices count. -/
theorem congr (distinct : store.Distinct) (same : after.devices = store.devices) :
    after.Distinct := by
  unfold Distinct
  rw [same]
  exact distinct

/-- An identifier leads to the device that has it. -/
theorem deviceOf?_eq_some_iff (distinct : store.Distinct) {uniqueId : String} {row : Row Device} :
    store.deviceOf? uniqueId = some row ↔
      row ∈ store.devices.rows ∧ row.value.uniqueId = uniqueId := by
  constructor
  · intro found
    exact ⟨List.mem_of_find?_eq_some found, by simpa using List.find?_some found⟩
  · rintro ⟨present, named⟩
    cases found : store.deviceOf? uniqueId with
    | none => exact absurd named (deviceOf?_eq_none_iff.mp found row present)
    | some other =>
      have otherNamed : other.value.uniqueId = uniqueId := by simpa using List.find?_some found
      rw [distinct other (List.mem_of_find?_eq_some found) row present
        (otherNamed.trans named.symm)]

/-- The identifier of a device is no other's. -/
theorem isTaken_self (distinct : store.Distinct) {row : Row Device}
    (present : row ∈ store.devices.rows) :
    store.isTaken row.id row.value.uniqueId = false := by
  rw [isTaken_eq_false_iff]
  intro other there differ same
  exact differ (congrArg Row.id (distinct other there row present same))

/-- Devices among which at most one is new are distinct if no other one has its identifier. -/
theorem ofNew (distinct : store.Distinct) (new : Row Device)
    (origin : ∀ row ∈ after.devices.rows, row = new ∨
      row ∈ store.devices.rows ∧ row.value.uniqueId ≠ new.value.uniqueId) : after.Distinct := by
  intro row present other there same
  rcases origin row present with rfl | ⟨was, differs⟩
  · rcases origin other there with rfl | ⟨-, differs⟩
    · rfl
    · exact absurd same.symm differs
  · rcases origin other there with rfl | ⟨wasOther, -⟩
    · exact absurd same differs
    · exact distinct row was other wasOther same

theorem addDevice (distinct : store.Distinct) (unknown : store.deviceOf? device.uniqueId = none) :
    (store.addDevice id device).Distinct := by
  refine distinct.ofNew ⟨id, device⟩ fun row present => ?_
  rcases Table.mem_put_iff.mp present with rfl | ⟨was, -⟩
  · exact .inl rfl
  · exact .inr ⟨was, deviceOf?_eq_none_iff.mp unknown row was⟩

theorem setDevice (distinct : store.Distinct) (untaken : store.isTaken id device.uniqueId = false) :
    (store.setDevice id device).Distinct := by
  refine distinct.ofNew ⟨id, device⟩ fun row present => ?_
  obtain ⟨old, was, rfl⟩ := List.mem_map.mp present
  by_cases own : old.id = id
  · exact .inl (by simp only [own, if_true])
  · simp only [own, if_false]
    exact .inr ⟨was, isTaken_eq_false_iff.mp untaken old was own⟩

theorem renumber (distinct : store.Distinct) {old new : Int}
    (untaken : store.isTaken old device.uniqueId = false) :
    ({ store with devices := store.devices.renumber old new device } : Store).Distinct := by
  refine distinct.ofNew ⟨new, device⟩ fun row present => ?_
  rcases Table.mem_renumber_iff.mp present with rfl | ⟨was, differs, -⟩
  · exact .inl rfl
  · exact .inr ⟨was, isTaken_eq_false_iff.mp untaken row was differs⟩

theorem deleteDevice (distinct : store.Distinct) : (store.deleteDevice id).Distinct :=
  fun row present other there => distinct row (List.mem_filter.mp present).1 other
    (List.mem_filter.mp there).1

end Distinct

/-! ## What is done to devices -/

theorem insertDevice_distinct (distinct : store.Distinct)
    (inserted : store.insertDevice id device = .ok after) : after.Distinct := by
  obtain ⟨-, rfl⟩ := insertDevice_eq_ok inserted
  refine distinct.addDevice ?_
  unfold insertDevice at inserted
  split at inserted
  · cases inserted
  · rename_i unknown
    exact Option.not_isSome_iff_eq_none.mp unknown

theorem replaceDevice_distinct (distinct : store.Distinct)
    (replaced : store.replaceDevice id device = .ok after) : after.Distinct := by
  rw [replaceDevice_eq_ok replaced]
  refine distinct.setDevice ?_
  unfold replaceDevice at replaced
  split at replaced
  · cases replaced
  · rename_i untaken
    exact Bool.eq_false_iff.mpr untaken

theorem renumberDevice_distinct (distinct : store.Distinct) {row : Row Device}
    (renumbered : store.renumberDevice row id device = .ok after) : after.Distinct := by
  obtain ⟨-, rfl⟩ := renumberDevice_eq_ok renumbered
  refine distinct.renumber ?_
  unfold renumberDevice at renumbered
  split at renumbered
  · cases renumbered
  · split at renumbered
    · cases renumbered
    · rename_i untaken
      exact Bool.eq_false_iff.mpr untaken

theorem createDevice_distinct (distinct : store.Distinct) {now : Moment} {change : DeviceChange}
    {form : DeviceForm} (created : store.createDevice now change = .ok (form, after)) :
    after.Distinct := by
  obtain ⟨_, _, _, -, -, -, inserted⟩ := createDevice_inserts created
  exact insertDevice_distinct distinct inserted

theorem updateDevice_distinct (distinct : store.Distinct) {now : Moment} {row : Row Device}
    {change : DeviceChange} {form : DeviceForm}
    (updated : store.updateDevice now row change = .ok (form, after)) : after.Distinct := by
  rcases saveDevice_writes updated with
    ⟨_, _, -, -, -, replaced⟩ | ⟨_, _, _, -, -, -, -, inserted⟩
  · exact replaceDevice_distinct distinct replaced
  · exact insertDevice_distinct distinct inserted

theorem overwriteDevice_distinct (distinct : store.Distinct) {zone : Zone} {row : Row Device}
    {change : DeviceChange} (done : store.overwriteDevice zone row change = .ok after) :
    after.Distinct := by
  rcases overwriteDevice_writes done with ⟨_, replaced⟩ | ⟨_, _, -, -, renumbered⟩
  · exact replaceDevice_distinct distinct replaced
  · exact renumberDevice_distinct distinct renumbered

/-- A device keeps its identifier when it gets a token. -/
theorem addToken_distinct (distinct : store.Distinct) {now : Moment} {token : Json}
    (added : store.addToken now id token = .added after) : after.Distinct := by
  obtain ⟨row, members, tokens, found, -, -, rfl⟩ := addToken_eq_added added
  exact distinct.setDevice (distinct.isTaken_self (Table.mem_of_find? found).1)

/-- A device that is registered while a session is looked for has an identifier that is unknown. -/
theorem lookUp_distinct (distinct : store.Distinct) {now : Moment} {registers : Bool}
    {protocol remote : Json} {identifiers : List String} {found : Lookup}
    (looked : lookUp store now registers protocol remote identifiers = .ok found) :
    found.store.Distinct := by
  unfold lookUp at looked
  split at looked
  · cases looked
    exact distinct
  · rename_i identifier rest unknown
    split at looked
    · obtain ⟨⟨row, registering⟩, registered, looked⟩ := bind_eq_ok_iff.mp looked
      obtain ⟨name, -, rfl, rfl⟩ := register_eq_ok registered
      cases looked
      exact distinct.addDevice (List.findSome?_eq_none_iff.mp unknown _ List.mem_cons_self)
    · cases looked
      exact distinct
  · cases looked
    exact distinct

end Telematics.Store
