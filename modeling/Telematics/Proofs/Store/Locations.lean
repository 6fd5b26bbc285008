import Telematics.Proofs.Store.Devices
import Telematics.Store.Locations

/-!
What is stored of a position: a location behind the others, of the device that the position names.
A position can be stored if each of its values becomes that of its column, its times are on the UTC
calendar, and what it says beside is strict.

* `Location.Keeps`, `Location.ofPosition_eq_ok_iff`: what a location keeps of a position.
* `storableMeasure_idem`: a measure that was stored once is stored as it is.
* `addPosition_eq_ok_iff`, `storePosition_eq_ok`: when a position is stored, and what the store
  holds afterwards. `addPosition_cases`: the store has no part in that.
-/

namespace Telematics

/-! ## Columns -/

@[simp] theorem measureColumn_measureJson (name : String) (value : Option Binary64) :
    measureColumn name (Position.measureJson value) = .ok (storableMeasure value) := by
  cases value <;> rfl

/-- A number is stored as a number, which is finite if it was. -/
theorem storableMeasure_of_ne_nan {value : Binary64} (number : value ≠ .nan) :
    ∃ kept, storableMeasure (some value) = some kept ∧ kept.isFinite = value.isFinite := by
  cases value with
  | nan => exact absurd rfl number
  | infinite negative => exact ⟨_, rfl, rfl⟩
  | finite negative significand exponent canonical =>
    by_cases zero : (Binary64.finite negative significand exponent canonical).isZero = true
    · exact ⟨.posZero, by simp [storableMeasure, zero], rfl⟩
    · exact ⟨_, by simp [storableMeasure, zero], rfl⟩

/-- A measure that was stored once is stored as it is. -/
theorem storableMeasure_idem (value : Option Binary64) :
    storableMeasure (storableMeasure value) = storableMeasure value := by
  cases value with
  | none => rfl
  | some value =>
    cases value with
    | nan => rfl
    | infinite negative => rfl
    | finite negative significand exponent canonical =>
      by_cases zero : (Binary64.finite negative significand exponent canonical).isZero = true
      · simp [storableMeasure, zero]
        rfl
      · simp [storableMeasure, zero]

namespace Store

theorem strict_eq_ok_iff {value kept : Json} :
    strict value = .ok kept ↔ value.isStrict = true ∧ value = kept := by
  unfold strict
  split <;> simp [*]

end Store

/-! ## Locations -/

/-- A location keeps what a position says, and attributes beside it. -/
structure Location.Keeps (location : Location) (position : Position) (members : Json.Members) :
    Prop where
  device : Column.integer "id" position.deviceId = .ok (some location.device)
  bounded : Column.bounded location.device = .ok location.device
  protocol : Column.text position.protocol = .ok (some location.protocol)
  serverTime : storableTime? position.serverTime = .ok (some location.serverTime)
  deviceTime : storableTime? position.deviceTime = .ok location.deviceTime
  fixTime : storableTime? position.fixTime = .ok location.fixTime
  outdated : Column.flag position.outdated = .ok (some location.outdated)
  valid : Column.flag position.valid = .ok (some location.valid)
  latitude : measureColumn "latitude" position.latitude = .ok location.latitude
  longitude : measureColumn "longitude" position.longitude = .ok location.longitude
  altitude : measureColumn "altitude" position.altitude = .ok location.altitude
  speed : measureColumn "speed" position.speed = .ok location.speed
  course : measureColumn "course" position.course = .ok location.course
  accuracy : measureColumn "accuracy" position.accuracy = .ok location.accuracy
  network : location.network = position.network
  attributes : location.attributes = members
  strictNetwork : (Position.networkJson position.network).isStrict = true
  strictAttributes : (Json.object members).isStrict = true

/-- A position is stored as the location that keeps what it says. -/
theorem Location.ofPosition_eq_ok_iff {position : Position} {members : Json.Members}
    {location : Location} :
    Location.ofPosition position members = .ok location ↔ location.Keeps position members := by
  unfold Location.ofPosition
  simp only [bind_eq_ok_iff, Store.ofColumn_eq_ok_iff, Store.required_eq_ok_iff,
    Store.strict_eq_ok_iff]
  constructor
  · rintro ⟨number, named, serverTime, at_, deviceTime, seen, fixTime, fixed, outdated, old, valid,
      good, latitude, one, longitude, two, altitude, three, speed, four, course, five, accuracy,
      six, kept, bounded, written, text, _, ⟨strictNetwork, -⟩, _, ⟨strictAttributes, -⟩, device,
      same, protocol, isText, time, isTime, flag, isFlag, mark, isMark, done⟩
    cases done
    subst same isText isTime isFlag isMark
    obtain ⟨rfl, within⟩ := Store.bounded?_eq_ok_iff.mp bounded
    exact ⟨named, within, text, at_, seen, fixed, old, good, one, two, three, four, five, six, rfl,
      rfl, strictNetwork, strictAttributes⟩
  · rintro keeps
    refine ⟨_, keeps.device, _, keeps.serverTime, _, keeps.deviceTime, _, keeps.fixTime, _,
      keeps.outdated, _, keeps.valid, _, keeps.latitude, _, keeps.longitude, _, keeps.altitude, _,
      keeps.speed, _, keeps.course, _, keeps.accuracy, _,
      Store.bounded?_eq_ok_iff.mpr ⟨rfl, keeps.bounded⟩, _, keeps.protocol, _,
      ⟨keeps.strictNetwork, rfl⟩, _, ⟨keeps.strictAttributes, rfl⟩, _, rfl, _, rfl, _, rfl, _, rfl,
      _, rfl, ?_⟩
    rw [← keeps.network, ← keeps.attributes]
    rfl

theorem Location.Keeps.device_eq {location : Location} {position : Position}
    {members : Json.Members} {device : Int} (keeps : location.Keeps position members)
    (own : position.deviceId = .int device) : location.device = device := by
  have named := keeps.device
  rw [own] at named
  simpa [Column.integer] using named.symm

/-- The attributes of a position are kept as the members that are made of them. -/
theorem Location.keeps_setAttributes_iff {location : Location} {position : Position}
    {members : Json.Members} {attributes : Json} :
    location.Keeps { position with attributes } members ↔ location.Keeps position members :=
  ⟨fun keeps => { keeps with }, fun keeps => { keeps with }⟩

namespace Store

variable {store after : Store} {position : Position} {stored : Stored}

/-- A position is stored if its attributes are a document and a location keeps what it says. That
    location comes behind the others. -/
theorem addPosition_eq_ok_iff :
    store.addPosition position = .ok (stored, after) ↔
      ∃ entries location, Column.entries position.attributes = .ok entries ∧
        location.Keeps position (entries.named Column.keyName) ∧
        stored = ⟨⟨store.locations.nextId, location⟩,
          { position with attributes := .object (entries.named Json.asText) }⟩ ∧
        after = (store.addLocation location).2 := by
  unfold addPosition Position.withMembers
  constructor
  · intro added
    obtain ⟨_, read, added⟩ := bind_eq_ok_iff.1 added
    obtain ⟨entries, listed, done⟩ := bind_eq_ok_iff.1 read
    cases done
    obtain ⟨location, made, added⟩ := bind_eq_ok_iff.1 added
    cases added
    exact ⟨entries, location, ofColumn_eq_ok_iff.1 listed,
      Location.keeps_setAttributes_iff.1 (Location.ofPosition_eq_ok_iff.1 made), rfl, rfl⟩
  · rintro ⟨entries, location, listed, keeps, rfl, rfl⟩
    have made : Location.ofPosition
        { position with attributes := .object (entries.named Json.asText) }
        (entries.named Column.keyName) = .ok location :=
      Location.ofPosition_eq_ok_iff.2 (Location.keeps_setAttributes_iff.2 keeps)
    refine bind_eq_ok_iff.2 ⟨_, bind_eq_ok_iff.2 ⟨entries, ofColumn_eq_ok_iff.2 listed, rfl⟩, ?_⟩
    exact bind_eq_ok_iff.2 ⟨location, made, rfl⟩

/-- Whether a position can be stored does not depend on the store, and neither does the location
    that is made of it. -/
theorem addPosition_cases (position : Position) :
    (∃ fault, ∀ store : Store, store.addPosition position = .error fault) ∨
      ∃ (location : Location) (handedIn : Position),
        Column.integer "id" position.deviceId = .ok (some location.device) ∧
        ∀ store : Store, store.addPosition position =
          .ok (⟨(store.addLocation location).1, handedIn⟩, (store.addLocation location).2) := by
  cases read : position.withMembers with
  | error fault => exact .inl ⟨fault, fun store => by rw [addPosition, read]; rfl⟩
  | ok result =>
    cases made : Location.ofPosition result.1 result.2 with
    | error fault =>
      refine .inl ⟨fault, fun store => ?_⟩
      simp only [addPosition, read, bind, Except.bind, made]
    | ok location =>
      have added : ∀ store : Store, store.addPosition position =
          .ok (⟨(store.addLocation location).1, result.1⟩, (store.addLocation location).2) := by
        intro store
        simp only [addPosition, read, bind, Except.bind, made]
        rfl
      obtain ⟨_, kept, _, keeps, same, -⟩ := addPosition_eq_ok_iff.1 (added .empty)
      have own : location = kept := congrArg (·.row.value) same
      exact .inr ⟨location, result.1, own ▸ keeps.device, added⟩

/-- A stored position is a location behind the others, of the device that the position names. -/
theorem addPosition_eq_ok (added : store.addPosition position = .ok (stored, after)) :
    ∃ location, Column.integer "id" position.deviceId = .ok (some location.device) ∧
      stored.row = ⟨store.locations.nextId, location⟩ ∧
      stored.handedIn.deviceId = position.deviceId ∧
      after = (store.addLocation location).2 := by
  obtain ⟨entries, location, -, keeps, rfl, rfl⟩ := addPosition_eq_ok_iff.1 added
  exact ⟨location, keeps.device, rfl, rfl, rfl⟩

theorem addPosition_eq_ok_of_int {device : Int} (own : position.deviceId = .int device)
    (added : store.addPosition position = .ok (stored, after)) :
    ∃ location, location.device = device ∧ stored.row = ⟨store.locations.nextId, location⟩ ∧
      stored.handedIn.deviceId = .int device ∧ after = (store.addLocation location).2 := by
  obtain ⟨location, named, row, same, changed⟩ := addPosition_eq_ok added
  rw [own] at named same
  simp only [Column.integer, Except.ok.injEq, Option.some.injEq] at named
  exact ⟨location, named.symm, row, same, changed⟩

/-- A position is stored on its own only if its device exists. -/
theorem storePosition_eq_ok (done : store.storePosition position = .ok (stored, after)) :
    store.addPosition position = .ok (stored, after) ∧
      store.hasDevice stored.row.value.device = true := by
  unfold storePosition at done
  obtain ⟨⟨kept, changed⟩, added, done⟩ := bind_eq_ok_iff.1 done
  have sameDevices : changed.devices = store.devices := by
    obtain ⟨location, -, -, -, rfl⟩ := addPosition_eq_ok added
    rfl
  dsimp only at done
  split at done
  · rename_i known
    cases done
    refine ⟨added, ?_⟩
    rw [hasDevice, device?, ← sameDevices]
    exact known
  · cases done

end Store

end Telematics
