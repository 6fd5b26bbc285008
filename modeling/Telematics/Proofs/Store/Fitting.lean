import Telematics.Proofs.Json.Members
import Telematics.Proofs.Store.Locations

/-!
Positions that fit into the store. Of a position whose values are of the kinds that reports give,
little is left that may keep it out of the store: a protocol that is no name, a time that the UTC
calendar does not have, and an infinity or a not-a-number among its attributes.

* `Column.named_of_nodup`: attributes under distinct keys are stored as they are.
* `Position.IsTyped`: the values of a position are of the kinds that reports give.
* `Position.Fits`: nothing of a position keeps it out of the store.
* `addPosition_isOk_iff`: when a position of these kinds is stored.
-/

namespace Telematics

namespace Column

theorem foldl_put_of_nodup {front back : Json.Members}
    (distinct : ((front ++ back).map Prod.fst).Nodup) :
    (back.map fun (key, value) => (Json.text key, value)).foldl
      (fun members (key, value) => Json.Members.put (keyName key) value members) front =
        front ++ back := by
  -- On the members that are left; those in front have been set, under other keys.
  induction back generalizing front with
  | nil => simp
  | cons head rest ih =>
    obtain ⟨key, value⟩ := head
    have new : key ∉ front.map Prod.fst := by
      intro present
      rw [List.map_append, List.nodup_append] at distinct
      exact distinct.2.2 key present key (by simp) rfl
    have next : front.put key value = front ++ [(key, value)] := Json.Members.put_of_not_mem new
    rw [List.map_cons, List.foldl_cons]
    show List.foldl _ (front.put key value) _ = _
    rw [next, ih (by simpa using distinct)]
    simp

/-- Members under distinct keys are stored as they are. -/
theorem named_of_nodup {members : Json.Members} (distinct : (members.map Prod.fst).Nodup) :
    Entries.named keyName (members.map fun (key, value) => (Json.text key, value)) = members :=
  @foldl_put_of_nodup [] members distinct

@[simp] theorem flag_bool (value : Bool) : flag (.bool value) = .ok (some value) := by
  cases value <;> rfl

end Column

/-! ## Kinds -/

namespace Position

/-- The place of a position is one that is stored or reported: its measures are numbers, and whether
    it is valid is a flag. -/
structure IsMeasured (position : Position) : Prop where
  valid : ∃ flag, position.valid = .bool flag
  latitude : ∃ measure, position.latitude = measureJson measure
  longitude : ∃ measure, position.longitude = measureJson measure
  altitude : ∃ measure, position.altitude = measureJson measure
  speed : ∃ measure, position.speed = measureJson measure
  course : ∃ measure, position.course = measureJson measure
  accuracy : ∃ measure, position.accuracy = measureJson measure

/-- The values of a position are of the kinds that reports give. -/
structure IsTyped (position : Position) : Prop extends IsMeasured position where
  device : ∃ device, position.deviceId = .int device
  serverTime : ∃ time, position.serverTime = some time
  outdated : ∃ flag, position.outdated = .bool flag
  network : (networkJson position.network).isStrict = true
  attributes : ∃ members, position.attributes = .object members ∧ (members.map Prod.fst).Nodup

/-- Nothing of a position keeps it out of the store. -/
structure Fits (position : Position) : Prop where
  protocol : Column.IsName position.protocol
  serverTime : ∀ time, position.serverTime = some time → time.utc?.isSome = true
  deviceTime : ∀ time, position.deviceTime = some time → time.utc?.isSome = true
  fixTime : ∀ time, position.fixTime = some time → time.utc?.isSome = true
  attributes : position.attributes.isStrict = true

end Position

theorem Location.isMeasured_toPosition (location : Location) : location.toPosition.IsMeasured :=
  ⟨⟨_, rfl⟩, ⟨_, rfl⟩, ⟨_, rfl⟩, ⟨_, rfl⟩, ⟨_, rfl⟩, ⟨_, rfl⟩, ⟨_, rfl⟩⟩

/-- An optional time can be stored if the UTC calendar has it. -/
theorem storableTime?_isOk_iff {time : Option Calendar.Moment} :
    (∃ kept, storableTime? time = .ok kept) ↔
      ∀ moment, time = some moment → moment.utc?.isSome = true := by
  cases time with
  | none => exact iff_of_true ⟨none, rfl⟩ (fun _ same => nomatch same)
  | some moment =>
    simp only [storableTime?, storableTime, Option.some.injEq, forall_eq']
    cases moment.utc? with
    | none => exact iff_of_false (fun ⟨_, same⟩ => nomatch same) (by simp)
    | some utc => exact iff_of_true ⟨_, rfl⟩ rfl

theorem storableTime?_some {time : Calendar.Moment} {kept : Option Calendar.Moment}
    (stored : storableTime? (some time) = .ok kept) : ∃ moment, kept = some moment := by
  simp only [storableTime?, storableTime] at stored
  split at stored
  · cases stored
    exact ⟨_, rfl⟩
  · cases stored

namespace Position

variable {position : Position} {members : Json.Members} {device : Int}

/-- A location keeps a position that fits, if the number of its device can be kept. -/
theorem Fits.keeps (fits : position.Fits) (typed : position.IsTyped)
    (own : position.deviceId = .int device) (bounded : Column.bounded device = .ok device)
    (listed : position.attributes = .object members) :
    ∃ location : Location, location.Keeps position members := by
  obtain ⟨now, named⟩ := typed.serverTime
  obtain ⟨serverTime, at_⟩ := storableTime?_isOk_iff.mpr fits.serverTime
  obtain ⟨deviceTime, seen⟩ := storableTime?_isOk_iff.mpr fits.deviceTime
  obtain ⟨fixTime, fixed⟩ := storableTime?_isOk_iff.mpr fits.fixTime
  obtain ⟨protocol, text⟩ := Column.exists_text_iff.mpr fits.protocol
  obtain ⟨outdated, old⟩ := typed.outdated
  obtain ⟨valid, good⟩ := typed.valid
  obtain ⟨latitude, one⟩ := typed.latitude
  obtain ⟨longitude, two⟩ := typed.longitude
  obtain ⟨altitude, three⟩ := typed.altitude
  obtain ⟨speed, four⟩ := typed.speed
  obtain ⟨course, five⟩ := typed.course
  obtain ⟨accuracy, six⟩ := typed.accuracy
  -- The time of the server has to be there, so it is one even where the others may be missing.
  rw [named] at at_
  obtain ⟨moment, rfl⟩ := storableTime?_some at_
  have strict := fits.attributes
  rw [listed] at strict
  exact ⟨{
      device, protocol, serverTime := moment, deviceTime, fixTime, outdated, valid
      latitude := storableMeasure latitude
      longitude := storableMeasure longitude
      altitude := storableMeasure altitude
      speed := storableMeasure speed
      course := storableMeasure course
      accuracy := storableMeasure accuracy
      network := position.network
      attributes := members }, {
    device := by rw [own]; rfl
    bounded
    protocol := text
    serverTime := by rw [named]; exact at_
    deviceTime := seen
    fixTime := fixed
    outdated := by rw [old, Column.flag_bool]
    valid := by rw [good, Column.flag_bool]
    latitude := by rw [one, measureColumn_measureJson]
    longitude := by rw [two, measureColumn_measureJson]
    altitude := by rw [three, measureColumn_measureJson]
    speed := by rw [four, measureColumn_measureJson]
    course := by rw [five, measureColumn_measureJson]
    accuracy := by rw [six, measureColumn_measureJson]
    network := rfl
    attributes := rfl
    strictNetwork := typed.network
    strictAttributes := strict }⟩

/-- A position that a location keeps fits. -/
theorem fits_of_keeps {location : Location} (keeps : location.Keeps position members)
    (listed : position.attributes = .object members) : position.Fits where
  protocol := Column.exists_text_iff.mp ⟨_, keeps.protocol⟩
  serverTime := storableTime?_isOk_iff.mp ⟨_, keeps.serverTime⟩
  deviceTime := storableTime?_isOk_iff.mp ⟨_, keeps.deviceTime⟩
  fixTime := storableTime?_isOk_iff.mp ⟨_, keeps.fixTime⟩
  attributes := by
    rw [listed]
    exact keeps.strictAttributes

end Position

namespace Store

/-- A position whose values are of the kinds that reports give is stored if it fits. -/
theorem addPosition_isOk_iff {store : Store} {position : Position} (typed : position.IsTyped)
    {device : Int} (own : position.deviceId = .int device)
    (bounded : Column.bounded device = .ok device) :
    (∃ stored after, store.addPosition position = .ok (stored, after)) ↔ position.Fits := by
  obtain ⟨members, listed, distinct⟩ := typed.attributes
  have read : Column.entries position.attributes =
      .ok (members.map fun (key, value) => (.text key, value)) := by rw [listed]; rfl
  have named := Column.named_of_nodup distinct
  simp only [addPosition_eq_ok_iff]
  constructor
  · rintro ⟨_, _, entries, location, same, keeps, -, -⟩
    rw [read] at same
    cases same
    rw [named] at keeps
    exact Position.fits_of_keeps keeps listed
  · intro fits
    obtain ⟨location, keeps⟩ := fits.keeps typed own bounded listed
    exact ⟨_, _, _, location, read, by rw [named]; exact keeps, rfl, rfl⟩

end Store

end Telematics
