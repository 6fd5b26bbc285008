import Telematics.Proofs.Calendar.Moment
import Telematics.Proofs.Gateway.Storing
import Telematics.Proofs.Store.Fitting
import Telematics.Proofs.Store.Newest

/-!
The history of a device: its stored locations, in the order of their numbers. As long as positions
come from reports alone, every location has its times, and one that is outdated has its place from
an earlier one that is not, or none was known. It may have been copied from a location that is
outdated itself; then both have their place from the same one.

* `Location.SamePlace`, `Location.IsSettled`: what locations that are copied have in common, and why
  a copy is exact.
* `Report.Origin`: where the place of a position comes from. `Placed.origin`: a position that gets
  its place has it from there.
* `Row.IsRecorded`: what is true of a stored location. `step_recorded`: steps keep it so.
* `run_recorded`: every location is recorded after a run.
-/

namespace Telematics

open Calendar (Moment)

/-! ## Copies -/

/-- Two locations agree in the time of the fix, in whether they are valid and in all measures. -/
structure Location.SamePlace (location other : Location) : Prop where
  fixTime : location.fixTime = other.fixTime
  valid : location.valid = other.valid
  latitude : location.latitude = other.latitude
  longitude : location.longitude = other.longitude
  altitude : location.altitude = other.altitude
  speed : location.speed = other.speed
  course : location.course = other.course
  accuracy : location.accuracy = other.accuracy

theorem Location.SamePlace.trans {first second third : Location} (one : first.SamePlace second)
    (two : second.SamePlace third) : first.SamePlace third :=
  ⟨one.fixTime.trans two.fixTime, one.valid.trans two.valid, one.latitude.trans two.latitude,
    one.longitude.trans two.longitude, one.altitude.trans two.altitude, one.speed.trans two.speed,
    one.course.trans two.course, one.accuracy.trans two.accuracy⟩

/-- The place of a location would be stored as it is. -/
structure Location.IsSettled (location : Location) : Prop where
  fixTime : storableTime? location.fixTime = .ok location.fixTime
  latitude : storableMeasure location.latitude = location.latitude
  longitude : storableMeasure location.longitude = location.longitude
  altitude : storableMeasure location.altitude = location.altitude
  speed : storableMeasure location.speed = location.speed
  course : storableMeasure location.course = location.course
  accuracy : storableMeasure location.accuracy = location.accuracy

/-- A time that was stored once is stored as it is. -/
theorem storableTime?_idem {time kept : Option Moment} (stored : storableTime? time = .ok kept) :
    storableTime? kept = .ok kept := by
  cases time with
  | none =>
    cases stored
    rfl
  | some time =>
    simp only [storableTime?, storableTime] at stored
    split at stored
    · rename_i utc found
      cases stored
      simp only [storableTime?, storableTime, Moment.utc?_idem found]
      rfl
    · cases stored

/-- What a column of measures keeps is stored as it is. -/
theorem storableMeasure_of_measureColumn {name : String} {value : Json} {kept : Option Binary64}
    (stored : measureColumn name value = .ok kept) : storableMeasure kept = kept := by
  obtain ⟨measure, -, done⟩ := bind_eq_ok_iff.mp stored
  cases done
  exact storableMeasure_idem measure

variable {location last : Location} {position : Position} {members : Json.Members}

theorem Location.Keeps.isSettled (keeps : location.Keeps position members) :
    location.IsSettled where
  fixTime := storableTime?_idem keeps.fixTime
  latitude := storableMeasure_of_measureColumn keeps.latitude
  longitude := storableMeasure_of_measureColumn keeps.longitude
  altitude := storableMeasure_of_measureColumn keeps.altitude
  speed := storableMeasure_of_measureColumn keeps.speed
  course := storableMeasure_of_measureColumn keeps.course
  accuracy := storableMeasure_of_measureColumn keeps.accuracy

/-- A column of measures keeps what is read back of a measure that was stored once. -/
theorem eq_of_measureColumn {name : String} {kept before : Option Binary64}
    (stored : measureColumn name (Position.measureJson before) = .ok kept)
    (settled : storableMeasure before = before) : kept = before := by
  rw [measureColumn_measureJson, settled] at stored
  exact (Except.ok.inj stored).symm

/-- A location that keeps a position with the place of a location that is read back has the same
    place. -/
theorem Location.Keeps.samePlace {base : Position} {deviceTime : Option Moment}
    (keeps : location.Keeps
      { Report.fillFromLast (some last.toPosition) base with deviceTime } members)
    (settled : last.IsSettled) : location.SamePlace last where
  fixTime := Except.ok.inj (keeps.fixTime.symm.trans settled.fixTime)
  valid := by
    have flag : Column.flag (.bool last.valid) = .ok (some location.valid) := keeps.valid
    rw [Column.flag_bool] at flag
    exact (Option.some.inj (Except.ok.inj flag)).symm
  latitude := eq_of_measureColumn keeps.latitude settled.latitude
  longitude := eq_of_measureColumn keeps.longitude settled.longitude
  altitude := eq_of_measureColumn keeps.altitude settled.altitude
  speed := eq_of_measureColumn keeps.speed settled.speed
  course := eq_of_measureColumn keeps.course settled.course
  accuracy := eq_of_measureColumn keeps.accuracy settled.accuracy

/-! ## Radio observations -/

/-- Written radio observations: none at all, or lists of which one is there at least and none is
    empty. -/
def Json.IsObservation (column : Json) : Prop :=
  column = .null ∨ ∃ members, column = .object members ∧
    (∃ key entry entries, (key, Json.list (entry :: entries)) ∈ members) ∧
    ∀ key, (key, Json.list []) ∉ members

theorem Network.listJson_ne_nil (entries : List Json) : listJson entries ≠ .list [] := by
  cases entries <;> simp [listJson]

/-- Written radio observations with an entry have a list with an entry and no empty one. -/
theorem isObservation_networkJson {network : Option Network}
    (seen : ∀ inner, network = some inner → inner.hasEntries = true) :
    (Position.networkJson network).IsObservation := by
  cases network with
  | none => exact .inl rfl
  | some network =>
    refine .inr ⟨network.toMembers, rfl, ?_, fun key empty => ?_⟩
    · have entries := seen network rfl
      obtain ⟨towers, points⟩ := network
      cases towers with
      | cons tower rest => exact ⟨_, _, _, List.mem_cons_self⟩
      | nil =>
        cases points with
        | cons point rest => exact ⟨_, _, _, List.mem_cons_of_mem _ List.mem_cons_self⟩
        | nil => cases entries
    · simp only [Network.toMembers, List.mem_cons, Prod.mk.injEq, List.not_mem_nil, or_false]
        at empty
      rcases empty with ⟨-, same⟩ | ⟨-, same⟩ <;> exact Network.listJson_ne_nil _ same.symm

/-! ## Origins -/

namespace Report

variable {ε σ : Type} {services : Services ε σ} {device : Int} {state after : σ}

/-- Where the place of a position comes from: the report itself, the last position of the device, or
    nowhere, since there is no last position. -/
inductive Origin (services : Services ε σ) (device : Int) (state : σ) (position : Position) :
    Prop where
  | own : position.outdated = .bool false → (∃ time, position.fixTime = some time) →
      Origin services device state position
  | last {last base : Position} {deviceTime : Option Moment} {after : σ} :
      (services.lastPosition device).run state = (.ok (some last), after) →
      position = { fillFromLast (some last) base with deviceTime } →
      Origin services device state position
  | nowhere : position.outdated = .bool true → position.fixTime = some noFixTime →
      position.latitude = .null → position.longitude = .null →
      Origin services device state position

/-- A position has its place from there. -/
theorem Placed.origin {time : Moment} {base : Position}
    {coordinates : Option (Binary64 × Binary64)}
    (placed : Placed services device time base state coordinates position after)
    (unplaced : Unplaced device base) : Origin services device state position := by
  cases placed with
  | given => exact .own unplaced.outdated unplaced.fixTime
  | spot => exact .own unplaced.outdated unplaced.fixTime
  | @filled last _ somebody looked =>
    cases last with
    | some last => exact .last looked rfl
    | none => exact .nowhere rfl rfl unplaced.latitude unplaced.longitude
  | unfilled _ => exact .own unplaced.outdated unplaced.fixTime

/-- A position keeps the time on the device, or has another one. -/
theorem Placed.deviceTime {time : Moment} {base : Position}
    {coordinates : Option (Binary64 × Binary64)}
    (placed : Placed services device time base state coordinates position after)
    (unplaced : Unplaced device base) : ∃ time, position.deviceTime = some time := by
  cases placed with
  | given => exact unplaced.deviceTime
  | spot => exact unplaced.deviceTime
  | filled _ _ => exact ⟨_, rfl⟩
  | unfilled _ => exact unplaced.deviceTime

end Report

/-! ## Records -/

/-- No place was known when a location was stored. -/
def Location.IsBlank (location : Location) : Prop :=
  location.fixTime = some Report.noFixTime ∧ location.latitude = none ∧ location.longitude = none

/-- An earlier location of the same device is not outdated and has the same place. -/
def Row.HasSource (rows : List (Row Location)) (row : Row Location) : Prop :=
  ∃ source ∈ rows, source.value.device = row.value.device ∧ source.id < row.id ∧
    source.value.outdated = false ∧ row.value.SamePlace source.value

/-- What is true of a stored location, among those that are stored. -/
structure Row.IsRecorded (rows : List (Row Location)) (row : Row Location) : Prop where
  deviceTime : ∃ time, row.value.deviceTime = some time
  fixTime : ∃ time, row.value.fixTime = some time
  network : (Position.networkJson row.value.network).IsObservation
  place : row.value.outdated = true → row.value.IsBlank ∨ row.HasSource rows

namespace Gateway

/-- Every stored location is recorded, and its place is as it is stored. -/
def AllRecorded (gateway : Gateway) : Prop :=
  ∀ row ∈ gateway.store.locations.rows,
    row.IsRecorded gateway.store.locations.rows ∧ row.value.IsSettled

/-- A step stores a position that is handed in, or stores a location again. -/
def Step.Rewrites : Step → Prop
  | .storePosition _ | .setValid _ _ => True
  | _ => False

variable {gateway after : Gateway}

/-- Locations disappear at most, and only with all others of their device. -/
def OnlyDropsDevices (gateway after : Gateway) : Prop :=
  ∃ keep : Int → Bool, after.store.locations.rows =
    gateway.store.locations.rows.filter (fun row => keep row.value.device)

theorem onlyDropsDevices_of_same (same : after.store.locations = gateway.store.locations) :
    OnlyDropsDevices gateway after :=
  ⟨fun _ => true, by rw [same, List.filter_true]⟩

/-- A step that is no report and stores no location itself drops devices at most. -/
theorem step_onlyDropsDevices {what : Step} (plain : ¬ what.Rewrites)
    (noReport : ∀ raw, what = .request raw → gateway.report? raw = none) :
    OnlyDropsDevices gateway (gateway.step what).gateway := by
  have commandsOnly : ∀ {after : Gateway}, CommandsOnly gateway after →
      OnlyDropsDevices gateway after := by
    rintro _ ⟨commands, rfl⟩
    exact onlyDropsDevices_of_same rfl
  cases what with
  | storePosition _ | setValid _ _ => exact absurd trivial plain
  | request raw => exact commandsOnly (step_commandsOnly (noReport raw rfl))
  | queueCommand _ _ _ | takeCommands _ _ | console _ =>
    exact commandsOnly (step_commandsOnly trivial)
  | deleteDevice uniqueId =>
    refine attemptDone_invariant (OnlyDropsDevices gateway) (onlyDropsDevices_of_same rfl)
      fun after deleted => ?_
    obtain ⟨owner, -, rfl⟩ := deleteDevice_eq_ok deleted
    exact ⟨fun device => !decide (device = owner.id), rfl⟩
  -- The other steps are about devices.
  | _ =>
    refine onlyDropsDevices_of_same (DevicesOnly.locations (step_devicesOnly ?_).2)
    exact trivial

/-- A source is kept with the locations that have their place from it. -/
theorem OnlyDropsDevices.allRecorded (drops : OnlyDropsDevices gateway after)
    (recorded : AllRecorded gateway) : AllRecorded after := by
  obtain ⟨keep, same⟩ := drops
  intro row present
  rw [same] at present
  obtain ⟨was, kept⟩ := List.mem_filter.mp present
  obtain ⟨⟨deviceTime, fixTime, network, place⟩, settled⟩ := recorded row was
  refine ⟨⟨deviceTime, fixTime, network, fun outdated => (place outdated).imp_right ?_⟩, settled⟩
  rintro ⟨source, present, own, rest⟩
  refine ⟨source, ?_, own, rest⟩
  rw [same, List.mem_filter, own]
  exact ⟨present, kept⟩

/-- A location that a report stores is recorded behind the others. -/
theorem Storing.isRecorded {request : Http.Request} {location : Location} {settled : Gateway}
    (storing : Storing gateway request location settled) (recorded : AllRecorded gateway) :
    location.IsSettled ∧
      (Row.mk gateway.store.locations.nextId location).IsRecorded
        gateway.store.locations.rows := by
  obtain ⟨made, accepted, keeps, -, -, -⟩ := storing
  obtain ⟨device, time, base, middle, reached, effects, unplaced, placed⟩ :=
    accepted.placed services_follow_effect
  have mine := keeps.device_eq (placed.source.deviceId.trans unplaced.deviceId)
  obtain ⟨seen, told⟩ := placed.deviceTime unplaced
  have deviceTime : ∃ time, location.deviceTime = some time :=
    storableTime?_some (told ▸ keeps.deviceTime)
  have network : (Position.networkJson location.network).IsObservation := by
    rw [keeps.network, placed.source.network]
    exact isObservation_networkJson unplaced.network
  refine ⟨keeps.isSettled, ?_⟩
  have old := keeps.outdated
  cases placed.origin unplaced with
  | own current fixed =>
    obtain ⟨fix, fixed⟩ := fixed
    refine ⟨deviceTime, storableTime?_some (fixed ▸ keeps.fixTime), network, fun outdated => ?_⟩
    rw [current, Column.flag_bool] at old
    exact absurd outdated (by simpa using (Except.ok.inj old).symm)
  | nowhere _ fixed one two =>
    have blank : location.IsBlank := by
      refine ⟨?_, ?_, ?_⟩
      · have stays : storableTime? (some Report.noFixTime) = .ok (some Report.noFixTime) := by
          decide +kernel
        exact Except.ok.inj ((fixed ▸ keeps.fixTime).symm.trans stays)
      · exact (Except.ok.inj (one ▸ keeps.latitude)).symm
      · exact (Except.ok.inj (two ▸ keeps.longitude)).symm
    exact ⟨deviceTime, ⟨_, blank.1⟩, network, fun _ => .inl blank⟩
  | last looked copied =>
    -- Nothing that decoding did before concerns the locations, so the last one is among them.
    obtain ⟨_, _, rfl⟩ := effects_frame effects
    have newest : (Store.newestOf? (gateway.store.locationsOf device)).map (·.value.toPosition) =
        some _ := Except.ok.inj (congrArg Prod.fst looked)
    obtain ⟨last, found, rfl⟩ := Option.map_eq_some_iff.mp newest
    obtain ⟨present, own⟩ := List.mem_filter.mp (Store.mem_of_newestOf? found)
    have own : last.value.device = location.device := (of_decide_eq_true own).trans mine.symm
    obtain ⟨known, stays⟩ := recorded last present
    have same := (copied ▸ keeps).samePlace stays
    have earlier : last.id < gateway.store.locations.nextId := Table.lt_nextId present
    refine ⟨deviceTime, by rw [same.fixTime]; exact known.fixTime, network, fun _ => ?_⟩
    cases current : last.value.outdated with
    | false => exact .inr ⟨last, present, own, earlier, current, same⟩
    | true =>
      rcases known.place current with ⟨noFix, noLatitude, noLongitude⟩ |
        ⟨source, there, theirs, before, first, place⟩
      · exact .inl ⟨same.fixTime.trans noFix, same.latitude.trans noLatitude,
          same.longitude.trans noLongitude⟩
      · exact .inr ⟨source, there, theirs.trans own, before.trans earlier, first,
          same.trans place⟩

/-- Steps keep locations recorded. -/
theorem step_recorded (consistent : gateway.store.isConsistent = true)
    (recorded : AllRecorded gateway) {what : Step} (plain : ¬ what.Rewrites) :
    AllRecorded (gateway.step what).gateway := by
  by_cases reporting : ∃ raw request, what = .request raw ∧ gateway.report? raw = some request
  · obtain ⟨raw, request, rfl, reports⟩ := reporting
    have served : (gateway.step (.request raw)).gateway = (gateway.report request).gateway :=
      congrArg Outcome.gateway (serve_of_report reports)
    rw [served]
    rcases report_storing consistent request with same | ⟨location, storing⟩
    · exact (onlyDropsDevices_of_same same).allRecorded recorded
    · obtain ⟨settled, new⟩ := storing.isRecorded recorded
      -- What is recorded among the old locations is recorded among all of them.
      have grows : ∀ row : Row Location, row.IsRecorded gateway.store.locations.rows →
          row.IsRecorded (gateway.report request).gateway.store.locations.rows := by
        rintro row ⟨deviceTime, fixTime, network, place⟩
        refine ⟨deviceTime, fixTime, network, fun outdated => (place outdated).imp_right ?_⟩
        rintro ⟨source, present, rest⟩
        refine ⟨source, ?_, rest⟩
        rw [storing.locations, Table.mem_insert_iff]
        exact .inl present
      intro row present
      rw [storing.locations, Table.mem_insert_iff] at present
      rcases present with was | rfl
      · exact (recorded row was).imp_left (grows row)
      · exact ⟨grows _ new, settled⟩
  · refine (step_onlyDropsDevices plain fun raw same => ?_).allRecorded recorded
    rw [Option.eq_none_iff_forall_ne_some]
    exact fun request reports => reporting ⟨raw, request, same, reports⟩

/-- After a run from an empty store in which no position is handed in and no location is stored
    again, every location belongs to a device and is recorded. -/
theorem run_recorded (empty : gateway.store = .empty) {steps : List Step}
    (plain : ∀ what ∈ steps, ¬ what.Rewrites) {row : Row Location}
    (present : row ∈ (gateway.run steps).store.locations.rows) :
    (gateway.run steps).store.hasDevice row.value.device = true ∧
      row.IsRecorded (gateway.run steps).store.locations.rows := by
  have along : Along (fun _ what => ¬ what.Rewrites) gateway steps := by
    rw [along_iff]
    rintro front what back rfl
    exact plain what List.mem_append_cons_self
  obtain ⟨consistent, recorded⟩ :=
    run_invariant (fun gateway => gateway.store.isConsistent = true ∧ AllRecorded gateway)
      (fun gateway what holds clean =>
        ⟨step_isConsistent holds.1 what, step_recorded holds.1 holds.2 clean⟩)
      ⟨by rw [empty]; exact Store.isConsistent_empty, by
        intro row none
        rw [empty] at none
        exact absurd none List.not_mem_nil⟩ along
  exact ⟨(Store.isConsistent_iff.mp consistent).2 row present, (recorded row present).1⟩

/-- A report with coordinates, and two without: the last location is copied from a copy. -/
def copiedHistory : List Step :=
  [reportStep "id=a&lat=1&lon=2&timestamp=1700000000", reportStep "id=a",
    reportStep "id=a&cell=262,1,2,3"]

/-- A copy of a copy is recorded. -/
theorem copied_history_recorded :
    openGateway.store = .empty ∧ (∀ what ∈ copiedHistory, ¬ what.Rewrites) ∧
      ∃ row ∈ (openGateway.run copiedHistory).store.locations.rows,
        (row.id = 3 ∧ row.value.outdated = true) ∧
        (openGateway.run copiedHistory).store.hasDevice row.value.device = true ∧
        row.IsRecorded (openGateway.run copiedHistory).store.locations.rows := by
  have plain : ∀ what ∈ copiedHistory, ¬ what.Rewrites := by
    intro what listed
    simp only [copiedHistory, List.mem_cons, List.not_mem_nil, or_false] at listed
    rcases listed with rfl | rfl | rfl <;> exact id
  obtain ⟨row, present, last⟩ : ∃ row ∈ (openGateway.run copiedHistory).store.locations.rows,
      row.id = 3 ∧ row.value.outdated = true := by decide +kernel
  exact ⟨rfl, plain, row, present, last, run_recorded rfl plain present⟩

end Gateway

end Telematics
