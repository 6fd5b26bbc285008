import Telematics.Proofs.Gateway.Fallback
import Telematics.Proofs.Gateway.History

/-!
Reports without coordinates, one after the other. The location that is stored for one has the place
of the newest location of its device and comes behind it, so it is the newest one itself, and the
next report finds the same place. However many of them come, the last known place of a device
stands.

* `Position.Place`: what of a position stands in where coordinates are missing.
* `run_settled`: what is stored would be stored as it is, whichever steps were taken.
* `Stands`: the place of a device stands. `report_stands`, `step_stands`: a report without
  coordinates lets it stand, and so does every other step that leaves locations alone.
* `standing_place`: it stands over every run of such steps.
-/

namespace Telematics

open Calendar (Moment)

/-- What of a position stands in where coordinates are missing: the time of the fix, whether it is
    valid, and all measures. -/
structure Position.Place where
  fixTime : Option Moment
  valid : Json
  latitude : Json
  longitude : Json
  altitude : Json
  speed : Json
  course : Json
  accuracy : Json
deriving DecidableEq, Repr

/-- The place of a position. -/
def Position.place (position : Position) : Position.Place where
  fixTime := position.fixTime
  valid := position.valid
  latitude := position.latitude
  longitude := position.longitude
  altitude := position.altitude
  speed := position.speed
  course := position.course
  accuracy := position.accuracy

/-- The place of the last known position of a device. -/
def Store.lastPlace? (store : Store) (device : Int) : Option Position.Place :=
  (store.newest? device).map Position.place

/-- Locations with the same place are read back with the same place. -/
theorem Location.SamePlace.place_eq {location other : Location} (same : location.SamePlace other) :
    location.toPosition.place = other.toPosition.place := by
  obtain ⟨fixTime, valid, latitude, longitude, altitude, speed, course, accuracy⟩ := same
  simp only [Location.toPosition, Position.place, fixTime, valid, latitude, longitude, altitude,
    speed, course, accuracy]

/-- Whether a location is valid is stored as it is in any case. -/
theorem Location.IsSettled.setValid {location : Location} (settled : location.IsSettled)
    (valid : Bool) : { location with valid }.IsSettled :=
  { settled with }

namespace Store

variable {store : Store} {device : Int} {row last : Row Location} {rows : List (Row Location)}

theorem lastPlace?_eq (store : Store) (device : Int) :
    store.lastPlace? device =
      (newestOf? (store.locationsOf device)).map (·.value.toPosition.place) := by
  rw [lastPlace?, newest?, Option.map_map]
  rfl

/-- Of one more row and those before it, the newest one is the newer of the two. -/
theorem newestOf?_concat (newest : newestOf? rows = some last) :
    newestOf? (rows ++ [row]) = some (newer last row) := by
  cases rows with
  | nil => cases newest
  | cons first rest =>
    cases newest
    rw [List.cons_append, newestOf?, List.foldl_append]
    rfl

/-- A copy with a greater number is newer. -/
theorem newer_of_copy (same : row.value.fixTime = last.value.fixTime) (later : last.id < row.id) :
    newer last row = row := by
  refine if_pos ?_
  have instant : fixInstant row = fixInstant last := by rw [fixInstant, fixInstant, same]
  simp [isNewer, instant, later]

end Store

namespace Gateway

open Report (carriedCoordinates?)

variable {gateway : Gateway} {device : Int}

/-! ## What is stored stays as it is -/

/-- Every location would be stored as it is. -/
def AllSettled (gateway : Gateway) : Prop :=
  ∀ row ∈ gateway.store.locations.rows, row.value.IsSettled

theorem Storing.isSettled {request : Http.Request} {location : Location} {settled : Gateway}
    (storing : Storing gateway request location settled) : location.IsSettled := by
  obtain ⟨-, -, keeps, -, -, -⟩ := storing
  exact keeps.isSettled

/-- Locations stay settled in every step. -/
theorem step_settled (consistent : gateway.store.isConsistent = true)
    (settled : AllSettled gateway) (what : Step) : AllSettled (gateway.step what).gateway := by
  intro row present
  by_cases direct : what.IsDirect
  · cases what with
    | storePosition position =>
      rcases storePosition_cases gateway position with
        ⟨stored, location, added, placed, -, same⟩ | ⟨fault, same⟩ <;>
        simp only [step, Outcome.toReply, same] at present
      · rcases Table.mem_insert_iff.mp present with old | rfl
        · exact settled row old
        · obtain ⟨_, kept, -, keeps, rfl, -⟩ := Store.addPosition_eq_ok_iff.mp added
          cases placed
          exact keeps.isSettled
      · exact settled row present
    | _ => exact absurd direct id
  · rcases step_locations consistent direct present with
      ⟨first, was, -, valid, same⟩ | ⟨_, _, -, -, -, storing⟩
    · rw [same]
      exact (settled first was).setValid valid
    · exact storing.isSettled

theorem run_settled (fresh : Fresh gateway) (steps : List Step) :
    (gateway.run steps).store.isConsistent = true ∧ AllSettled (gateway.run steps) := by
  have always : Along (fun _ _ => True) gateway steps := along_of_forall fun _ _ => trivial
  refine run_invariant (fun gateway => gateway.store.isConsistent = true ∧ AllSettled gateway)
    (fun gateway what holds _ =>
      ⟨step_isConsistent holds.1 what, step_settled holds.1 holds.2 what⟩)
    ⟨run_isConsistent fresh [], fun row present => ?_⟩ always
  rw [fresh.store] at present
  exact absurd present List.not_mem_nil

/-! ## The place stands -/

/-- The last place of a device stands: locations of the device are added at most, with this place,
    and marked as outdated. -/
structure Stands (device : Int) (before after : Gateway) : Prop where
  lastPlace : after.store.lastPlace? device = before.store.lastPlace? device
  added : ∃ added, after.store.locationsOf device = before.store.locationsOf device ++ added ∧
    ∀ row ∈ added, some row.value.toPosition.place = before.store.lastPlace? device ∧
      row.value.outdated = true

theorem stands_of_same {after : Gateway}
    (same : after.store.locationsOf device = gateway.store.locationsOf device) :
    Stands device gateway after where
  lastPlace := by rw [Store.lastPlace?_eq, Store.lastPlace?_eq, same]
  added := ⟨[], by rw [same, List.append_nil], fun _ none => absurd none List.not_mem_nil⟩

theorem Stands.trans {first second third : Gateway} (one : Stands device first second)
    (two : Stands device second third) : Stands device first third := by
  obtain ⟨samePlace, added, grows, copies⟩ := one
  obtain ⟨samePlace', added', grows', copies'⟩ := two
  refine ⟨samePlace'.trans samePlace, added ++ added', ?_, fun row listed => ?_⟩
  · rw [grows', grows, List.append_assoc]
  · rcases List.mem_append.mp listed with early | late
    · exact copies row early
    · rw [← samePlace]
      exact copies' row late

/-- A location that is stored without coordinates is a copy of the newest one of its device, if
    there is one. -/
theorem Storing.copies {request : Http.Request} {location : Location} {reached : Gateway}
    (storing : Storing gateway request location reached) (settled : AllSettled gateway)
    (bare : carriedCoordinates? request = none) (somebody : location.device ≠ 0)
    {last : Row Location}
    (newest : Store.newestOf? (gateway.store.locationsOf location.device) = some last) :
    location.SamePlace last.value ∧ location.outdated = true := by
  obtain ⟨made, accepted, keeps, -, -, -⟩ := storing
  obtain ⟨device, time, base, middle, located, effects, unplaced, placed⟩ :=
    accepted.placed services_follow_effect
  have mine := keeps.device_eq (placed.source.deviceId.trans unplaced.deviceId)
  rw [bare] at placed
  cases placed with
  | unfilled nobody => exact absurd (mine.trans nobody) somebody
  | @filled found _ _ looked =>
    cases looked
    -- Nothing that decoding did before concerns the locations.
    have found : Store.newest? middle.store device = some last.value.toPosition := by
      obtain ⟨_, _, rfl⟩ := effects_frame effects
      show (Store.newestOf? (gateway.store.locationsOf device)).map _ = _
      rw [← mine, newest]
      rfl
    rw [found] at keeps
    have present := (List.mem_filter.mp (Store.mem_of_newestOf? newest)).1
    refine ⟨keeps.samePlace (settled last present), ?_⟩
    have old : Column.flag (.bool true) = .ok (some location.outdated) := keeps.outdated
    rw [Column.flag_bool] at old
    exact (Option.some.inj (Except.ok.inj old)).symm

/-- The place of a device stands when a location is added that is a copy of the newest one, or that
    is of another device. -/
theorem stands_of_insert {location : Location} {after : Gateway}
    (inserted : after.store.locations = gateway.store.locations.insert location)
    (copies : location.device = device → ∃ last : Row Location,
      Store.newestOf? (gateway.store.locationsOf device) = some last ∧
        location.SamePlace last.value ∧ location.outdated = true) :
    Stands device gateway after := by
  by_cases own : location.device = device
  · obtain ⟨last, newest, same, outdated⟩ := copies own
    have grows : after.store.locationsOf device = gateway.store.locationsOf device ++
        [⟨gateway.store.locations.nextId, location⟩] := by
      rw [Store.locationsOf, inserted, Table.rows_insert, List.filter_append,
        List.filter_cons_of_pos (by simpa using own)]
      rfl
    have earlier : last.id < gateway.store.locations.nextId :=
      Table.lt_nextId (List.mem_filter.mp (Store.mem_of_newestOf? newest)).1
    refine ⟨?_, _, grows, fun row listed => ?_⟩
    · rw [Store.lastPlace?_eq, grows, Store.newestOf?_concat newest,
        Store.newer_of_copy same.fixTime earlier, Store.lastPlace?_eq, newest, Option.map_some,
        Option.map_some, same.place_eq]
    · rw [List.mem_singleton.mp listed, Store.lastPlace?_eq, newest, Option.map_some,
        same.place_eq]
      exact ⟨rfl, outdated⟩
  · refine stands_of_same ?_
    rw [Store.locationsOf, inserted, Table.rows_insert, List.filter_append,
      List.filter_cons_of_neg (by simpa using own), List.filter_nil, List.append_nil]
    rfl

/-- A report without coordinates lets the place of every device stand, whatever else it says. -/
theorem report_stands (consistent : gateway.store.isConsistent = true)
    (settled : AllSettled gateway) (somebody : device ≠ 0)
    (located : gateway.store.locationsOf device ≠ []) {request : Http.Request}
    (bare : carriedCoordinates? request = none) :
    Stands device gateway (gateway.report request).gateway := by
  rcases report_storing consistent request with same | ⟨location, storing⟩
  · exact stands_of_same (by rw [Store.locationsOf, same]; rfl)
  · refine stands_of_insert storing.locations ?_
    rintro rfl
    obtain ⟨last, newest⟩ := Option.ne_none_iff_exists'.mp
      (fun nothing => located (Store.newestOf?_eq_none_iff.mp nothing))
    exact ⟨last, newest, storing.copies settled bare somebody newest⟩

/-- A step neither hands in a location nor stores one again nor deletes a device. -/
def Step.SparesLocations : Step → Prop
  | .storePosition _ | .setValid _ _ | .deleteDevice _ => False
  | _ => True

/-- A step spares the locations, and if it is a report, it carries no coordinates. -/
def GivesNoPlace (gateway : Gateway) (what : Step) : Prop :=
  what.SparesLocations ∧ gateway.carriedBy? what = none

theorem step_locations_same {what : Step} (spares : what.SparesLocations)
    (noReport : ∀ raw, what = .request raw → gateway.report? raw = none) :
    (gateway.step what).gateway.store.locations = gateway.store.locations := by
  have commandsOnly : ∀ {after : Gateway}, CommandsOnly gateway after →
      after.store.locations = gateway.store.locations := by
    rintro _ ⟨commands, rfl⟩
    rfl
  cases what with
  | storePosition _ | setValid _ _ | deleteDevice _ => exact spares.elim
  | request raw => exact commandsOnly (step_commandsOnly (noReport raw rfl))
  | queueCommand _ _ _ | takeCommands _ _ | console _ =>
    exact commandsOnly (step_commandsOnly trivial)
  -- The other steps are about devices.
  | _ =>
    refine DevicesOnly.locations (step_devicesOnly ?_).2
    exact trivial

/-- A step that gives no place lets the place of every device stand. -/
theorem step_stands (consistent : gateway.store.isConsistent = true)
    (settled : AllSettled gateway) (somebody : device ≠ 0)
    (located : gateway.store.locationsOf device ≠ []) {what : Step}
    (bare : GivesNoPlace gateway what) : Stands device gateway (gateway.step what).gateway := by
  by_cases reporting : ∃ raw request, what = .request raw ∧ gateway.report? raw = some request
  · obtain ⟨raw, request, rfl, reports⟩ := reporting
    have served : (gateway.step (.request raw)).gateway = (gateway.report request).gateway :=
      congrArg Outcome.gateway (serve_of_report reports)
    have carried := bare.2
    rw [carriedBy?, reports] at carried
    rw [served]
    exact report_stands consistent settled somebody located carried
  · refine stands_of_same ?_
    rw [Store.locationsOf, step_locations_same bare.1 fun raw same => ?_]
    · rfl
    · rw [Option.eq_none_iff_forall_ne_some]
      exact fun request reports => reporting ⟨raw, request, same, reports⟩

/-- The place of a device stands over a run of steps that give no place. -/
theorem run_stands (consistent : gateway.store.isConsistent = true)
    (settled : AllSettled gateway) (somebody : device ≠ 0)
    (located : gateway.store.locationsOf device ≠ []) {steps : List Step}
    (bare : Along GivesNoPlace gateway steps) : Stands device gateway (gateway.run steps) := by
  induction steps generalizing gateway with
  | nil => exact stands_of_same rfl
  | cons what rest ih =>
    have first := step_stands consistent settled somebody located bare.1
    refine first.trans (ih (step_isConsistent consistent what)
      (step_settled consistent settled what) (fun none => located ?_) bare.2)
    -- Locations of the device are only added.
    obtain ⟨added, grows, -⟩ := first.added
    rw [grows] at none
    exact (List.append_eq_nil_iff.mp none).1

/-- Reports without coordinates do not disturb the last position of a device: in every state that is
    reached by any steps and in which the device has a location, every run of them, with any other
    fields and whether they are accepted or not, leaves the time of the fix, the validity and all
    measures of the last position. Of the locations of the device none is lost or changed, and those
    that are added have just these values and are marked as outdated. -/
theorem standing_place (fresh : Fresh gateway) (history : List Step) (somebody : device ≠ 0)
    (located : (gateway.run history).store.locationsOf device ≠ []) {steps : List Step}
    (bare : Along GivesNoPlace (gateway.run history) steps) :
    (gateway.run (history ++ steps)).store.lastPlace? device =
        (gateway.run history).store.lastPlace? device ∧
      ∃ added, (gateway.run (history ++ steps)).store.locationsOf device =
          (gateway.run history).store.locationsOf device ++ added ∧
        ∀ row ∈ added, some row.value.toPosition.place =
            (gateway.run history).store.lastPlace? device ∧ row.value.outdated = true := by
  obtain ⟨consistent, settled⟩ := run_settled fresh history
  obtain ⟨lastPlace, added⟩ := run_stands consistent settled somebody located bare
  rw [run_append]
  exact ⟨lastPlace, added⟩

/-- A report of a document, with the time of its location. -/
def documentStep (uniqueId timestamp : String) (others : Json.Members) : Step :=
  .request
    { method := "POST"
      contentType := some Report.jsonType
      body := (Json.render (.object [("device_id", .text uniqueId),
        ("location", .object (("timestamp", .text timestamp) :: others))])).toUTF8.toList }

/-- A report with coordinates. -/
def standingHistory : List Step :=
  [reportStep "id=a&lat=1&lon=2&altitude=3&timestamp=1700000000"]

/-- Reports without coordinates: one that supplies another altitude and a validity, one that is a
    document, and one that is rejected. -/
def bareReports : List Step :=
  [reportStep "id=a&lat=7&altitude=9&valid=0",
    documentStep "a" "2030-01-01T00:00:00Z" [],
    reportStep "id=a&lon=east"]

/-- Two of the reports are stored, and the place of the device stands. -/
theorem standing_place_altitude :
    (1 : Int) ≠ 0 ∧ (openGateway.run standingHistory).store.locationsOf 1 ≠ [] ∧
      Along GivesNoPlace (openGateway.run standingHistory) bareReports ∧
      ((openGateway.run (standingHistory ++ bareReports)).store.locationsOf 1).length = 3 ∧
      (openGateway.run (standingHistory ++ bareReports)).store.lastPlace? 1 =
        (openGateway.run standingHistory).store.lastPlace? 1 := by
  obtain ⟨located, bare, stored⟩ :
      (openGateway.run standingHistory).store.locationsOf 1 ≠ [] ∧
        ((openGateway.run standingHistory).carriedBy? bareReports[0] = none ∧
          (openGateway.run (standingHistory ++ bareReports.take 1)).carriedBy? bareReports[1] =
            none ∧
          (openGateway.run (standingHistory ++ bareReports.take 2)).carriedBy? bareReports[2] =
            none) ∧
        ((openGateway.run (standingHistory ++ bareReports)).store.locationsOf 1).length = 3 := by
    decide +kernel
  have bare : Along GivesNoPlace (openGateway.run standingHistory) bareReports :=
    ⟨⟨trivial, bare.1⟩, ⟨trivial, bare.2.1⟩, ⟨trivial, bare.2.2⟩, trivial⟩
  exact ⟨by decide, located, bare, stored,
    (standing_place openGateway_fresh standingHistory (by decide) located bare).1⟩

/-- A device is created under the number of no device, and reports its coordinates. -/
def nobodysHistory : List Step :=
  [.createDevice
      { id := some (.int 0), name := some (.text "Zero"), uniqueId := some (.text "z") },
    documentStep "z" "2024-01-01T00:00:00Z"
      [("coords", .object [("latitude", .int 1), ("longitude", .int 2)])]]

/-- It reports again, without coordinates. -/
def nobodysReports : List Step :=
  [documentStep "z" "2024-01-01T01:00:00Z" []]

/-- No location is looked up under the number of no device, so the place does not stand there. -/
theorem nobodys_place_moves :
    Fresh openGateway ∧ (openGateway.run nobodysHistory).store.locationsOf 0 ≠ [] ∧
      Along GivesNoPlace (openGateway.run nobodysHistory) nobodysReports ∧
      (openGateway.run (nobodysHistory ++ nobodysReports)).store.lastPlace? 0 ≠
        (openGateway.run nobodysHistory).store.lastPlace? 0 :=
  ⟨openGateway_fresh, by decide +kernel, ⟨⟨trivial, by decide +kernel⟩, trivial⟩, by decide +kernel⟩

end Gateway

end Telematics
