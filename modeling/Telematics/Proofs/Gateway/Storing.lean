import Telematics.Proofs.Gateway.Announcement
import Telematics.Proofs.Report.Acceptance

/-!
Reports that store a location. A report leaves the locations as they are, or it was accepted and
keeps its position as one location behind the others, for a device that is there. The place of the
location is the one that the report carries, or that of the newest location of the device.

* `Storing`: a report stores a location. `report_storing`: what comes of the locations in a report.
* `Located`: where the place of a location comes from. `Storing.located`: that of a location that a
  report stores comes from one of these.
* `step_locations`: where the locations come from that are there after a step.
-/

namespace Telematics.Gateway

open Relation (ReflTransGen)
open Report (Acceptance)

/-- A report is accepted, and its position is kept as a location behind the others. `settled` is the
    gateway afterwards. -/
inductive Storing (gateway : Gateway) (request : Http.Request) (location : Location)
    (settled : Gateway) : Prop where
  | intro {decoder : Report.Decoder} {position : Position} {members : Json.Members}
      {after : Gateway} :
      gateway.makeDecoder = .ok decoder →
      Acceptance services decoder gateway.clock request { gateway with decoder := some decoder }
        position after →
      location.Keeps position members →
      settled.store.devices = after.store.devices →
      settled.store.locations = gateway.store.locations.insert location →
      settled.store.hasDevice location.device = true →
      Storing gateway request location settled

variable {gateway : Gateway} {request : Http.Request}

/-- A report leaves the locations as they are, or it stores one. -/
theorem report_storing (consistent : gateway.store.isConsistent = true) (request : Http.Request) :
    (gateway.report request).gateway.store.locations = gateway.store.locations ∨
      ∃ location, Storing gateway request location (gateway.report request).gateway := by
  have reporting := report_reporting gateway request
  generalize gateway.report request = outcome at reporting ⊢
  cases reporting with
  | unmade _ => exact .inl rfl
  | undecoded decodes _ =>
    obtain ⟨_, rfl⟩ := decodes.before_eq
    exact .inl rfl
  | refused _ decodes effects =>
    obtain ⟨_, rfl⟩ := decodes.before_eq
    obtain ⟨_, _, rfl⟩ := effects_frame effects
    unfold complete
    split <;> exact .inl rfl
  | unstorable _ decodes _ _ _ =>
    obtain ⟨_, rfl⟩ := decodes.before_eq
    exact .inl rfl
  | @stored position device response before middle after stored store own decodes effects handover
      added =>
    obtain ⟨decoder, made, begun, ran⟩ := decodes
    have same : before.store = gateway.store := by rw [begun]
    obtain ⟨locations, -, -, reached⟩ :=
      before_storing effects handover (by rw [same]; exact consistent)
    obtain ⟨entries, location, -, keeps, -, rfl⟩ := Store.addPosition_eq_ok_iff.mp added
    have completes := Store.isConsistent_addLocation reached location
    cases known : after.store.hasDevice location.device with
    | true =>
      rw [known] at completes
      rw [complete_of_consistent completes]
      have accepted := Report.decode_acceptance ran
      rw [begun] at accepted
      have added : (after.store.addLocation location).2.locations =
          gateway.store.locations.insert location := by
        rw [← same, ← locations]
        rfl
      exact .inr ⟨location, .intro made accepted keeps rfl added known⟩
    | false =>
      rw [known] at completes
      rw [complete_of_dangling completes]
      exact .inl (by rw [store_rollBack, same])

theorem Storing.locations {location : Location} {settled : Gateway}
    (storing : Storing gateway request location settled) :
    settled.store.locations = gateway.store.locations.insert location := by
  obtain ⟨-, -, -, -, added, -⟩ := storing
  exact added

/-- A location that is new after a report was stored by it. -/
theorem storing_of_new (consistent : gateway.store.isConsistent = true) {row : Row Location}
    (new : row ∈ newLocations gateway (gateway.report request).gateway) :
    Storing gateway request row.value (gateway.report request).gateway := by
  rcases report_storing consistent request with same | ⟨location, storing⟩
  · rw [newLocations_eq_nil (noneNew_of_same same)] at new
    exact absurd new List.not_mem_nil
  · rw [newLocations_addLocation storing.locations, List.mem_singleton] at new
    rw [new]
    exact storing

/-! ## Places -/

/-- Where the place of a location comes from, for the coordinates that its report carries. -/
inductive Located (gateway : Gateway) (location : Location) :
    Option (Binary64 × Binary64) → Prop where
  | given {latitude longitude : Binary64} :
      location.latitude = storableMeasure (some latitude) →
      location.longitude = storableMeasure (some longitude) →
      Located gateway location (some (latitude, longitude))
  /-- It is that of the newest location of the device, and so is the time of the fix. -/
  | copied {last : Row Location} :
      location.device ≠ 0 →
      Store.newestOf? (gateway.store.locationsOf location.device) = some last →
      location.latitude = storableMeasure last.value.latitude →
      location.longitude = storableMeasure last.value.longitude →
      storableTime? last.value.fixTime = .ok location.fixTime → Located gateway location none
  /-- There is no location of the device yet. -/
  | first :
      location.device ≠ 0 →
      Store.newestOf? (gateway.store.locationsOf location.device) = none →
      location.latitude = none → location.longitude = none →
      location.fixTime = some Report.noFixTime → Located gateway location none
  /-- The device has the number of no device, for which no location is looked up. -/
  | nowhere :
      location.device = 0 → location.latitude = none → location.longitude = none →
      Located gateway location none

/-- The place of a location that a report stores. -/
theorem Storing.located {location : Location} {settled : Gateway}
    (storing : Storing gateway request location settled) :
    Located gateway location (Report.carriedCoordinates? request) := by
  obtain ⟨made, accepted, keeps, -, -, -⟩ := storing
  obtain ⟨device, time, base, middle, reached, effects, unplaced, placed⟩ :=
    accepted.placed services_follow_effect
  have noLatitude := unplaced.latitude
  have noLongitude := unplaced.longitude
  have mine := keeps.device_eq (placed.source.deviceId.trans unplaced.deviceId)
  have latitude := keeps.latitude
  have longitude := keeps.longitude
  have fixTime := keeps.fixTime
  generalize Report.carriedCoordinates? request = coordinates at placed ⊢
  cases placed with
  | given => exact .given (Except.ok.inj latitude).symm (Except.ok.inj longitude).symm
  | spot => exact .given (Except.ok.inj latitude).symm (Except.ok.inj longitude).symm
  | @filled last _ somebody looked =>
    cases looked
    -- Nothing that decoding did before concerns the locations.
    have newest : Store.newest? middle.store device = (Store.newestOf?
        (gateway.store.locationsOf location.device)).map (·.value.toPosition) := by
      rw [mine]
      obtain ⟨_, _, rfl⟩ := effects_frame effects
      rfl
    rw [newest] at latitude longitude fixTime
    cases found : Store.newestOf? (gateway.store.locationsOf location.device) with
    | some last =>
      rw [found] at latitude longitude fixTime
      exact .copied (by rw [mine]; exact somebody) found
        (by simpa [Report.fillFromLast, Location.toPosition] using latitude.symm)
        (by simpa [Report.fillFromLast, Location.toPosition] using longitude.symm) fixTime
    | none =>
      rw [found] at latitude longitude fixTime
      have noPlace : measureColumn "latitude" base.latitude = .ok location.latitude ∧
          measureColumn "longitude" base.longitude = .ok location.longitude :=
        ⟨latitude, longitude⟩
      rw [noLatitude, noLongitude] at noPlace
      exact .first (by rw [mine]; exact somebody) found (Except.ok.inj noPlace.1).symm
        (Except.ok.inj noPlace.2).symm (Except.ok.inj fixTime).symm
  | unfilled nobody =>
    rw [noLatitude] at latitude
    rw [noLongitude] at longitude
    exact .nowhere (mine.trans nobody) (Except.ok.inj latitude).symm (Except.ok.inj longitude).symm

/-! ## Steps -/

/-- A location was there before, and is as it was but for whether it is valid. -/
def Remains (before : Gateway) (row : Row Location) : Prop :=
  ∃ first ∈ before.store.locations.rows, first.id = row.id ∧
    ∃ valid, row.value = { first.value with valid }

/-- Every location was there before. -/
def AllRemain (before after : Gateway) : Prop :=
  ∀ row ∈ after.store.locations.rows, Remains before row

theorem allRemain_of_same {before after : Gateway}
    (same : after.store.locations = before.store.locations) : AllRemain before after := by
  intro row present
  rw [same] at present
  exact ⟨row, present, rfl, row.value.valid, rfl⟩

theorem CommandsOnly.allRemain {before after : Gateway} (only : CommandsOnly before after) :
    AllRemain before after := by
  obtain ⟨commands, rfl⟩ := only
  exact allRemain_of_same rfl

/-- A position that is handed in is stored. -/
def Step.IsDirect : Step → Prop
  | .storePosition _ => True
  | _ => False

/-- A step that is neither a report nor stores a position that is handed in has no new location. -/
theorem step_allRemain {what : Step} (indirect : ¬ what.IsDirect)
    (noReport : ∀ raw, what = .request raw → gateway.report? raw = none) :
    AllRemain gateway (gateway.step what).gateway := by
  have begins : AllRemain gateway gateway := allRemain_of_same rfl
  cases what with
  | storePosition _ => exact absurd trivial indirect
  | request raw => exact CommandsOnly.allRemain (step_commandsOnly (noReport raw rfl))
  | queueCommand _ _ _ | takeCommands _ _ | console _ =>
    exact CommandsOnly.allRemain (step_commandsOnly trivial)
  | deleteDevice uniqueId =>
    refine attemptDone_invariant (AllRemain gateway) begins fun after deleted => ?_
    obtain ⟨owner, -, rfl⟩ := deleteDevice_eq_ok deleted
    exact fun row kept => begins row (List.mem_filter.mp kept).1
  | setValid id valid =>
    refine attemptDone_invariant (AllRemain gateway) begins fun after done => ?_
    obtain ⟨marked, flag, found, rfl⟩ := setValid_marks done
    intro row kept
    obtain ⟨first, was, rfl⟩ := List.mem_map.mp kept
    refine ⟨first, was, rfl, ?_⟩
    by_cases own : first.id = marked.id
    · have one : first = marked := Table.eq_of_id_eq was (Table.mem_of_find? found).1 own
      exact ⟨flag, by simp [one]⟩
    · exact ⟨first.value.valid, by simp [own]⟩
  -- The other steps are about devices.
  | _ =>
    refine allRemain_of_same (DevicesOnly.locations (step_devicesOnly ?_).2)
    exact trivial

/-- A report stores a location in a step. -/
def StoredBy (gateway : Gateway) (what : Step) (row : Row Location) : Prop :=
  ∃ raw request, what = .request raw ∧ gateway.report? raw = some request ∧
    row.id = gateway.store.locations.nextId ∧
    Storing gateway request row.value (gateway.step what).gateway

/-- A location that is there after a step was there before, or a report stores it in the step, if no
    position is handed in. -/
theorem step_locations (consistent : gateway.store.isConsistent = true) {what : Step}
    (indirect : ¬ what.IsDirect) {row : Row Location}
    (present : row ∈ (gateway.step what).gateway.store.locations.rows) :
    Remains gateway row ∨ StoredBy gateway what row := by
  by_cases reporting : ∃ raw request, what = .request raw ∧ gateway.report? raw = some request
  · obtain ⟨raw, request, rfl, reports⟩ := reporting
    have served : (gateway.step (.request raw)).gateway = (gateway.report request).gateway :=
      congrArg Outcome.gateway (serve_of_report reports)
    rw [served] at present
    rcases report_storing consistent request with same | ⟨location, storing⟩
    · exact .inl (allRemain_of_same same row present)
    · rw [storing.locations, Table.mem_insert_iff] at present
      rcases present with old | rfl
      · exact .inl (allRemain_of_same rfl row old)
      · exact .inr ⟨raw, request, rfl, reports, rfl, by rw [served]; exact storing⟩
  · refine .inl (step_allRemain indirect (fun raw same => ?_) row present)
    rw [Option.eq_none_iff_forall_ne_some]
    exact fun request reports => reporting ⟨raw, request, same, reports⟩

end Telematics.Gateway
