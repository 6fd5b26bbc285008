import Telematics.Proofs.Gateway.Run

/-!
Messages about stored positions. While messages are sent, what a step sends is what the locations
that are new after it call for, one message to the group of the device and one to the fleet for each
of them, with two exceptions: a report about a device that does not exist, whose position is
published before it is found out and undone; and a position that is stored directly under a number
that is no integer, which is published as it was handed in.

* `newLocations`, `announcement`: what is new after a step, and what it calls for.
* `Vanishes`, `Phantom`: the two exceptions.
* `report_announced_iff`, `step_announced_iff`, `run_announced_iff`: what is sent for a report, in a
  step, and in a step of a run.
-/

namespace Telematics.Gateway

open Relation (ReflTransGen)
open Report (Decoded Failure)

/-- The locations that are there after a step under numbers that were free before. -/
def newLocations (before after : Gateway) : List (Row Location) :=
  after.store.locations.rows.filter fun row => (before.store.locations.find? row.id).isNone

/-- What is heard of a message: the group, the type, and the number of the device. -/
def heard (outbox : Outbox) : List (String × Option Json × Option Json) :=
  outbox.map fun sent => (sent.1, Json.Members.get? sent.2 "type",
    Json.Members.get? sent.2 "device_id")

/-- What a location calls for: one message to the group of its device, and one to the fleet. -/
def announcement (row : Row Location) : List (String × Option Json × Option Json) :=
  [(Stream.deviceGroup (.int row.value.device), some (.text Stream.positionType),
      some (.int row.value.device)),
    (Stream.fleetGroup, some (.text Stream.positionType), some (.int row.value.device))]

/-- What is sent is what the new locations call for. -/
def Announced (before : Gateway) {α : Type} (outcome : Outcome α) : Prop :=
  heard outcome.outbox = (newLocations before outcome.gateway).flatMap announcement

theorem heard_publication (position : Position) :
    heard (Stream.publication position) =
      [(Stream.deviceGroup position.deviceId, some (.text Stream.positionType),
          some position.deviceId),
        (Stream.fleetGroup, some (.text Stream.positionType), some position.deviceId)] := rfl

variable {gateway before after : Gateway}

/-- Every location has the number of one that was there. -/
def NoneNew (before after : Gateway) : Prop :=
  ∀ row ∈ after.store.locations.rows, ∃ first ∈ before.store.locations.rows, first.id = row.id

theorem noneNew_of_same (same : after.store.locations = before.store.locations) :
    NoneNew before after := by
  intro row present
  rw [same] at present
  exact ⟨row, present, rfl⟩

theorem newLocations_eq_nil (noneNew : NoneNew before after) : newLocations before after = [] := by
  unfold newLocations
  rw [List.filter_eq_nil_iff]
  intro row present
  obtain ⟨first, was, same⟩ := noneNew row present
  rw [Table.find?_eq_some_iff.mpr ⟨was, same⟩]
  simp

/-- A location that is added is the one that is new. -/
theorem newLocations_addLocation {location : Location}
    (added : after.store.locations = before.store.locations.insert location) :
    newLocations before after = [⟨before.store.locations.nextId, location⟩] := by
  unfold newLocations
  rw [added, Table.rows_insert, List.filter_append]
  have none : before.store.locations.rows.filter
      (fun row => (before.store.locations.find? row.id).isNone) = [] := by
    rw [List.filter_eq_nil_iff]
    intro row present
    rw [Table.find?_eq_some_iff.mpr ⟨present, rfl⟩]
    simp
  have free : (before.store.locations.find? before.store.locations.nextId).isNone = true := by
    rw [Table.find?_nextId]
    rfl
  simp only [none, List.nil_append, List.filter_cons, free, if_true, List.filter_nil]

/-- Where nothing is sent and nothing is new, what is sent is what is called for. -/
theorem announced_of_silent {α : Type} {outcome : Outcome α} (silent : outcome.outbox = [])
    (noneNew : NoneNew before outcome.gateway) : Announced before outcome := by
  rw [Announced, silent, newLocations_eq_nil noneNew]
  rfl

/-- A location that is new is announced by the publication of its position if that names its
    device. -/
theorem announced_of_published {α : Type} {outcome : Outcome α} {position : Position}
    {location : Location} (sent : outcome.outbox = Stream.publication position)
    (added : outcome.gateway.store.locations = before.store.locations.insert location) :
    Announced before outcome ↔ position.deviceId = .int location.device := by
  rw [Announced, sent, newLocations_addLocation added, heard_publication]
  constructor
  · intro same
    simp only [List.flatMap_cons, announcement, List.cons_append, List.cons.injEq, Prod.mk.injEq,
      Option.some.injEq] at same
    exact same.1.2.2
  · intro own
    rw [own]
    rfl

/-- A publication is not called for where nothing is new. -/
theorem not_announced_of_published {α : Type} {outcome : Outcome α} {position : Position}
    (sent : outcome.outbox = Stream.publication position)
    (noneNew : NoneNew before outcome.gateway) : ¬ Announced before outcome := by
  rw [Announced, sent, newLocations_eq_nil noneNew, heard_publication]
  simp

/-- Messages are sent, and they arrive. -/
def Broadcasts (gateway : Gateway) : Prop :=
  gateway.settings.broadcast = true ∧ gateway.layer = .working

theorem publication_of_broadcasts (broadcasts : Broadcasts gateway) (position : Position) :
    gateway.publication position = Stream.publication position := by
  rw [publication, if_pos broadcasts.1, broadcasts.2, Layer.taken_working]

/-! ## Reports -/

/-- The position of a report is decoded and fits into the store, but its device does not exist. -/
def Vanishes (gateway : Gateway) (request : Http.Request) : Prop :=
  ∃ position response before after stored store device,
    Decodes gateway request (.ok ⟨some position, response⟩) before after ∧
      after.store.addPosition position = .ok (stored, store) ∧
      position.deviceId = .int device ∧ after.store.hasDevice device = false

/-- What is there when the position of a report is stored: no location is new, no setting has
    changed, and the store is consistent. -/
theorem before_storing {before middle : Gateway} {device : Int} {response : Http.Response}
    (effects : ReflTransGen Effect before middle) (handover : Handover middle device response after)
    (consistent : before.store.isConsistent = true) :
    after.store.locations = before.store.locations ∧ after.settings = before.settings ∧
      after.layer = before.layer ∧ after.store.isConsistent = true := by
  have reached := effects_isConsistent effects consistent
  obtain ⟨_, _, rfl⟩ := effects_frame effects
  rcases handover.frame with rfl | ⟨ids, rfl⟩
  · exact ⟨rfl, rfl, rfl, reached⟩
  · exact ⟨rfl, rfl, rfl, Store.Change.commandsRemoved.isConsistent reached⟩

/-- A report whose position does not get as far as being stored sends nothing. -/
theorem unstored_announced_iff {request : Http.Request} {outcome : Outcome Http.Response}
    {result : Except (Failure Fault) Decoded}
    (decodes : Decodes gateway request result before after) (sent : outcome.outbox = [])
    (same : outcome.gateway.store.locations = gateway.store.locations)
    (unstored : ∀ position response stored store, result = .ok ⟨some position, response⟩ →
      after.store.addPosition position ≠ .ok (stored, store)) :
    Announced gateway outcome ↔ ¬ Vanishes gateway request := by
  refine iff_of_true (announced_of_silent sent (noneNew_of_same same)) ?_
  rintro ⟨position, response, _, _, stored, store, _, decodes', added, -⟩
  obtain ⟨told, -, rfl⟩ := decodes.unique decodes'
  exact unstored position response stored store told added

/-- The messages of a report whose position is stored are called for if its device exists. -/
theorem stored_announced_iff {request : Http.Request} {position : Position} {device : Int}
    {response : Http.Response} {middle : Gateway} {stored : Store.Stored} {store : Store}
    (consistent : gateway.store.isConsistent = true) (broadcasts : Broadcasts gateway)
    (own : position.deviceId = .int device)
    (decodes : Decodes gateway request (.ok ⟨some position, response⟩) before after)
    (effects : ReflTransGen Effect before middle) (handover : Handover middle device response after)
    (added : after.store.addPosition position = .ok (stored, store)) :
    Announced gateway
        (complete before { after with store } (after.publication stored.handedIn) response) ↔
      ¬ Vanishes gateway request := by
  obtain ⟨_, begun⟩ := decodes.before_eq
  have same : before.store = gateway.store := by rw [begun]
  obtain ⟨locations, settings, layer, reached⟩ :=
    before_storing effects handover (by rw [same]; exact consistent)
  obtain ⟨location, mine, -, named, rfl⟩ := Store.addPosition_eq_ok_of_int own added
  have completes := Store.isConsistent_addLocation reached location
  rw [mine] at completes
  have sent : after.publication stored.handedIn = Stream.publication stored.handedIn := by
    refine publication_of_broadcasts ?_ _
    rw [Broadcasts, settings, layer, begun]
    exact broadcasts
  cases known : after.store.hasDevice device with
  | true =>
    rw [known] at completes
    rw [complete_of_consistent completes]
    refine iff_of_true ?_ ?_
    · have new : (after.store.addLocation location).2.locations =
          gateway.store.locations.insert location := by
        rw [← same, ← locations]
        rfl
      exact (announced_of_published sent new).2 (by rw [named, mine])
    · rintro ⟨_, _, _, _, _, _, _, decodes', -, own', missing⟩
      obtain ⟨told, -, rfl⟩ := decodes.unique decodes'
      cases told
      rw [own] at own'
      cases own'
      rw [known] at missing
      cases missing
  | false =>
    -- The messages are out by the time that completing the report fails.
    rw [known] at completes
    rw [complete_of_dangling completes]
    have gone : NoneNew gateway (rollBack before
        { after with store := (after.store.addLocation location).2 }) :=
      noneNew_of_same (by rw [store_rollBack, same])
    refine iff_of_false (not_announced_of_published sent gone) (not_not_intro ?_)
    exact ⟨position, response, before, after, stored, _, device, decodes, added, own, known⟩

/-- What is sent for a report is what the new locations call for, unless its position vanishes. -/
theorem report_announced_iff {request : Http.Request}
    (consistent : gateway.store.isConsistent = true) (broadcasts : Broadcasts gateway) :
    Announced gateway (gateway.report request) ↔ ¬ Vanishes gateway request := by
  have reporting := report_reporting gateway request
  generalize gateway.report request = outcome at reporting ⊢
  cases reporting with
  | unmade unmade =>
    refine iff_of_true (announced_of_silent rfl (noneNew_of_same rfl)) ?_
    rintro ⟨_, _, _, _, _, _, _, ⟨_, made, -⟩, -⟩
    rw [unmade] at made
    cases made
  | undecoded decodes _ =>
    refine unstored_announced_iff decodes rfl ?_ (fun _ _ _ _ told => nomatch told)
    obtain ⟨_, rfl⟩ := decodes.before_eq
    rfl
  | refused _ decodes effects =>
    refine unstored_announced_iff decodes ?_ ?_ (fun _ _ _ _ told => nomatch told)
    · unfold complete
      split <;> rfl
    · obtain ⟨_, rfl⟩ := decodes.before_eq
      obtain ⟨_, _, rfl⟩ := effects_frame effects
      unfold complete
      split <;> rfl
  | unstorable own decodes _ _ failed =>
    refine unstored_announced_iff decodes rfl ?_ fun position response stored store told added => ?_
    · obtain ⟨_, rfl⟩ := decodes.before_eq
      rfl
    · cases told
      rw [failed] at added
      cases added
  | stored own decodes effects handover added =>
    exact stored_announced_iff consistent broadcasts own decodes effects handover added

/-! ## Steps -/

/-- A step sends messages that no location calls for as they are: a report whose position vanishes,
    or a position that is stored directly under a number that is no integer. -/
def Phantom (gateway : Gateway) : Step → Prop
  | .request raw => ∃ request, gateway.report? raw = some request ∧ Vanishes gateway request
  | .storePosition position =>
    (∃ id, (gateway.storePosition position).result = .ok id) ∧
      ∀ device, position.deviceId ≠ .int device
  | _ => False

/-- What is attempted sends nothing, so nothing has to be new where it succeeds. -/
theorem announced_of_attempt {α : Type} {reply : α → Reply} {change : Except Fault (α × Gateway)}
    (noneNew : ∀ value after, change = .ok (value, after) → NoneNew gateway after) :
    Announced gateway (gateway.attempt reply change) := by
  rcases attempt_cases gateway reply change with ⟨value, after, done, same⟩ | ⟨fault, -, same⟩
  · rw [same]
    exact announced_of_silent rfl (noneNew value after done)
  · rw [same]
    exact announced_of_silent rfl (noneNew_of_same rfl)

theorem announced_of_attemptDone {change : Except Fault Gateway}
    (noneNew : ∀ after, change = .ok after → NoneNew gateway after) :
    Announced gateway (gateway.attemptDone change) := by
  refine announced_of_attempt fun value after done => ?_
  obtain ⟨middle, made, same⟩ := map_eq_ok_iff.mp done
  cases same
  exact noneNew _ made

theorem request_announced_iff (consistent : gateway.store.isConsistent = true)
    (broadcasts : Broadcasts gateway) (raw : Http.RawRequest) :
    Announced gateway (gateway.step (.request raw)) ↔ ¬ Phantom gateway (.request raw) := by
  show Announced gateway (gateway.serve raw) ↔ _
  have serving := serve_serving gateway raw
  generalize gateway.serve raw = outcome at serving ⊢
  cases serving with
  | @report request reports _ =>
    rw [report_announced_iff consistent broadcasts]
    simp [Phantom, reports]
  | order noReport _ _ =>
    refine iff_of_true (announced_of_silent rfl (noneNew_of_same rfl)) ?_
    simp [Phantom, noReport]
  | idle noReport _ _ =>
    refine iff_of_true (announced_of_silent rfl (noneNew_of_same rfl)) ?_
    simp [Phantom, noReport]

theorem storePosition_announced_iff (broadcasts : Broadcasts gateway) (position : Position) :
    Announced gateway (gateway.step (.storePosition position)) ↔
      ¬ Phantom gateway (.storePosition position) := by
  show Announced gateway (gateway.storePosition position) ↔ _
  rw [Phantom]
  rcases storePosition_cases gateway position with
    ⟨stored, location, added, row, -, same⟩ | ⟨fault, same⟩
  · obtain ⟨location', named, row', handedIn, -⟩ := Store.addPosition_eq_ok added
    rw [row] at row'
    cases row'
    rw [same, announced_of_published (publication_of_broadcasts broadcasts _) rfl, handedIn]
    constructor
    · rintro own ⟨-, other⟩
      exact other _ own
    · intro real
      by_cases own : ∃ device, position.deviceId = .int device
      · obtain ⟨device, own⟩ := own
        rw [own] at named ⊢
        simp only [Column.integer, Except.ok.injEq, Option.some.injEq] at named
        rw [named]
      · exact absurd ⟨⟨_, rfl⟩, fun device same => own ⟨device, same⟩⟩ real
  · rw [same]
    refine iff_of_true (announced_of_silent rfl (noneNew_of_same rfl)) ?_
    rintro ⟨⟨_, stored⟩, -⟩
    cases stored

/-- A step that sends messages sends what the new locations call for, unless it is a phantom. -/
theorem step_announced_iff (consistent : gateway.store.isConsistent = true)
    (broadcasts : Broadcasts gateway) (what : Step) :
    Announced gateway (gateway.step what) ↔ ¬ Phantom gateway what := by
  cases what with
  | request raw => exact request_announced_iff consistent broadcasts raw
  | storePosition position => exact storePosition_announced_iff broadcasts position
  | deleteDevice uniqueId =>
    refine iff_of_true (announced_of_attemptDone fun after deleted => ?_) id
    obtain ⟨row, -, rfl⟩ := deleteDevice_eq_ok deleted
    exact fun location present => ⟨location, (List.mem_filter.mp present).1, rfl⟩
  | queueCommand device type payload =>
    refine iff_of_true (announced_of_attempt fun row after queued => noneNew_of_same ?_) id
    obtain ⟨_, -, -, -, rfl⟩ := queueCommand_eq_ok queued
    rfl
  | takeCommands device count =>
    refine iff_of_true (announced_of_attempt fun taken after done => noneNew_of_same ?_) id
    rcases takeCommands_cases done with ⟨-, rfl⟩ | ⟨_, _, -, rfl⟩ <;> rfl
  | setValid id valid =>
    -- A location that is marked has the number that it had.
    refine iff_of_true (announced_of_attemptDone fun after done => ?_) fun phantom => phantom
    obtain ⟨_, _, -, -, rfl⟩ := setValid_eq_ok done
    intro row present
    obtain ⟨first, was, rfl⟩ := List.mem_map.mp present
    exact ⟨first, was, rfl⟩
  | console arguments =>
    refine iff_of_true (announced_of_attempt fun text after done => noneNew_of_same ?_) id
    obtain ⟨_, -, -, rfl⟩ := runConsole_eq_ok done
    rfl
  -- The other steps are about devices.
  | _ =>
    refine iff_of_true ?_ fun phantom => phantom
    refine announced_of_silent (step_devicesOnly ?_).1
      (noneNew_of_same (DevicesOnly.locations (step_devicesOnly ?_).2))
    · exact trivial
    · exact trivial

/-! ## Runs -/

/-- In every state of a run in which messages are sent, a step sends what the new locations call
    for, device first and fleet second, if and only if it is no phantom. -/
theorem run_announced_iff (fresh : Fresh gateway) (steps : List Step)
    (broadcasts : Broadcasts (gateway.run steps)) (what : Step) :
    Announced (gateway.run steps) ((gateway.run steps).step what) ↔
      ¬ Phantom (gateway.run steps) what :=
  step_announced_iff (run_isConsistent fresh steps) broadcasts what

/-- A report that is stored is announced. -/
theorem stored_report_announced :
    Broadcasts (openGateway.run []) ∧
      (heard (openGateway.step (reportStep "id=a&lat=1&lon=2")).outbox).length = 2 ∧
      (Announced (openGateway.run [])
          ((openGateway.run []).step (reportStep "id=a&lat=1&lon=2")) ↔
        ¬ Phantom (openGateway.run []) (reportStep "id=a&lat=1&lon=2")) := by
  have broadcasts : Broadcasts (openGateway.run []) := ⟨rfl, rfl⟩
  exact ⟨broadcasts, by decide +kernel, run_announced_iff openGateway_fresh [] broadcasts _⟩

/-- The device of the second report was undone with the first one. Its position is published, and
    no location is there. -/
theorem undone_registration_not_announced :
    Fresh openGateway ∧ Broadcasts (openGateway.run [reportStep "id=a&lat=north"]) ∧
      ¬ Announced (openGateway.run [reportStep "id=a&lat=north"])
        ((openGateway.run [reportStep "id=a&lat=north"]).step
          (reportStep "id=a&lat=1&lon=2&timestamp=1700000000")) := by
  refine ⟨openGateway_fresh, ?_, ?_⟩
  · exact ⟨by decide +kernel, by decide +kernel⟩
  · rw [Announced]
    decide +kernel

end Telematics.Gateway
