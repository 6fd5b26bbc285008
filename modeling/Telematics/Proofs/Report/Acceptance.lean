import Telematics.Proofs.Report.Parameters

/-!
What a report carries, and what becomes of it when it is accepted. The identifier and the
coordinates that a report carries can be told from its request alone. An accepted report has the
position of its device, at these coordinates if it carries both of them, and otherwise filled from
the last position of the device.

* `carriedIdentifier?`, `carriedCoordinates?`: what a request carries.
* `Placed`: how a position gets its place.
* `Acceptance`: how a report is accepted. `decode_acceptance`: a report that has a position was
  accepted in one of these ways.
-/

namespace Telematics.Report

open Calendar (Clock Moment)
open Relation (ReflTransGen)

variable {ε σ : Type} {services : Services ε σ}

/-! ## What a request carries -/

/-- The parameters of a request, in the order in which they are handled. -/
def parameters? (request : Http.Request) : Option (List Http.Field) :=
  ((requestFields request : Except (Failure Empty) _).toOption).map Http.grouped

/-- The document of a request. -/
def document? (request : Http.Request) : Option Json.Members :=
  request.body?.bind fun body =>
    match (Text.readUtf8 body).toOption.bind fun text =>
      (Json.parse false request.depth text).toOption with
    | some (.object members) => some members
    | _ => none

/-- The measures of the place in a document, if it has any. -/
def spotOf? (document : Json.Members) : Option Spot :=
  (requiredObject document "location").toOption.bind fun location =>
    (optionalObject location "coords").toOption.join.bind fun members =>
      (readSpot members).toOption

/-- Two coordinates, if both are there. -/
def both? : Option Binary64 → Option Binary64 → Option (Binary64 × Binary64)
  | some latitude, some longitude => some (latitude, longitude)
  | _, _ => none

/-- The identifier that a request carries: that of its document, or the last one among its
    parameters. -/
def carriedIdentifier? (request : Http.Request) : Option Letters :=
  if isJson request then
    (document? request).bind fun document => (readIdentifier document).toOption
  else ((parameters? request).bind (latest? identifierOf?)).map .whole

/-- The coordinates that a request carries, if it carries both of them: those of its document, or
    the last ones among its parameters. -/
def carriedCoordinates? (request : Http.Request) : Option (Binary64 × Binary64) :=
  if isJson request then
    ((document? request).bind spotOf?).map fun spot => (spot.latitude, spot.longitude)
  else
    (parameters? request).bind fun fields =>
      both? (latest? latitudeOf? fields) (latest? longitudeOf? fields)

theorem limited_eq_ok_iff {ε : Type} {fields : Except Http.FormFault (List Http.Field)}
    {known : List Http.Field} :
    (limited fields : Except (Failure ε) _) = .ok known ↔ fields = .ok known :=
  mapError_eq_ok_iff

/-- Reading the parameters of a request needs no service, so the faults of services do not
    matter. -/
theorem requestFields_eq_ok {φ : Type} {request : Http.Request} {fields : List Http.Field}
    (read : (requestFields request : Except (Failure ε) _) = .ok fields) :
    (requestFields request : Except (Failure φ) _) = .ok fields := by
  unfold requestFields at read ⊢
  obtain ⟨known, kept, read⟩ := bind_eq_ok_iff.mp read
  refine bind_eq_ok_iff.mpr ⟨known, limited_eq_ok_iff.mpr (limited_eq_ok_iff.mp kept), ?_⟩
  split at read
  · exact limited_eq_ok_iff.mpr (limited_eq_ok_iff.mp read)
  · cases read
  · cases read
    rfl

/-- The fields of a query string are the parameters, if there are any. -/
theorem requestFields_of_query {request : Http.Request} {fields : List Http.Field}
    (filled : fields ≠ []) (read : request.fields = .ok fields) :
    (requestFields request : Except (Failure ε) _) = .ok fields := by
  unfold requestFields
  rw [read]
  cases fields with
  | nil => exact absurd rfl filled
  | cons field rest => rfl

theorem parameters?_of_requestFields {request : Http.Request} {fields : List Http.Field}
    (read : (requestFields request : Except (Failure ε) _) = .ok fields) :
    parameters? request = some (Http.grouped fields) := by
  have same : (requestFields request : Except (Failure Empty) _) = .ok fields :=
    requestFields_eq_ok read
  rw [parameters?, same]
  rfl

theorem finite_of_number {key : String} {value : Json} {number : Binary64}
    (read : Report.number key value = .ok number) : number.isFinite = true := by
  cases value with
  | int value =>
    simp only [Report.number] at read
    split at read
    · rename_i finite
      cases read
      exact finite
    · cases read
  | float value =>
    simp only [Report.number, finite] at read
    split at read
    · rename_i finite
      cases read
      exact finite
    · cases read
  | _ => cases read

theorem finite_of_requiredNumber {members : Json.Members} {key : String} {number : Binary64}
    (read : requiredNumber members key = .ok number) : number.isFinite = true := by
  unfold requiredNumber at read
  split at read
  · cases read
  · cases read
  · exact finite_of_number read

/-- A place in a document has finite coordinates. -/
theorem finite_of_readSpot {members : Json.Members} {spot : Spot}
    (read : readSpot members = .ok spot) :
    spot.latitude.isFinite = true ∧ spot.longitude.isFinite = true := by
  unfold readSpot at read
  obtain ⟨latitude, one, read⟩ := bind_eq_ok_iff.mp read
  obtain ⟨longitude, two, read⟩ := bind_eq_ok_iff.mp read
  iterate 2 obtain ⟨_, -, read⟩ := bind_eq_ok_iff.mp read
  have finite := And.intro (finite_of_requiredNumber one) (finite_of_requiredNumber two)
  dsimp only at read
  -- The accuracy is read in one branch alone, and the altitude in both.
  split at read <;>
    · iterate 2 obtain ⟨_, -, read⟩ := bind_eq_ok_iff.mp read
      cases read
      exact finite

/-- The coordinates that a document carries are finite. -/
theorem finite_of_carriedCoordinates? {request : Http.Request} {latitude longitude : Binary64}
    (json : isJson request = true)
    (carried : carriedCoordinates? request = some (latitude, longitude)) :
    latitude.isFinite = true ∧ longitude.isFinite = true := by
  rw [carriedCoordinates?, if_pos json] at carried
  obtain ⟨spot, found, same⟩ := Option.map_eq_some_iff.mp carried
  obtain ⟨document, -, found⟩ := Option.bind_eq_some_iff.mp found
  obtain ⟨location, -, found⟩ := Option.bind_eq_some_iff.mp found
  obtain ⟨members, -, found⟩ := Option.bind_eq_some_iff.mp found
  cases same
  exact finite_of_readSpot (toOption_eq_some_iff.mp found)

/-! ## Places -/

/-- How a position gets its place, from the position without coordinates and the coordinates that
    are known, if both are. -/
inductive Placed (services : Services ε σ) (device : Int) (time : Moment) (base : Position)
    (state : σ) : Option (Binary64 × Binary64) → Position → σ → Prop where
  | given {latitude longitude : Binary64} :
      Placed services device time base state (some (latitude, longitude))
        { base with latitude := .float latitude, longitude := .float longitude } state
  /-- A document gives other measures with the coordinates. -/
  | spot {spot : Spot} :
      Placed services device time base state (some (spot.latitude, spot.longitude))
        (spot.putInto base) state
  /-- The last position of the device stands in. -/
  | filled {last : Option Position} {after : σ} :
      device ≠ 0 → (services.lastPosition device).run state = (.ok last, after) →
      Placed services device time base state none
        { fillFromLast last base with deviceTime := some time } after
  /-- There is no device whose last position could stand in. -/
  | unfilled : device = 0 → Placed services device time base state none base state

variable {decoder : Decoder} {clock : Clock} {state after : σ} {position : Position}

theorem fallBack_placed {device : Int} {base : Position} {time : Moment}
    (ran : (fallBack services device base time).run state = (.ok position, after)) :
    Placed services device time base state none position after := by
  unfold fallBack at ran
  split at ran
  · rename_i nobody
    cases ran
    exact .unfilled nobody
  · rename_i somebody
    obtain ⟨last, middle, looked, done⟩ := Action.run_bind_ok ran
    cases done
    exact .filled somebody (Action.run_call_ok looked)

theorem locate_placed {protocol : Json} {now : Moment} {draft : Draft}
    (ran : (draft.locate protocol services now).run state = (.ok position, after)) :
    Placed services draft.device (draft.time.getD now) (draft.toPosition protocol now) state
      (both? draft.latitude draft.longitude) position after := by
  unfold Draft.locate at ran
  split at ran
  · rename_i latitude longitude one two
    cases ran
    rw [one, two]
    exact .given
  · rename_i missing
    have none : both? draft.latitude draft.longitude = none := by
      unfold both?
      split
      · rename_i latitude longitude one two
        exact absurd two (missing latitude longitude one)
      · rfl
    rw [none]
    exact fallBack_placed ran

/-- Attributes do not matter to the place of a position. -/
theorem Placed.setAttributes {device : Int} {time : Moment} {base : Position}
    {coordinates : Option (Binary64 × Binary64)}
    (placed : Placed services device time base state coordinates position after)
    (attributes : Json) :
    Placed services device time { base with attributes } state coordinates
      { position with attributes } after := by
  cases placed with
  | given => exact .given
  | spot => exact .spot
  | @filled last _ somebody looked =>
    have same : { fillFromLast last base with deviceTime := some time, attributes := attributes } =
        { fillFromLast last { base with attributes } with deviceTime := some time } := by
      cases last <;> rfl
    rw [same]
    exact .filled somebody looked
  | unfilled nobody => exact .unfilled nobody

/-- Two positions are of one device, under one protocol and with the same radio observations. -/
structure SameSource (position base : Position) : Prop where
  protocol : position.protocol = base.protocol
  deviceId : position.deviceId = base.deviceId
  network : position.network = base.network

/-- A position that gets its place stays with its source. -/
theorem Placed.source {device : Int} {time : Moment} {base : Position}
    {coordinates : Option (Binary64 × Binary64)}
    (placed : Placed services device time base state coordinates position after) :
    SameSource position base := by
  cases placed with
  | given => exact ⟨rfl, rfl, rfl⟩
  | spot => exact ⟨rfl, rfl, rfl⟩
  | @filled last _ _ _ => cases last <;> exact ⟨rfl, rfl, rfl⟩
  | unfilled _ => exact ⟨rfl, rfl, rfl⟩

/-! ## Acceptance -/

/-- The position of a document, but for its place. -/
def documentPosition (protocol : Json) (now : Moment) (device : Int) (time : Moment)
    (attributes : Json.Members) : Position where
  protocol
  deviceId := .int device
  serverTime := some now
  deviceTime := some time
  fixTime := some time
  attributes := .object attributes

/-- How a report is accepted: its position, and the state afterwards. -/
inductive Acceptance (services : Services ε σ) (decoder : Decoder) (clock : Clock)
    (request : Http.Request) (state : σ) : Position → σ → Prop where
  | parameters {fields : List Http.Field} {draft : Draft} {position : Position}
      {payloads : List Json} {middle located after : σ} :
      isJson request = false → parameters? request = some fields →
      Walk services decoder clock.zone request.remote state {} fields draft middle →
      draft.device ≠ 0 →
      Placed services draft.device (draft.time.getD clock.now)
        (draft.toPosition decoder.protocol clock.now) middle
        (both? draft.latitude draft.longitude) position located →
      (services.takeCommands draft.device 1).run located = (.ok payloads, after) →
      Acceptance services decoder clock request state position after
  | document {document location : Json.Members} {identifier : Letters} {device : Int}
      {time : Moment} {attributes : Json.Members} {position : Position} {middle after : σ} :
      isJson request = true → document? request = some document →
      readIdentifier document = .ok identifier →
      (services.findDevice decoder.protocol request.remote [identifier]).run state =
        (.ok (some device), middle) →
      requiredObject document "location" = .ok location → readExtras location = .ok attributes →
      Placed services device clock.now
        (documentPosition decoder.protocol clock.now device time attributes) middle
        ((spotOf? document).map fun spot => (spot.latitude, spot.longitude)) position after →
      Acceptance services decoder clock request state position after

theorem decodeFields_acceptance {request : Http.Request} {fields : List Http.Field}
    {response : Http.Response} (plain : isJson request = false)
    (known : parameters? request = some fields)
    (ran : (decodeFields decoder clock services request.remote fields).run state =
      (.ok ⟨some position, response⟩, after)) :
    Acceptance services decoder clock request state position after := by
  obtain ⟨found, middle, walk, ran⟩ := Action.run_bind_ok ran
  cases found with
  | none => cases ran
  | some draft =>
    obtain ⟨place, located, located_, ran⟩ := Action.run_bind_ok ran
    by_cases nobody : draft.device = 0
    · simp only [nobody, if_pos] at ran
      cases ran
    · simp only [nobody, if_false] at ran
      obtain ⟨told, reached, answer, done⟩ := Action.run_bind_ok ran
      rcases run_commandResponse_cases answer with ⟨_, _, same⟩ | ⟨payloads, taken, same⟩
      · cases same
      · cases done
        exact .parameters plain known (handleAll_walk walk) nobody (locate_placed located_) taken

/-- What a document says about its place is what is read of it. -/
theorem spotOf?_eq {document location : Json.Members} {coords : Option Json.Members}
    (inside : requiredObject document "location" = .ok location)
    (listed : optionalObject location "coords" = .ok coords) :
    spotOf? document = coords.bind fun members => (readSpot members).toOption := by
  rw [spotOf?, inside]
  show (optionalObject location "coords").toOption.join.bind _ = _
  rw [listed]
  rfl

theorem decodeDocument_acceptance {request : Http.Request} {document : Json.Members}
    {response : Http.Response} (json : isJson request = true)
    (known : document? request = some document)
    (ran : (decodeDocument decoder clock services request.remote document).run state =
      (.ok ⟨some position, response⟩, after)) :
    Acceptance services decoder clock request state position after := by
  obtain ⟨identifier, named, ran⟩ := run_orReject_bind_ok ran
  obtain ⟨found, middle, looked, ran⟩ := Action.run_bind_ok ran
  have looked := Action.run_call_ok looked
  cases found with
  | none => cases ran
  | some device =>
    obtain ⟨location, inside, ran⟩ := run_orReject_bind_ok ran
    obtain ⟨timestamp, -, ran⟩ := run_orReject_bind_ok ran
    obtain ⟨time, -, ran⟩ := run_orReject_bind_ok ran
    obtain ⟨coords, listed, ran⟩ := run_orReject_bind_ok ran
    have said := spotOf?_eq inside listed
    cases coords with
    | some members =>
      obtain ⟨spot, read, ran⟩ := run_orReject_bind_ok ran
      obtain ⟨attributes, extra, done⟩ := run_orReject_bind_ok ran
      cases done
      rw [Option.bind_some, toOption_eq_some_iff.mpr read] at said
      have placed : Placed services device clock.now
          (documentPosition decoder.protocol clock.now device time attributes) after
          (some (spot.latitude, spot.longitude)) (spot.putInto _) after := .spot
      exact .document json known named looked inside extra (by rw [said]; exact placed)
    | none =>
      obtain ⟨filled, reached, fill, ran⟩ := Action.run_bind_ok ran
      obtain ⟨attributes, extra, done⟩ := run_orReject_bind_ok ran
      cases done
      have placed : Placed services device clock.now
          (documentPosition decoder.protocol clock.now device time attributes)
          middle none _ after :=
        (fallBack_placed fill).setAttributes (.object attributes)
      exact .document json known named looked inside extra (by rw [said]; exact placed)

/-- Reading a document needs no service. -/
theorem document?_of_run {request : Http.Request} {body : List UInt8} {document : Json.Members}
    (kept : request.body? = some body)
    (ran : (readDocument request.depth body : Action (Failure ε) σ Json.Members).run state =
      (.ok document, after)) :
    document? request = some document ∧ after = state := by
  rw [document?, kept]
  unfold readDocument at ran
  split at ran
  · cases ran
  · rename_i text read
    split at ran
    · rename_i members parsed
      cases ran
      simp [read, parsed, Except.toOption]
    · cases ran
    · cases ran
    · cases ran

/-- A report that has a position was accepted. -/
theorem decode_acceptance {request : Http.Request} {response : Http.Response}
    (ran : (decode decoder clock services request).run state =
      (.ok ⟨some position, response⟩, after)) :
    Acceptance services decoder clock request state position after := by
  unfold decode at ran
  split at ran
  · rename_i json
    unfold decodeJson at ran
    split at ran
    · cases ran
    · rename_i body kept
      obtain ⟨document, middle, read, decoded⟩ := Action.run_bind_ok ran
      obtain ⟨known, rfl⟩ := document?_of_run kept read
      exact decodeDocument_acceptance json known decoded
  · rename_i plain
    unfold decodeQuery at ran
    split at ran
    · cases ran
    · rename_i fields read
      exact decodeFields_acceptance (Bool.eq_false_iff.mpr plain)
        (parameters?_of_requestFields read) ran

/-! ## What accepted reports have in common -/

/-- What a position of a device is before it gets its place: it has its times, and tells where it is
    by its radio observations at most. -/
structure Unplaced (device : Int) (base : Position) : Prop where
  deviceId : base.deviceId = .int device
  outdated : base.outdated = .bool false
  deviceTime : ∃ time, base.deviceTime = some time
  fixTime : ∃ time, base.fixTime = some time
  latitude : base.latitude = .null
  longitude : base.longitude = .null
  network : ∀ network, base.network = some network → network.hasEntries = true

theorem Draft.unplaced (draft : Draft) (protocol : Json) (now : Moment) :
    Unplaced draft.device (draft.toPosition protocol now) where
  deviceId := rfl
  outdated := rfl
  deviceTime := ⟨_, rfl⟩
  fixTime := ⟨_, rfl⟩
  latitude := rfl
  longitude := rfl
  network network seen := by
    have seen : draft.network? = some network := seen
    unfold Draft.network? at seen
    split at seen
    · cases seen
      assumption
    · cases seen

theorem unplaced_documentPosition {protocol : Json} {now time : Moment} {device : Int}
    {attributes : Json.Members} :
    Unplaced device (documentPosition protocol now device time attributes) :=
  ⟨rfl, rfl, ⟨_, rfl⟩, ⟨_, rfl⟩, rfl, rfl, nofun⟩

section Follows

variable {step : σ → σ → Prop} (follow : services.Follow step)

include follow

theorem Handling.reaches {remote : Option String} {draft : Draft} {entry : Entry}
    {next : Option Draft}
    (handling : Handling services decoder remote draft state entry next after) :
    ReflTransGen step state after := by
  cases handling with
  | found looked => exact (follow.findDevice _ _ _).reaches looked
  | unknown looked => exact (follow.findDevice _ _ _).reaches looked
  | registered named kept => exact (follow.registerToken _ _).reaches kept
  | skipped unnamed => exact .refl
  | said => exact .refl

theorem Walk.reaches {zone : Calendar.Zone} {remote : Option String} {fields : List Http.Field}
    {draft last : Draft} (walk : Walk services decoder zone remote state draft fields last after) :
    ReflTransGen step state after := by
  induction walk with
  | done => exact .refl
  | step read handling walk ih => exact (handling.reaches follow).trans ih

/-- The position of an accepted report is one of its device that gets its place from the coordinates
    that the request carries. -/
theorem Acceptance.placed {request : Http.Request}
    (accepted : Acceptance services decoder clock request state position after) :
    ∃ device time base middle located, ReflTransGen step state middle ∧ Unplaced device base ∧
      Placed services device time base middle (carriedCoordinates? request) position located := by
  cases accepted with
  | @parameters fields draft position payloads middle located after plain known walk somebody placed
      taken =>
    refine ⟨draft.device, draft.time.getD clock.now, draft.toPosition decoder.protocol clock.now,
      middle, located, walk.reaches follow, draft.unplaced _ _, ?_⟩
    rw [walk.coordinates.1, walk.coordinates.2] at placed
    rw [carriedCoordinates?, if_neg (by simp [plain]), known]
    exact placed
  | @document document location identifier device time attributes position middle after json known
      named looked inside extra placed =>
    refine ⟨device, clock.now,
      documentPosition decoder.protocol clock.now device time attributes, middle, after,
      (follow.findDevice _ _ _).reaches looked, unplaced_documentPosition, ?_⟩
    rw [carriedCoordinates?, if_pos json, known]
    exact placed

end Follows

end Telematics.Report
