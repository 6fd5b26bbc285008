import Telematics.Proofs.Gateway.Published
import Telematics.Proofs.Json.Rendering
import Telematics.Proofs.Report.Finite
import Telematics.Proofs.Report.Flat
import Telematics.Proofs.Report.Reading
import Telematics.Proofs.Stream.Hub

/-!
What listeners read. A listener is sent a position as a text. Where every number of the position is
finite, this text is a document, which is read back as the device and the whole position. A position
of parameters may have other numbers, though, which documents have no numerals for; then the text
that is sent is no document at all.

* `legible_positionFrame`: a reported position keeps the limits of the reader.
* `isStrict_positionFrame_iff`: its frame is strict if and only if its numbers are finite.
* `frame_readable_iff`: what is sent for a report is read back if and only if the numbers of its
  position are finite.
-/

namespace Telematics

open Number (IsShort)
open Telematics.Stream (positionFrame positionMessage)

/-! ## Positions as they are written -/

namespace Position

variable {position : Position} {name : Letters} {device : Int}

theorem isScalar_measureJson (measure : Option Binary64) : (measureJson measure).IsScalar := by
  cases measure <;> exact trivial

theorem isScalar_timeJson (time : Option Calendar.Moment) : (timeJson time).IsScalar := by
  cases time <;> exact trivial

/-- Radio observations are nested three levels deep. -/
theorem legible_networkJson {network : Option Network}
    (flat : ∀ observed, network = some observed → observed.IsFlat) (depth : Nat) :
    (networkJson network).Legible (depth + 3) := by
  have listed : ∀ entries : List Json, (∀ entry ∈ entries, entry.IsFlat) →
      (Network.listJson entries).Legible (depth + 2) := by
    intro entries each
    cases entries with
    | nil => exact trivial
    | cons entry rest =>
      exact ⟨Nat.succ_pos _, Json.itemsLegible_of_forall fun item present =>
        (each item present).legible depth⟩
  cases network with
  | none => exact trivial
  | some observed =>
    obtain ⟨towers, points⟩ := flat observed rfl
    have keys : (["cell_towers", "wifi_access_points"] : List Letters).Nodup := by decide
    refine ⟨Nat.succ_pos _, keys, Json.membersLegible_of_forall ?_⟩
    simp only [Network.toMembers, List.forall_mem_cons]
    refine ⟨listed _ ?_, listed _ ?_, List.forall_mem_nil _⟩
    · intro entry present
      obtain ⟨tower, among, rfl⟩ := List.mem_map.mp present
      exact towers tower among
    · intro entry present
      obtain ⟨point, among, rfl⟩ := List.mem_map.mp present
      exact points point among

/-- A reported position keeps the limits of the reader, and its frame is nested five levels deep. -/
theorem legible_positionFrame (typed : position.IsTyped) (flat : position.IsFlat)
    (named : position.protocol = .text name) (own : position.deviceId = .int device)
    (short : IsShort device) (depth : Nat) : (positionFrame position).Legible (depth + 5) := by
  have id : position.deviceId.IsScalar := by rw [own]; exact short
  have protocol : position.protocol.IsScalar := by rw [named]; exact trivial
  have measured : ∀ {value : Json}, (∃ measure, value = measureJson measure) → value.IsScalar := by
    rintro _ ⟨measure, rfl⟩
    exact isScalar_measureJson measure
  have flagged : ∀ {value : Json}, (∃ flag, value = .bool flag) → value.IsScalar := by
    rintro _ ⟨flag, rfl⟩
    exact trivial
  have scalar : ∀ {value : Json} {depth : Nat}, value.IsScalar → value.Legible depth :=
    fun scalar => scalar.legible _
  have inner : position.toJson.Legible (depth + 4) := by
    have keys : (position.toMembers.map Prod.fst).Nodup := by
      show (["protocol", "device_id", "server_time", "device_time", "fix_time", "outdated", "valid",
        "latitude", "longitude", "altitude", "speed", "course", "accuracy", "network",
        "attributes"] : List Letters).Nodup
      decide
    refine ⟨Nat.succ_pos _, keys, Json.membersLegible_of_forall ?_⟩
    simp only [toMembers, List.forall_mem_cons]
    exact ⟨scalar protocol, scalar id, scalar (isScalar_timeJson _), scalar (isScalar_timeJson _),
      scalar (isScalar_timeJson _), scalar (flagged typed.outdated), scalar (flagged typed.valid),
      scalar (measured typed.latitude), scalar (measured typed.longitude),
      scalar (measured typed.altitude), scalar (measured typed.speed),
      scalar (measured typed.course), scalar (measured typed.accuracy),
      legible_networkJson flat.network depth, flat.attributes.legible (depth + 2),
      List.forall_mem_nil _⟩
  have keys : (["type", "device_id", "position"] : List Letters).Nodup := by decide
  refine ⟨Nat.succ_pos _, keys, Json.membersLegible_of_forall ?_⟩
  simp only [List.forall_mem_cons]
  exact ⟨trivial, scalar id, inner, List.forall_mem_nil _⟩

theorem isStrict_measure_iff {value : Json} (measured : ∃ measure, value = measureJson measure) :
    value.isStrict = true ↔ value.IsFiniteOrNull := by
  obtain ⟨measure, rfl⟩ := measured
  cases measure with
  | none => exact iff_of_true rfl (.inl rfl)
  | some number =>
    constructor
    · exact fun finite => .inr ⟨number, rfl, finite⟩
    · rintro (⟨⟨⟩⟩ | ⟨_, ⟨⟩, finite⟩)
      exact finite

/-- The frame of a reported position is strict if and only if the numbers of the position are
    finite. -/
theorem isStrict_positionFrame_iff (typed : position.IsTyped)
    (named : position.protocol = .text name) :
    (positionFrame position).isStrict = true ↔ position.IsFinite := by
  obtain ⟨device, own⟩ := typed.device
  obtain ⟨outdated, old⟩ := typed.outdated
  obtain ⟨valid, good⟩ := typed.valid
  have text : ∀ value, (Json.text value).isStrict = true := fun _ => rfl
  have time : ∀ moment, (timeJson moment).isStrict = true := fun moment => by cases moment <;> rfl
  simp only [positionFrame, toJson, toMembers, Json.isStrict, Json.membersStrict, own, named, old,
    good, time, typed.network, Bool.true_and, Bool.and_true, Bool.and_eq_true,
    isStrict_measure_iff typed.latitude, isStrict_measure_iff typed.longitude,
    isStrict_measure_iff typed.altitude, isStrict_measure_iff typed.speed,
    isStrict_measure_iff typed.course, isStrict_measure_iff typed.accuracy]
  constructor
  · rintro ⟨latitude, longitude, altitude, speed, course, accuracy, attributes⟩
    exact ⟨latitude, longitude, altitude, speed, course, accuracy, attributes⟩
  · rintro ⟨latitude, longitude, altitude, speed, course, accuracy, attributes⟩
    exact ⟨latitude, longitude, altitude, speed, course, accuracy, attributes⟩

end Position

/-! ## Reports -/

namespace Gateway

variable {gateway : Gateway}

/-- Positions are filed under a protocol whose name is a text. -/
def NamesProtocol (gateway : Gateway) : Prop :=
  ∀ decoder, gateway.makeDecoder = .ok decoder → ∃ name, decoder.protocol = .text name

theorem eq_of_mem_publication {position : Position} {group : String} {message : Stream.Message}
    (sent : (group, message) ∈ gateway.publication position) :
    message = positionMessage position := by
  unfold publication at sent
  split at sent
  · rcases List.mem_cons.mp ((Layer.taken_isPrefix _ _ _).subset sent) with same | sent
    · exact congrArg Prod.snd same
    · exact congrArg Prod.snd (List.mem_singleton.mp sent)
  · cases sent

/-- A message of a report shows the position that was decoded and put into the store. -/
theorem exists_position_of_sent {request : Http.Request} {group : String}
    {message : Stream.Message} (sent : (group, message) ∈ (gateway.report request).outbox) :
    ∃ position response before after stored store,
      Decodes gateway request (.ok ⟨some position, response⟩) before after ∧
      after.store.addPosition position = .ok (stored, store) ∧
      message = positionMessage position := by
  have reporting := report_reporting gateway request
  generalize gateway.report request = outcome at reporting sent
  cases reporting with
  | unmade _ => cases sent
  | undecoded _ _ => cases sent
  | refused _ _ _ =>
    rw [outbox_complete] at sent
    cases sent
  | unstorable _ _ _ _ _ => cases sent
  | @stored position device response before middle after stored store _ decodes _ _ added =>
    obtain ⟨decoder, _, _, ran⟩ := id decodes
    have typed := (Report.decode_acceptance ran).isTyped services_givesMeasured
    rw [outbox_complete, (Store.handedIn_of_isProper typed.isProper added).1] at sent
    exact ⟨position, response, before, after, stored, store, decodes, added,
      eq_of_mem_publication sent⟩

/-- What a listener is sent for a report is read back as the device and the position, if and only if
    all numbers of the position are finite. Otherwise it is no document: the reader finds the name
    of a number in it. The reader has to read five levels deep. -/
theorem frame_readable_iff (named : gateway.NamesProtocol) {raw : Http.RawRequest}
    {request : Http.Request} (reports : gateway.report? raw = some request) {group : String}
    {message : Stream.Message} (sent : (group, message) ∈ (gateway.step (.request raw)).outbox) :
    ∃ position response before after text,
      Decodes gateway request (.ok ⟨some position, response⟩) before after ∧
      message = positionMessage position ∧
      Stream.react message = { events := [.sent text] } ∧
      ∀ depth, 5 ≤ depth →
        (Json.parse false depth text.toList = .ok (positionFrame position) ↔ position.IsFinite) ∧
        (¬ position.IsFinite →
          ∃ constant, Json.parse false depth text.toList = .error (.constant constant)) := by
  have same : (gateway.step (.request raw)).outbox = (gateway.report request).outbox := by
    rw [← serve_of_report reports]
    rfl
  rw [same] at sent
  obtain ⟨position, response, before, after, stored, store, decodes, added, rfl⟩ :=
    exists_position_of_sent sent
  obtain ⟨decoder, made, _, ran⟩ := id decodes
  have accepted := Report.decode_acceptance ran
  have typed := accepted.isTyped services_givesMeasured
  obtain ⟨name, protocol⟩ := named decoder made
  have filed : position.protocol = .text name := accepted.protocol.trans protocol
  obtain ⟨-, device, own, kept⟩ := Store.handedIn_of_isProper typed.isProper added
  have short : IsShort device := by
    obtain ⟨-, least, most⟩ := Column.bounded_eq_ok_iff.mp kept
    have size : device.natAbs < 10 ^ 19 := by
      unfold Column.integerLimit at least most
      omega
    exact Number.isShort_of_lt size (by decide)
  have strict := Position.isStrict_positionFrame_iff typed filed
  refine ⟨position, response, before, after, (positionFrame position).render, decodes, rfl, rfl,
    fun depth room => ?_⟩
  obtain ⟨depth, rfl⟩ := Nat.exists_eq_add_of_le' room
  have legible := Position.legible_positionFrame typed accepted.isFlat filed own short depth
  exact ⟨(Json.parse_render_iff legible).trans strict, fun loose =>
    Json.parse_render_of_not_strict legible (Bool.eq_false_iff.mpr (mt strict.mp loose))⟩

/-- What listeners are sent for a report with two coordinates is read back if its numbers are
    finite. -/
theorem placed_frame_readable :
    openGateway.NamesProtocol ∧ ∃ request group message,
      openGateway.report? placedReport = some request ∧
      (group, message) ∈ (openGateway.step (.request placedReport)).outbox ∧
      ∃ position response before after text,
        Decodes openGateway request (.ok ⟨some position, response⟩) before after ∧
        message = positionMessage position ∧
        Stream.react message = { events := [.sent text] } ∧
        ∀ depth, 5 ≤ depth →
          (Json.parse false depth text.toList = .ok (positionFrame position) ↔ position.IsFinite) ∧
          (¬ position.IsFinite →
            ∃ constant, Json.parse false depth text.toList = .error (.constant constant)) := by
  have named : openGateway.NamesProtocol := by
    intro decoder made
    cases made
    exact ⟨_, rfl⟩
  obtain ⟨request, reports⟩ : ∃ request, openGateway.report? placedReport = some request := ⟨_, rfl⟩
  have some_ : (openGateway.step (.request placedReport)).outbox ≠ [] := by decide +kernel
  obtain ⟨⟨group, message⟩, sent⟩ := List.exists_mem_of_ne_nil _ some_
  exact ⟨named, request, group, message, reports, sent, frame_readable_iff named reports sent⟩

/-- A report with an altitude that is not-a-number is stored, and both groups are sent a text that
    is no document. -/
theorem nan_altitude_unreadable :
    openGateway.NamesProtocol ∧
      ((openGateway.run [reportStep "id=a&lat=1&lon=2&altitude=nan&timestamp=1700000000"]
        ).store.locations.rows.map (·.id)) = [1] ∧
      ((openGateway.step
        (reportStep "id=a&lat=1&lon=2&altitude=nan&timestamp=1700000000")).outbox.map
          fun (group, message) => (group, Json.parse false 5 (Stream.frame message).toList)) =
        [("device_1", .error (.constant "NaN")), ("positions", .error (.constant "NaN"))] := by
  refine ⟨?_, by decide +kernel, ?_⟩
  · intro decoder made
    cases made
    exact ⟨_, rfl⟩
  · simp only [Stream.frame, Json.render, String.toList_ofList]
    decide +kernel

end Gateway

end Telematics
