import Telematics.Proofs.Http.Written
import Telematics.Proofs.Json.Spelling
import Telematics.Proofs.Report.Schema
import Telematics.Proofs.Timestamp.Integer

/-!
The two wire formats. What a device has measured may be reported as flat parameters or in a
document, with the same numerals, and either way the same position comes out.

* `Position.Equals`: equality of positions, in which both zeros are equal.
* `Sample`: what is reported. `Sample.IsQuery`, `Sample.IsDocument`: the requests that report it.
* `Timestamp.read_eq_readIso`: a timestamp with a letter T is read the same in both formats.
* `run_handleAll_identified`: parameters are handled with the same outcome in any order.
* `run_decode_of_isQuery`, `run_decode_of_isDocument`: the position that comes out of a request.
* `decode_formats_agree`: positions from both formats are equal.
-/

namespace Telematics

open Calendar (Clock Moment)

/-! ## Equal positions -/

/-- Two measures are equal: they are equal numbers. -/
def Json.EqualMeasures (one other : Json) : Prop :=
  ∃ number same, one = .float number ∧ other = .float same ∧ Binary64.Equals number same

/-- Two positions with all six measures are equal in every field. -/
structure Position.Equals (one other : Position) : Prop where
  latitude : one.latitude.EqualMeasures other.latitude
  longitude : one.longitude.EqualMeasures other.longitude
  altitude : one.altitude.EqualMeasures other.altitude
  speed : one.speed.EqualMeasures other.speed
  course : one.course.EqualMeasures other.course
  accuracy : one.accuracy.EqualMeasures other.accuracy
  others : { one with
    latitude := other.latitude
    longitude := other.longitude
    altitude := other.altitude
    speed := other.speed
    course := other.course
    accuracy := other.accuracy } = other

/-! ## Timestamps -/

/-- A timestamp with a letter T is read as ISO 8601. -/
theorem Timestamp.read_eq_readIso {text : String} (letter : 'T' ∈ text.toList)
    (zone : Calendar.Zone) : Timestamp.read zone text = readIso zone text :=
  readBy_eq_readIsoBy letter zone.rule

namespace Report

/-! ## Samples -/

/-- What a device has measured, with the numerals that go into its report. -/
structure Sample where
  identifier : String
  timestamp : String
  latitude : Json.Numeral
  longitude : Json.Numeral
  speed : Json.Numeral
  heading : Json.Numeral
  altitude : Json.Numeral
  accuracy : Json.Numeral

namespace Sample

variable (sample : Sample)

/-- The parameters of a report, but for the identifier. -/
def parameters : List Http.Field := [
  ("timestamp", sample.timestamp), ("lat", sample.latitude.text), ("lon", sample.longitude.text),
  ("speed", sample.speed.text), ("heading", sample.heading.text),
  ("altitude", sample.altitude.text), ("accuracy", sample.accuracy.text)]

/-- All parameters of a report. -/
def fields : List Http.Field := ("id", sample.identifier) :: sample.parameters

/-- The numerals, under the keys of a place in a document. -/
def measures : List (String × Json.Numeral) := [
  ("latitude", sample.latitude), ("longitude", sample.longitude), ("speed", sample.speed),
  ("heading", sample.heading), ("altitude", sample.altitude), ("accuracy", sample.accuracy)]

/-- The place of the sample. -/
def spot : Spot where
  latitude := sample.latitude.value
  longitude := sample.longitude.value
  altitude := some sample.altitude.value
  speed := some (SpeedUnit.metresPerSecond.toKnots sample.speed.value)
  course := some sample.heading.value
  accuracy := some sample.accuracy.value

/-- The request reports the sample as flat parameters, in any order. -/
structure IsQuery (request : Http.Request) : Prop where
  plain : isJson request = false
  charset : request.charset = .utf8
  written : ∃ fields text, fields.Perm sample.fields ∧ Http.FormText fields text ∧
    request.query = Text.utf8Bytes text

/-- The text is a document that reports the sample. -/
inductive DocumentText : List Char → Prop where
  | document {identifier timestamp coords location report front back : List Char} :
      Json.QuotedText sample.identifier identifier → Json.QuotedText sample.timestamp timestamp →
      Json.ObjectText (sample.measures.map fun measure => (measure.1, measure.2.chars)) coords →
      Json.ObjectText [("timestamp", timestamp), ("coords", coords)] location →
      Json.ObjectText [("device_id", identifier), ("location", location)] report →
      Json.AreGaps front → Json.AreGaps back → DocumentText (front ++ (report ++ back))

/-- The request reports the sample in a document that is not too long, and that is not nested too
    deeply. -/
structure IsDocument (request : Http.Request) : Prop where
  json : isJson request = true
  short : request.body.length ≤ Http.bodyLimit
  room : 3 ≤ request.depth
  written : ∃ text, sample.DocumentText text ∧ request.body = Text.utf8Bytes text

/-- The sample can be reported in both formats. -/
structure IsReportable (zone : Calendar.Zone) (time : Moment) : Prop where
  letter : 'T' ∈ sample.timestamp.toList
  timed : Timestamp.readIso zone sample.timestamp = .ok time
  finite : ∀ measure ∈ sample.measures, measure.2.value.isFinite = true
  speed : sample.speed.value.isNonnegative = true
  heading : sample.heading.value.isNonnegative = true

end Sample

variable {ε σ : Type} {services : Services ε σ} {decoder : Decoder}

/-! ## Parameters in any order -/

section Parameters

variable {zone : Calendar.Zone} {remote : Option String} {said : Http.Field → Detail}
  {fields : List Http.Field}

/-- A draft with what some parameters say. -/
def Draft.addAll (said : Http.Field → Detail) (draft : Draft) (fields : List Http.Field) : Draft :=
  (fields.map said).foldl Draft.add draft

/-- Parameters that say details call no service. -/
theorem walk_of_details
    (reads : ∀ field ∈ fields, readEntry decoder zone field.1 field.2 = .ok (.detail (said field)))
    (state : σ) (draft : Draft) :
    Walk services decoder zone remote state draft fields (draft.addAll said fields) state := by
  induction fields generalizing draft with
  | nil => exact .done
  | cons field rest ih =>
    obtain ⟨first, others⟩ := List.forall_mem_cons.mp reads
    exact .step first .said (ih others _)

/-- Details do not depend on the device. -/
theorem addAll_device (fields : List Http.Field) (draft : Draft) (device : Int) :
    Draft.addAll said { draft with device } fields =
      { draft.addAll said fields with device } := by
  induction fields generalizing draft with
  | nil => rfl
  | cons field rest ih =>
    have same : Draft.add { draft with device } (said field) =
        { draft.add (said field) with device } := by
      cases said field <;> rfl
    show Draft.addAll said (Draft.add { draft with device } (said field)) rest = _
    rw [same]
    exact ih _

/-- Parameters of a known device are handled with the same outcome in any order, if the details do
    not depend on the order. -/
theorem run_handleAll_identified {others : List Http.Field} {identifier : String}
    (order : fields.Perm (("id", identifier) :: others))
    (reads : ∀ field ∈ others, readEntry decoder zone field.1 field.2 = .ok (.detail (said field)))
    (commute : ∀ one ∈ others.map said, ∀ other ∈ others.map said, ∀ draft : Draft,
      (draft.add one).add other = (draft.add other).add one)
    {state after : σ} {device : Int}
    (looked : (services.findDevice decoder.protocol remote [identifier]).run state =
      (.ok (some device), after)) :
    (handleAll decoder zone services remote {} fields).run state =
      (.ok (some { Draft.addAll said {} others with device }), after) := by
  obtain ⟨front, back, rfl⟩ := List.append_of_mem (order.mem_iff.mpr List.mem_cons_self)
  have rest : (front ++ back).Perm others := (List.perm_middle.symm.trans order).cons_inv
  have before :
      Walk services decoder zone remote state {} front (Draft.addAll said {} front) state :=
    walk_of_details (fun field among =>
      reads field (rest.subset (List.mem_append_left back among))) _ _
  have behind : Walk services decoder zone remote after { Draft.addAll said {} front with device }
      back _ after :=
    walk_of_details (fun field among =>
      reads field (rest.subset (List.mem_append_right front among))) _ _
  have identified : readEntry decoder zone "id" identifier = .ok (.identifier identifier) := rfl
  have ordered : (Draft.addAll said {} front).addAll said back = Draft.addAll said {} others := by
    rw [Draft.addAll, Draft.addAll, Draft.addAll, ← List.foldl_append, ← List.map_append]
    have mapped := rest.map said
    exact mapped.foldl_eq' (fun one first other second draft =>
      commute one (mapped.subset first) other (mapped.subset second) draft) {}
  rw [before.run_append, run_handleAll_cons identified, (Handling.found looked).run]
  have last := behind.run_append []
  rw [List.append_nil, addAll_device, ordered] at last
  exact last

end Parameters

/-- What a draft of a known device at a known place gives, if its commands can be taken and sent. -/
theorem run_decodeFields_of_draft {clock : Clock} {remote : Option String}
    {fields : List Http.Field} {state after : σ} {draft : Draft} {latitude longitude : Binary64}
    (handled : (handleAll decoder clock.zone services remote {} fields).run state =
      (.ok (some draft), after))
    (north : draft.latitude = some latitude) (east : draft.longitude = some longitude)
    (somebody : draft.device ≠ 0)
    (commands : (commandResponse services draft.device).FailsOnly fun _ => False) :
    ∃ response, ((decodeFields decoder clock services remote fields).run state).1 =
      .ok ⟨some { draft.toPosition decoder.protocol clock.now with
        latitude := .float latitude, longitude := .float longitude }, response⟩ := by
  have located : (draft.locate decoder.protocol services clock.now).run after =
      (.ok { draft.toPosition decoder.protocol clock.now with
        latitude := .float latitude, longitude := .float longitude }, after) := by
    simp only [Draft.locate, north, east]
    rfl
  rcases answered : (commandResponse services draft.device).run after with
    ⟨failure | response, last⟩
  · exact (commands _ _ _ answered).elim
  refine ⟨response, ?_⟩
  rw [decodeFields, Action.run_bind, handled]
  dsimp only
  rw [Action.run_bind, located]
  dsimp only
  rw [if_neg somebody, Action.run_bind, answered]
  rfl

/-! ## Samples as parameters -/

theorem readNumber_text (n : Json.Numeral) : readNumber n.text = .ok n.value := by
  rw [readNumber, Binary64.read, n.read?_text]
  rfl

section Sample

variable {sample : Sample} {clock : Clock} {time : Moment}

/-- What a parameter of the sample says. -/
def Sample.detail (sample : Sample) (time : Moment) (field : Http.Field) : Detail :=
  match field.1 with
  | "timestamp" => .time time
  | "lat" => .latitude sample.latitude.value
  | "lon" => .longitude sample.longitude.value
  | "speed" => .speed (SpeedUnit.metresPerSecond.toKnots sample.speed.value)
  | "heading" => .course sample.heading.value
  | "altitude" => .altitude sample.altitude.value
  | _ => .accuracy sample.accuracy.value

/-- The parameters of the sample say what has been measured. -/
theorem readEntry_of_mem_parameters (metres : decoder.speedUnit = .metresPerSecond)
    (good : sample.IsReportable clock.zone time) :
    ∀ field ∈ sample.parameters, readEntry decoder clock.zone field.1 field.2 =
      .ok (.detail (sample.detail time field)) := by
  have number : ∀ {n : Json.Numeral} (next : Binary64 → Detail),
      (do return .detail (next (← readNumber n.text)) : Except Cause Entry) =
        .ok (.detail (next n.value)) := by
    intro n next
    rw [readNumber_text]
    rfl
  have timed : (do return .detail (.time (← (Timestamp.read clock.zone sample.timestamp).mapError
      .timestamp)) : Except Cause Entry) = .ok (.detail (.time time)) := by
    rw [Timestamp.read_eq_readIso good.letter, good.timed]
    rfl
  have speed : (do return .detail (.speed (decoder.speedUnit.toKnots
      (← readNumber sample.speed.text))) : Except Cause Entry) =
        .ok (.detail (.speed (SpeedUnit.metresPerSecond.toKnots sample.speed.value))) := by
    rw [metres]
    exact number fun value => .speed (SpeedUnit.metresPerSecond.toKnots value)
  simp only [Sample.parameters, List.forall_mem_cons]
  exact ⟨timed, number .latitude, number .longitude, speed, number .course, number .altitude,
    number .accuracy, nofun⟩

/-- The details of the sample do not depend on the order. -/
theorem add_detail_comm : ∀ one ∈ sample.parameters.map (sample.detail time),
    ∀ other ∈ sample.parameters.map (sample.detail time), ∀ draft : Draft,
      (draft.add one).add other = (draft.add other).add one := by
  have listed : sample.parameters.map (sample.detail time) = [.time time,
      .latitude sample.latitude.value, .longitude sample.longitude.value,
      .speed (SpeedUnit.metresPerSecond.toKnots sample.speed.value), .course sample.heading.value,
      .altitude sample.altitude.value, .accuracy sample.accuracy.value] := rfl
  simp only [listed, List.mem_cons, List.not_mem_nil, or_false]
  rintro one first other second draft
  rcases first with rfl | rfl | rfl | rfl | rfl | rfl | rfl <;>
    rcases second with rfl | rfl | rfl | rfl | rfl | rfl | rfl <;> rfl

theorem nodup_fields (sample : Sample) : (sample.fields.map Prod.fst).Nodup := by
  show ["id", "timestamp", "lat", "lon", "speed", "heading", "altitude", "accuracy"].Nodup
  decide

/-- The fields of a request that reports the sample. -/
theorem Sample.IsQuery.requestFields {request : Http.Request} (query : sample.IsQuery request) :
    ∃ fields, fields.Perm sample.fields ∧
      (requestFields request : Except (Failure ε) _) = .ok fields ∧
      Http.grouped fields = fields := by
  obtain ⟨fields, text, order, written, same⟩ := query.written
  have few : fields.length ≤ Http.fieldLimit := by
    rw [order.length_eq]
    show 8 ≤ Http.fieldLimit
    decide
  have read : request.fields = .ok fields := by
    rw [Http.Request.fields, query.charset, same]
    exact written.readFormBytes few
  have filled : fields ≠ [] := by
    rintro rfl
    exact absurd order.symm.eq_nil (List.cons_ne_nil _ _)
  exact ⟨fields, order, requestFields_of_query filled read,
    Http.grouped_of_nodup ((order.map Prod.fst).nodup_iff.mpr (nodup_fields sample))⟩

/-- A request that reports the sample of a known device as parameters gives its position. -/
theorem run_decode_of_isQuery (metres : decoder.speedUnit = .metresPerSecond)
    (good : sample.IsReportable clock.zone time) {request : Http.Request}
    (query : sample.IsQuery request) {state : σ} {device : Int} (somebody : device ≠ 0)
    (looked : ((services.findDevice decoder.protocol request.remote
      [sample.identifier]).run state).1 = .ok (some device))
    (commands : (commandResponse services device).FailsOnly fun _ => False) :
    ∃ response, ((decode decoder clock services request).run state).1 =
      .ok ⟨some (sample.spot.putInto
        (documentPosition decoder.protocol clock.now device time [])), response⟩ := by
  rcases found : (services.findDevice decoder.protocol request.remote [sample.identifier]).run state
    with ⟨result, after⟩
  rw [found] at looked
  cases looked
  obtain ⟨fields, order, read, alone⟩ := query.requestFields (ε := ε)
  have handled := run_handleAll_identified order (readEntry_of_mem_parameters metres good)
    add_detail_comm found
  obtain ⟨response, decoded⟩ := run_decodeFields_of_draft handled rfl rfl somebody commands
  refine ⟨response, ?_⟩
  have plain : ¬ isJson request = true := by simp [query.plain]
  rw [decode, if_neg plain, decodeQuery, read]
  dsimp only
  rw [alone, decoded]
  rfl

/-! ## Samples in documents -/

/-- A finite numeral in a document is equal to its value. -/
theorem exists_double {n : Json.Numeral} (finite : n.value.isFinite = true) :
    ∃ double, n.json.double? = some double ∧ double.isFinite = true ∧
      Binary64.Equals n.value double := by
  unfold Json.Numeral.json
  split
  · rename_i integral
    have same := n.ofInt_integer integral
    exact ⟨.ofInt n.integer, rfl, same.isFinite.trans finite, same.symm⟩
  · exact ⟨n.value, rfl, finite, .refl _⟩

/-- A member that is a finite numeral is read, whether it has to be there or not. -/
theorem read_of_get? {members : Json.Members} {key : String} {n : Json.Numeral}
    (found : members.get? key = some n.json) (finite : n.value.isFinite = true) :
    ∃ double, requiredNumber members key = .ok double ∧
      optionalNumber members key = .ok (some double) ∧ Binary64.Equals n.value double := by
  obtain ⟨double, number, bounded, same⟩ := exists_double finite
  exact ⟨double, requiredNumber_eq_ok_iff.mpr ⟨_, found, number, bounded⟩,
    optionalNumber_eq_ok_iff.mpr (.inr ⟨_, double, rfl, found, number, bounded⟩), same⟩

/-- The place of the sample is read with measures that are equal to those of the sample. -/
theorem exists_readSpot (good : sample.IsReportable clock.zone time) {coords : Json.Members}
    (given : ∀ measure ∈ sample.measures, coords.get? measure.1 = some measure.2.json) :
    ∃ spot, readSpot coords = .ok spot ∧
      ∀ base, (sample.spot.putInto base).Equals (spot.putInto base) := by
  have read : ∀ measure ∈ sample.measures, ∃ double,
      requiredNumber coords measure.1 = .ok double ∧
        optionalNumber coords measure.1 = .ok (some double) ∧
        Binary64.Equals measure.2.value double :=
    fun measure among => read_of_get? (given measure among) (good.finite measure among)
  simp only [Sample.measures, List.forall_mem_cons] at read
  obtain ⟨⟨latitude, north, -, one⟩, ⟨longitude, east, -, two⟩, ⟨speed, -, fast, three⟩,
    ⟨heading, -, ahead, four⟩, ⟨altitude, -, high, five⟩, ⟨accuracy, -, near, six⟩, -⟩ := read
  have speedCounts : notNegative (some speed) = some speed :=
    (Option.filter_some ..).trans (if_pos (three.isNonnegative.symm.trans good.speed))
  have headingCounts : notNegative (some heading) = some heading :=
    (Option.filter_some ..).trans (if_pos (four.isNonnegative.symm.trans good.heading))
  refine ⟨_, readSpot_eq_ok_iff.mpr ⟨latitude, longitude, some speed, some heading, some accuracy,
    some altitude, north, east, fast, ahead, ?_, high, rfl⟩, fun base => ?_⟩
  · rw [speedCounts]
    exact near
  · rw [speedCounts, headingCounts]
    exact {
      latitude := ⟨_, _, rfl, rfl, one⟩
      longitude := ⟨_, _, rfl, rfl, two⟩
      altitude := ⟨_, _, rfl, rfl, five⟩
      speed := ⟨_, _, rfl, rfl, three.toKnots _⟩
      course := ⟨_, _, rfl, rfl, four⟩
      accuracy := ⟨_, _, rfl, rfl, six⟩
      others := rfl }

/-- A location without any other members has no attributes. -/
theorem readExtras_of_missing {location : Json.Members}
    (missing : ∀ key, key ≠ "timestamp" → key ≠ "coords" → location.get? key = none) :
    readExtras location = .ok [] := by
  have noAlarm : readAlarm location = .ok none := by
    rw [readAlarm, missing "alarm" (by decide) (by decide),
      missing "extras" (by decide) (by decide)]
  rw [readExtras, noAlarm]
  simp only [ifPresent, missing "event" (by decide) (by decide),
    missing "is_moving" (by decide) (by decide), missing "odometer" (by decide) (by decide),
    missing "mock" (by decide) (by decide), missing "activity" (by decide) (by decide),
    missing "battery" (by decide) (by decide)]
  rfl

/-- What stands in a document under the keys of a place. -/
def Sample.placeMeaning (sample : Sample) : String → Json
  | "latitude" => sample.latitude.json
  | "longitude" => sample.longitude.json
  | "speed" => sample.speed.json
  | "heading" => sample.heading.json
  | "altitude" => sample.altitude.json
  | "accuracy" => sample.accuracy.json
  | _ => .null

/-- A document that reports the sample is read, and everything is found at its place. -/
theorem Sample.DocumentText.parse {text : List Char} (written : sample.DocumentText text)
    (finite : ∀ measure ∈ sample.measures, measure.2.value.isFinite = true) {depth : Nat}
    (room : 3 ≤ depth) :
    ∃ document location coords : Json.Members,
      Json.parse false depth text = .ok (.object document) ∧
      document.get? "device_id" = some (.text sample.identifier) ∧
      document.get? "location" = some (.object location) ∧
      location.get? "timestamp" = some (.text sample.timestamp) ∧
      location.get? "coords" = some (.object coords) ∧
      (∀ key, key ≠ "timestamp" → key ≠ "coords" → location.get? key = none) ∧
      ∀ measure ∈ sample.measures, coords.get? measure.1 = some measure.2.json := by
  obtain ⟨depth, rfl⟩ := Nat.exists_eq_add_of_le' room
  obtain ⟨identifier, timestamp, place, spot, report, gaps, moreGaps⟩ := written
  rename_i identifierText timestampText coordsText locationText reportText front back
  have measured : ∀ measure ∈ sample.measures, sample.placeMeaning measure.1 = measure.2.json := by
    simp only [Sample.measures, List.forall_mem_cons]
    exact ⟨rfl, rfl, rfl, rfl, rfl, rfl, nofun⟩
  have numerals : ∀ member ∈ sample.measures.map fun measure => (measure.1, measure.2.chars),
      Json.Stands depth member.2 (sample.placeMeaning member.1) := by
    intro member among
    obtain ⟨measure, listed, rfl⟩ := List.mem_map.mp among
    dsimp only
    rw [measured measure listed]
    exact Json.stands_chars (finite measure listed) _
  obtain ⟨coords, coordsStand, inCoords⟩ :=
    Json.stands_objectText sample.placeMeaning place numerals
  obtain ⟨location, locationStands, inLocation⟩ := Json.stands_objectText
    (fun key => if key = "timestamp" then .text sample.timestamp else .object coords) spot
    (List.forall_mem_cons.mpr ⟨Json.stands_quotedText timestamp _,
      List.forall_mem_singleton.mpr coordsStand⟩)
  obtain ⟨document, documentStands, inDocument⟩ := Json.stands_objectText
    (fun key => if key = "device_id" then .text sample.identifier else .object location)
    report (List.forall_mem_cons.mpr ⟨Json.stands_quotedText identifier _,
      List.forall_mem_singleton.mpr locationStands⟩)
  have unmarked : reportText.head? ≠ some '\uFEFF' := by
    obtain ⟨_, _, _, -, -, -, rfl⟩ := report
    exact fun same => absurd (Option.some.inj same) (by decide)
  refine ⟨document, location, coords, Json.parse_of_stands documentStands unmarked gaps moreGaps,
    inDocument "device_id", inDocument "location", inLocation "timestamp", inLocation "coords",
    fun key one two => ?_, fun measure among => ?_⟩
  · rw [inLocation key, if_neg]
    simp [one, two]
  · have listed : measure.1 ∈ (sample.measures.map fun measure =>
        (measure.1, measure.2.chars)).map Prod.fst :=
      List.mem_map.mpr ⟨_, List.mem_map.mpr ⟨measure, among, rfl⟩, rfl⟩
    rw [inCoords, if_pos listed, measured measure among]

/-- A request that reports the sample of a known device in a document gives a position that is equal
    to that of the sample. -/
theorem run_decode_of_isDocument (good : sample.IsReportable clock.zone time)
    {request : Http.Request} (reports : sample.IsDocument request) {state : σ} {device : Int}
    (looked : ((services.findDevice decoder.protocol request.remote
      [sample.identifier]).run state).1 = .ok (some device)) :
    ∃ position, ((decode decoder clock services request).run state).1 =
        .ok ⟨some position, .plain 200 ""⟩ ∧
      (sample.spot.putInto (documentPosition decoder.protocol clock.now device time [])).Equals
        position := by
  rcases found : (services.findDevice decoder.protocol request.remote [sample.identifier]).run state
    with ⟨result, after⟩
  rw [found] at looked
  cases looked
  obtain ⟨text, written, same⟩ := reports.written
  obtain ⟨document, location, coords, parsed, named, inside, told, placed, missing, given⟩ :=
    written.parse good.finite reports.room
  have read : Text.readUtf8 request.body = .ok text := by rw [same, Text.readUtf8_utf8Bytes]
  obtain ⟨spot, spotRead, equal⟩ := exists_readSpot good given
  refine ⟨_, ?_, equal _⟩
  rw [run_decode_of_document? reports.json (document?_of_parse reports.short read parsed)
    ⟨_, named, .inl rfl⟩ found]
  exact congrArg Prod.fst (run_decodeKnown inside told good.timed placed spotRead
    (readExtras_of_missing missing) after)

end Sample

/-! ## Agreement -/

/-- A sample of a known device that is reported as parameters and in a document, with the same
    numerals and at the same time, gives equal positions, if the command that waits for the device
    can be taken and sent. -/
theorem decode_formats_agree {sample : Sample} {clock : Clock} {time : Moment}
    (metres : decoder.speedUnit = .metresPerSecond) (good : sample.IsReportable clock.zone time)
    {query document : Http.Request} (asQuery : sample.IsQuery query)
    (asDocument : sample.IsDocument document) {one two : σ} {device : Int} (somebody : device ≠ 0)
    (known : ((services.findDevice decoder.protocol query.remote
      [sample.identifier]).run one).1 = .ok (some device))
    (again : ((services.findDevice decoder.protocol document.remote
      [sample.identifier]).run two).1 = .ok (some device))
    (commands : (commandResponse services device).FailsOnly fun _ => False) :
    ∃ first second response,
      ((decode decoder clock services query).run one).1 = .ok ⟨some first, response⟩ ∧
      ((decode decoder clock services document).run two).1 =
        .ok ⟨some second, .plain 200 ""⟩ ∧
      first.Equals second := by
  obtain ⟨response, fromQuery⟩ :=
    run_decode_of_isQuery metres good asQuery somebody known commands
  obtain ⟨second, fromDocument, equal⟩ := run_decode_of_isDocument good asDocument again
  exact ⟨_, second, response, fromQuery, fromDocument, equal⟩

/-- A sample on the equator, with a zero below zero and numerals of all kinds. -/
def equatorSample : Sample where
  identifier := "a"
  timestamp := "2024-01-01T00:00:00Z"
  latitude := ⟨true, ['0'], [], none, by decide, by decide, by decide, by decide⟩
  longitude := ⟨false, ['1', '0'], ['5'], none, by decide, by decide, by decide, by decide⟩
  speed := ⟨false, ['3'], [], some ⟨true, some true, ['1'], by decide, by decide⟩, by decide,
    by decide, by decide, by decide⟩
  heading := ⟨false, ['9', '0'], [], none, by decide, by decide, by decide, by decide⟩
  altitude := ⟨true, ['2'], ['5', '0'], none, by decide, by decide, by decide, by decide⟩
  accuracy := ⟨false, ['1'], [], some ⟨false, none, ['1'], by decide, by decide⟩, by decide,
    by decide, by decide, by decide⟩

/-- The sample as parameters, the identifier last. -/
def equatorQuery : Http.Request where
  query := Text.utf8Bytes (Http.writeForm Char.isAlphanum equatorSample.fields.reverse)
  path := ['/']
  header := ⟨"", []⟩
  codec := none

/-- The sample in a document. -/
def equatorText : List Char :=
  Json.writeObject [("device_id", Json.writeText "a"), ("location", Json.writeObject [
    ("timestamp", Json.writeText "2024-01-01T00:00:00Z"),
    ("coords", Json.writeObject
      (equatorSample.measures.map fun measure => (measure.1, measure.2.chars)))])]

theorem isQuery_equatorQuery : equatorSample.IsQuery equatorQuery :=
  ⟨rfl, rfl, _, _, List.reverse_perm _,
    Http.formText_writeForm Http.escapesMarks_isAlphanum _, rfl⟩

theorem isDocument_equatorText : equatorSample.IsDocument (documentRequest equatorText) := by
  have written : equatorSample.DocumentText ([] ++ (equatorText ++ [])) :=
    .document (Json.quotedText_writeText (by decide)) (Json.quotedText_writeText (by decide))
      (Json.objectText_writeObject (List.cons_ne_nil _ _) (by decide))
      (Json.objectText_writeObject (List.cons_ne_nil _ _) (by decide))
      (Json.objectText_writeObject (List.cons_ne_nil _ _) (by decide)) nofun nofun
  rw [List.nil_append, List.append_nil] at written
  exact ⟨isJson_documentRequest _, by decide +kernel, by decide, equatorText, written, rfl⟩

/-- The time of that sample. -/
def equatorTime : Moment := (Moment.ofMillis? 1704067200000).getD noFixTime

theorem isReportable_equatorSample : equatorSample.IsReportable .utc equatorTime where
  letter := by decide
  timed := by decide +kernel
  finite := by decide +kernel
  speed := by decide +kernel
  heading := by decide +kernel

/-- The sample on the equator gives equal positions from both formats. -/
theorem decode_formats_agree_equator :
    equatorSample.IsReportable .utc equatorTime ∧ equatorSample.IsQuery equatorQuery ∧
      equatorSample.IsDocument (documentRequest equatorText) ∧
      (idleServices : Services String Unit).NeverFail ∧
      ∃ first second response,
        ((decode ⟨.text "osmand", .metresPerSecond⟩ ⟨noFixTime, .utc⟩
          (idleServices : Services String Unit) equatorQuery).run ()).1 =
            .ok ⟨some first, response⟩ ∧
        ((decode ⟨.text "osmand", .metresPerSecond⟩ ⟨noFixTime, .utc⟩
          (idleServices : Services String Unit) (documentRequest equatorText)).run ()).1 =
            .ok ⟨some second, .plain 200 ""⟩ ∧
        first.Equals second :=
  ⟨isReportable_equatorSample, isQuery_equatorQuery, isDocument_equatorText, neverFail_idleServices,
    decode_formats_agree rfl isReportable_equatorSample isQuery_equatorQuery isDocument_equatorText
      (by decide) rfl rfl nofun⟩

end Report

end Telematics
