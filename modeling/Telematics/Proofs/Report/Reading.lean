import Telematics.Proofs.Calendar.Moment
import Telematics.Proofs.Report.Rejection
import Telematics.Proofs.Report.Typing

/-!
Reported positions, read back from the store. What a report says comes back as it was stored, its
times at the same instants on the UTC clock; only a not-a-number and the sign of a zero are lost.

* `Position.measureReadBack`: what is read back of a measure.
* `Network.ofColumn`: what is read back of written radio observations.
* `Position.IsReadBackOf`: one position is what is read back of another.
* `addPosition_isReadBackOf`: the position of a report, once it is stored, is read back.
-/

namespace Telematics

open Calendar (Clock Moment)

/-! ## Values -/

/-- What is read back of a measure: not-a-number is no measure, and a negative zero is zero. -/
def Position.measureReadBack : Json → Json
  | .float .nan => .null
  | .float value => if value = .zeroOf true then .float .posZero else .float value
  | value => value

/-- There are two zeros, one of each sign. -/
theorem Binary64.isZero_iff {value : Binary64} :
    value.isZero = true ↔ value = .posZero ∨ value = .zeroOf true := by
  constructor
  · intro zero
    cases value with
    | nan => cases zero
    | infinite negative => cases zero
    | finite negative significand exponent canonical =>
      obtain rfl : significand = 0 := of_decide_eq_true zero
      obtain rfl : exponent = -1074 := by
        rcases canonical with ⟨-, least⟩ | ⟨large, -⟩
        · exact least
        · exact absurd large (by decide)
      cases negative
      · exact .inl rfl
      · exact .inr rfl
  · rintro (rfl | rfl) <;> rfl

theorem Position.measureJson_storableMeasure (measure : Option Binary64) :
    measureJson (storableMeasure measure) = measureReadBack (measureJson measure) := by
  cases measure with
  | none => rfl
  | some value =>
    by_cases number : value = .nan
    · rw [number]
      rfl
    rw [storableMeasure, measureJson, measureJson, measureReadBack]
    · by_cases zero : value.isZero = true
      · rcases Binary64.isZero_iff.mp zero with rfl | rfl <;> rfl
      · have positive : value ≠ .zeroOf true := fun same => zero (by rw [same]; rfl)
        rw [if_neg zero, if_neg positive]
    · exact number
    · exact number

/-- The radio observations of a written column: null has none, and neither has an object without
    members. -/
def Network.ofColumn : Json → Except Network.Fault (Option Network)
  | .object members => if members = [] then .ok none else some <$> Network.read members
  | .null => .ok none
  | _ => .error .entry

/-- Written radio observations are read back. -/
theorem Network.ofColumn_networkJson (network : Option Network) :
    Network.ofColumn (Position.networkJson network) = .ok network := by
  cases network with
  | none => rfl
  | some network =>
    show some <$> Network.read network.toMembers = _
    rw [Network.read_toMembers]
    rfl

/-- An optional time is kept: a missing one is still missing, and any other is the same instant on
    the UTC clock. -/
inductive IsTimeKept : (kept time : Option Moment) → Prop where
  | missing : IsTimeKept none none
  | shown {kept time : Moment} : kept.IsOnUtc time → IsTimeKept (some kept) (some time)

theorem isTimeKept_of_storableTime? {time kept : Option Moment}
    (stored : storableTime? time = .ok kept) : IsTimeKept kept time := by
  cases time with
  | none =>
    cases stored
    exact .missing
  | some time =>
    simp only [storableTime?, storableTime] at stored
    split at stored
    · rename_i utc found
      cases stored
      exact .shown (Calendar.isOnUtc_of_utc? found)
    · cases stored

/-! ## Positions -/

/-- One position is what is read back of another. -/
structure Position.IsReadBackOf (back position : Position) : Prop where
  protocol : back.protocol = position.protocol
  deviceId : back.deviceId = position.deviceId
  outdated : back.outdated = position.outdated
  valid : back.valid = position.valid
  serverTime : IsTimeKept back.serverTime position.serverTime
  deviceTime : IsTimeKept back.deviceTime position.deviceTime
  fixTime : IsTimeKept back.fixTime position.fixTime
  network : back.network = position.network
  attributes : back.attributes = position.attributes
  latitude : back.latitude = measureReadBack position.latitude
  longitude : back.longitude = measureReadBack position.longitude
  altitude : back.altitude = measureReadBack position.altitude
  speed : back.speed = measureReadBack position.speed
  course : back.course = measureReadBack position.course
  accuracy : back.accuracy = measureReadBack position.accuracy

section ReadBack

variable {position : Position} {location : Location} {members : Json.Members}

/-- A column of measures keeps what is read back of a measure. -/
theorem measureJson_of_measureColumn {name : String} {value : Json} {kept : Option Binary64}
    (measured : ∃ measure, value = Position.measureJson measure)
    (stored : measureColumn name value = .ok kept) :
    Position.measureJson kept = Position.measureReadBack value := by
  obtain ⟨measure, rfl⟩ := measured
  rw [measureColumn_measureJson] at stored
  cases stored
  exact Position.measureJson_storableMeasure measure

theorem bool_of_flag {value : Json} {kept : Bool} (flag : ∃ flag, value = .bool flag)
    (stored : Column.flag value = .ok (some kept)) : Json.bool kept = value := by
  obtain ⟨flag, rfl⟩ := flag
  rw [Column.flag_bool] at stored
  cases stored
  rfl

/-- What a location keeps of a position is what is read back of it, if its values are of the kinds
    that reports give. -/
theorem Location.Keeps.isReadBackOf (keeps : location.Keeps position members)
    (typed : position.IsTyped) {name : String} (named : position.protocol = .text name)
    (listed : position.attributes = .object members) :
    location.toPosition.IsReadBackOf position where
  protocol := by
    have text := keeps.protocol
    rw [named] at text ⊢
    cases text
    rfl
  deviceId := by
    obtain ⟨device, own⟩ := typed.device
    rw [own, ← keeps.device_eq own]
    rfl
  outdated := bool_of_flag typed.outdated keeps.outdated
  valid := bool_of_flag typed.valid keeps.valid
  serverTime := isTimeKept_of_storableTime? keeps.serverTime
  deviceTime := isTimeKept_of_storableTime? keeps.deviceTime
  fixTime := isTimeKept_of_storableTime? keeps.fixTime
  network := keeps.network
  attributes := by
    rw [listed, ← keeps.attributes]
    rfl
  latitude := measureJson_of_measureColumn typed.latitude keeps.latitude
  longitude := measureJson_of_measureColumn typed.longitude keeps.longitude
  altitude := measureJson_of_measureColumn typed.altitude keeps.altitude
  speed := measureJson_of_measureColumn typed.speed keeps.speed
  course := measureJson_of_measureColumn typed.course keeps.course
  accuracy := measureJson_of_measureColumn typed.accuracy keeps.accuracy

/-- A stored position is found in the store and read back. -/
theorem Store.addPosition_loaded {store after : Store} {stored : Stored} (typed : position.IsTyped)
    {name : String} (named : position.protocol = .text name)
    (added : store.addPosition position = .ok (stored, after)) :
    after.locations.find? stored.row.id = some stored.row ∧
      stored.row.value.toPosition.IsReadBackOf position := by
  obtain ⟨members, listed, distinct⟩ := typed.attributes
  obtain ⟨entries, location, read, keeps, rfl, rfl⟩ := addPosition_eq_ok_iff.mp added
  refine ⟨(Table.find?_insert _ _ _).trans (if_pos rfl), ?_⟩
  rw [listed] at read
  cases read
  rw [Column.named_of_nodup distinct] at keeps
  exact keeps.isReadBackOf typed named listed

end ReadBack

/-! ## Reports -/

namespace Report

variable {ε σ : Type} {services : Services ε σ} {decoder : Decoder}

/-- A position is filed under the protocol of the decoder. -/
theorem Acceptance.protocol {clock : Clock} {request : Http.Request} {position : Position}
    {state after : σ}
    (accepted : Acceptance services decoder clock request state position after) :
    position.protocol = decoder.protocol := by
  cases accepted with
  | parameters _ _ _ _ placed _ => exact placed.source.protocol
  | document _ _ _ _ _ _ placed => exact placed.source.protocol

/-- The position of a report is read back from the store in which it is stored, and its radio
    observations are read back from their written form. -/
theorem addPosition_isReadBackOf (gives : services.GivesMeasured) {name : String}
    (named : decoder.protocol = .text name) {clock : Clock} {request : Http.Request} {state : σ}
    {position : Position} {response : Http.Response} {reached : σ}
    (ran : (decode decoder clock services request).run state =
      (.ok ⟨some position, response⟩, reached))
    {store after : Store} {stored : Store.Stored}
    (added : store.addPosition position = .ok (stored, after)) :
    ∃ row, after.locations.find? stored.row.id = some row ∧
      row.value.toPosition.IsReadBackOf position ∧
      Network.ofColumn (Position.networkJson row.value.network) = .ok position.network := by
  have accepted := decode_acceptance ran
  obtain ⟨found, back⟩ := Store.addPosition_loaded (accepted.isTyped gives)
    (accepted.protocol.trans named) added
  refine ⟨stored.row, found, back, ?_⟩
  rw [Network.ofColumn_networkJson]
  exact congrArg Except.ok back.network

/-- A request with a latitude of negative zero and a longitude that is no number. -/
def driftingRequest : Http.Request where
  query := Text.utf8Bytes "id=1&lat=-0&lon=nan&cell=262,1,2,3&charge=true&note=1.5".toList
  path := ['/']
  header := ⟨"", []⟩
  codec := none

/-- The position of such a request is stored and read back. -/
theorem isReadBackOf_drifting :
    (idleServices : Services String Unit).GivesMeasured ∧
      ∃ position response stored after,
        (decode ⟨.text "osmand", .knots⟩ ⟨noFixTime, .berlin⟩ (idleServices : Services String Unit)
          driftingRequest).run () = (.ok ⟨some position, response⟩, ()) ∧
        Store.empty.addPosition position = .ok (stored, after) ∧
        ∃ row, after.locations.find? stored.row.id = some row ∧
          row.value.toPosition.IsReadBackOf position ∧
          Network.ofColumn (Position.networkJson row.value.network) = .ok position.network := by
  have gives : (idleServices : Services String Unit).GivesMeasured := fun _ _ _ _ looked => by
    cases looked
  generalize outcome : (decode ⟨.text "osmand", .knots⟩ ⟨noFixTime, .berlin⟩
    (idleServices : Services String Unit) driftingRequest).run () = result
  have stores : (result.1.toOption.bind fun decoded => decoded.position.bind fun position =>
      (Store.empty.addPosition position).toOption).isSome = true := by
    rw [← outcome]
    decide +kernel
  obtain ⟨ending, reached⟩ := result
  obtain ⟨⟨stored, after⟩, both⟩ := Option.isSome_iff_exists.mp stores
  obtain ⟨⟨_, response⟩, decoded, inStore⟩ := Option.bind_eq_some_iff.mp both
  obtain ⟨position, rfl, added⟩ := Option.bind_eq_some_iff.mp inStore
  obtain rfl := toOption_eq_some_iff.mp decoded
  rw [toOption_eq_some_iff] at added
  exact ⟨gives, position, response, stored, after, rfl, added,
    addPosition_isReadBackOf gives rfl outcome added⟩

end Report

end Telematics
