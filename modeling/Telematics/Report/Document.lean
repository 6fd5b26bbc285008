import Telematics.Report.Decoder

/-!
Reports as JSON documents: an object with the identifier of the device and a nested location.

* `readDocument`: the document of a body.
* `readSpot`, `readExtras`: what a location says, read without any service.
* `decodeDocument`: the position of a document.
-/

namespace Telematics.Report

open Calendar (Moment Clock)

/-- A member of an object that is an object itself. -/
def requiredObject (members : Json.Members) (key : String) : Except Rejection Json.Members :=
  match members.get? key with
  | some (.object inner) => .ok inner
  | some .null => .error (.missingObject key)
  | none => .error (.missingObject key)
  | some _ => .error (.notObject key)

/-- A member that is an object, null or missing. -/
def optionalObject (members : Json.Members) (key : String) :
    Except Rejection (Option Json.Members) :=
  match members.get? key with
  | some (.object inner) => .ok (some inner)
  | some .null => .ok none
  | none => .ok none
  | some _ => .error (.notObject key)

/-- A finite double-precision number. -/
def finite (key : String) (shown : Json) (value : Binary64) : Except Rejection Binary64 :=
  if value.isFinite then .ok value else .error (.notFinite key shown)

/-- A number as a double-precision number. -/
def number (key : String) : Json → Except Rejection Binary64
  | .int value =>
    let number := Binary64.ofInt value
    if number.isFinite then .ok number else .error (.outOfRange key)
  | .float value => finite key (.float value) value
  | value => .error (.notNumber key value)

/-- A member that is a number. -/
def requiredNumber (members : Json.Members) (key : String) : Except Rejection Binary64 :=
  match members.get? key with
  | some .null => .error (.missingNumber key)
  | none => .error (.missingNumber key)
  | some value => number key value

/-- A member that is a number, null or missing. -/
def optionalNumber (members : Json.Members) (key : String) :
    Except Rejection (Option Binary64) :=
  match members.get? key with
  | some .null => .ok none
  | none => .ok none
  | some value => some <$> number key value

/-- A member that is a text. -/
def requiredText (members : Json.Members) (key : String) : Except Rejection Letters :=
  match members.get? key with
  | some (.text value) => .ok value
  | value => .error (.notText key (value.getD .null))

/-- A member that is a boolean. -/
def requiredBoolean (members : Json.Members) (key : String) : Except Rejection Bool :=
  match members.get? key with
  | some (.bool value) => .ok value
  | value => .error (.notBoolean key (value.getD .null))

/-- What is read from a member if the key is there. -/
def ifPresent {α : Type} (members : Json.Members) (key : String)
    (read : Json.Members → String → Except Rejection α) : Except Rejection (Option α) :=
  match members.get? key with
  | some _ => some <$> read members key
  | none => .ok none

/-- The integer part of a number. -/
def integerPart (key : String) (value : Binary64) : Except Rejection Int :=
  match value.truncate? with
  | some value => .ok value
  | none => .error (.outOfRange key)

/-- The measures of a place. -/
structure Spot where
  latitude : Binary64
  longitude : Binary64
  altitude : Option Binary64
  /-- The speed in knots. -/
  speed : Option Binary64
  course : Option Binary64
  accuracy : Option Binary64
deriving DecidableEq, Repr

/-- A measure that counts only if it is not negative. -/
def notNegative (value : Option Binary64) : Option Binary64 := value.filter (·.isNonnegative)

/-- The measures of a place, from its object. The accuracy is read only if there is a speed or a
    course. -/
def readSpot (members : Json.Members) : Except Rejection Spot := do
  let latitude ← requiredNumber members "latitude"
  let longitude ← requiredNumber members "longitude"
  let speed := notNegative (← optionalNumber members "speed")
  let course := notNegative (← optionalNumber members "heading")
  let accuracy ←
    if speed.isSome || course.isSome then optionalNumber members "accuracy" else pure none
  let altitude ← optionalNumber members "altitude"
  return {
    latitude, longitude, altitude, course, accuracy
    speed := speed.map SpeedUnit.metresPerSecond.toKnots }

/-- Puts the measures of a place into a position, which is valid then. -/
def Spot.putInto (spot : Spot) (position : Position) : Position :=
  { position with
    valid := .bool true
    latitude := .float spot.latitude
    longitude := .float spot.longitude
    altitude := Position.measureJson spot.altitude
    speed := Position.measureJson spot.speed
    course := Position.measureJson spot.course
    accuracy := Position.measureJson spot.accuracy }

/-- The integer part of a number of the distance driven. -/
def readOdometer (members : Json.Members) (key : String) : Except Rejection Int := do
  integerPart key (← requiredNumber members key)

/-- The kind of activity, from its object. -/
def readActivity (members : Json.Members) (key : String) : Except Rejection Letters := do
  requiredText (← requiredObject members key) "type"

/-- The charge of a battery in percent, from a level between zero and one; a negative level does
    not count. And whether it is charging. -/
def readBattery (members : Json.Members) (key : String) :
    Except Rejection (Option Int × Bool) := do
  let battery ← requiredObject members key
  let level ← match notNegative (← optionalNumber battery "level") with
    | some level => some <$> integerPart "level" (level * Binary64.ofNat 100)
    | none => pure none
  return (level, battery.get? "is_charging" = some (.bool true))

/-- The alarm, from the location itself or from its extras. -/
def readAlarm (location : Json.Members) : Except Rejection (Option Letters) :=
  match location.get? "alarm" with
  | some _ => some <$> requiredText location "alarm"
  | none =>
    match location.get? "extras" with
    | some _ => do ifPresent (← requiredObject location "extras") "alarm" requiredText
    | none => .ok none

/-- An attribute that may be missing. -/
def entry {α : Type} (known : Position.Known) (wrap : α → Json) (value : Option α) :
    Json.Members :=
  (value.map fun value => (.whole known.key, wrap value)).toList

/-- The attributes of a location. -/
def readExtras (location : Json.Members) : Except Rejection Json.Members := do
  let event ← ifPresent location "event" requiredText
  let motion ← ifPresent location "is_moving" requiredBoolean
  let odometer ← ifPresent location "odometer" readOdometer
  let mock ← ifPresent location "mock" requiredBoolean
  let activity ← ifPresent location "activity" readActivity
  let battery ← ifPresent location "battery" readBattery
  let alarm ← readAlarm location
  let charging := if battery.any (·.2) then some true else none
  return entry .event .text event ++ entry .motion .bool motion ++
    entry .odometer .int odometer ++ entry .mock .bool mock ++ entry .activity .text activity ++
    entry .batteryLevel .int (battery.bind (·.1)) ++ entry .charge .bool charging ++
    entry .alarm .text alarm

/-- The document of a body, at most `depth` levels deep. -/
def readDocument {ε σ : Type} (depth : Nat) (body : List UInt8) :
    Action (Failure ε) σ Json.Members :=
  match Text.readUtf8 body with
  | .error fault => throw (.rejected (.undecodable fault))
  | .ok text =>
    match Json.parse false depth text with
    | .ok (.object members) => return members
    | .ok _ => throw (.rejected .noObject)
    | .error .tooDeep => throw .tooDeep
    | .error fault => throw (.rejected (.malformedDocument fault))

/-- The identifier in a document: a text, or an integer as its numeral. -/
def readIdentifier (document : Json.Members) : Except Rejection Letters :=
  match document.get? "device_id" with
  | some (.text value) => .ok value
  | some (.int value) => .ok (Number.decimal value)
  | value => .error (.notText "device_id" (value.getD .null))

/-- Decodes a document. -/
def decodeDocument {ε σ : Type} (decoder : Decoder) (clock : Clock) (services : Services ε σ)
    (remote : Option String) (document : Json.Members) : Action (Failure ε) σ Decoded := do
  let identifier ← orReject (readIdentifier document)
  match ← call (services.findDevice decoder.protocol remote [identifier]) with
  | none => return .refused 404
  | some device =>
    let location ← orReject (requiredObject document "location")
    let timestamp ← orReject (requiredText location "timestamp")
    let time ← orReject
      ((Timestamp.readIso clock.zone timestamp).mapError (.malformedTime "timestamp"))
    let position : Position := {
      protocol := decoder.protocol
      deviceId := .int device
      serverTime := some clock.now
      deviceTime := some time
      fixTime := some time }
    let position ← match ← orReject (optionalObject location "coords") with
      | some members => do
        let spot ← orReject (readSpot members)
        pure (spot.putInto position)
      | none => fallBack services device position clock.now
    let attributes ← orReject (readExtras location)
    return ⟨some { position with attributes := .object attributes }, .plain 200 ""⟩

/-- Decodes a report in a JSON document. -/
def decodeJson {ε σ : Type} (decoder : Decoder) (clock : Clock) (services : Services ε σ)
    (request : Http.Request) : Action (Failure ε) σ Decoded := do
  match request.body? with
  | none => throw .bodyTooLong
  | some body =>
    decodeDocument decoder clock services request.remote (← readDocument request.depth body)

end Telematics.Report
