import Telematics.Calendar.Moment
import Telematics.Position.Network

/-!
Positions: what a device reported about where it is, in one form for every wire format.

A position belongs to a device, has up to three times and up to six measures, and holds whatever
else the report said as attributes. Beside its times and radio observations, what a position holds
may be any value: a report gives numbers and booleans, but a position that is handed in is kept as
it is until it is stored. Attributes keep the order in which they were set first.

* `Position.set`, `Position.get?`: attributes, where they are an object.
* `Position.toMembers`: the written form.
-/

namespace Telematics

open Calendar (Moment)

/-- A position. The speed is in knots, and the number of no device is zero. -/
structure Position where
  protocol : Json
  deviceId : Json := .int 0
  serverTime : Option Moment
  deviceTime : Option Moment := none
  fixTime : Option Moment := none
  outdated : Json := .bool false
  valid : Json := .bool false
  latitude : Json := .null
  longitude : Json := .null
  altitude : Json := .null
  speed : Json := .null
  course : Json := .null
  accuracy : Json := .null
  network : Option Network := none
  attributes : Json := .object []
deriving DecidableEq, Repr

namespace Position

/-- The attributes of a position are no object. -/
inductive Fault where
  | noAttributes
deriving DecidableEq, Repr

/-- Sets the time on the device and the time of the fix. -/
def setTime (position : Position) (time : Option Moment) : Position :=
  { position with deviceTime := time, fixTime := time }

/-- Sets an attribute; null sets nothing. -/
def set (position : Position) (key : Letters) (value : Json) : Except Fault Position :=
  if value = .null then .ok position
  else match position.attributes with
    | .object members =>
      .ok { position with attributes := .object (Json.Members.put key value members) }
    | _ => .error .noAttributes

/-- The value of an attribute. -/
def get? (position : Position) (key : Letters) : Except Fault (Option Json) :=
  match position.attributes with
  | .object members => .ok (Json.Members.get? members key)
  | _ => .error .noAttributes

/-- Both coordinates are known. -/
def hasCoordinates (position : Position) : Bool :=
  position.latitude ≠ .null && position.longitude ≠ .null

/-- The written form of an optional time. -/
def timeJson : Option Moment → Json
  | some time => .text time.toText
  | none => .null

/-- The written form of an optional measure. -/
def measureJson : Option Binary64 → Json
  | some value => .float value
  | none => .null

/-- The written form of optional radio observations. -/
def networkJson : Option Network → Json
  | some network => network.toJson
  | none => .null

/-- The written form of a position, as members in a fixed order. -/
def toMembers (position : Position) : Json.Members := [
  ("protocol", position.protocol),
  ("device_id", position.deviceId),
  ("server_time", timeJson position.serverTime),
  ("device_time", timeJson position.deviceTime),
  ("fix_time", timeJson position.fixTime),
  ("outdated", position.outdated),
  ("valid", position.valid),
  ("latitude", position.latitude),
  ("longitude", position.longitude),
  ("altitude", position.altitude),
  ("speed", position.speed),
  ("course", position.course),
  ("accuracy", position.accuracy),
  ("network", networkJson position.network),
  ("attributes", position.attributes)]

/-- The written form of a position. -/
def toJson (position : Position) : Json := .object position.toMembers

/-- The attribute keys that have a meaning of their own. -/
inductive Known where
  | hdop
  | batteryLevel
  | driverUniqueId
  | charge
  | event
  | motion
  | odometer
  | alarm
  | mock
  | activity
deriving DecidableEq, Repr

/-- The key of a known attribute. -/
def Known.key : Known → String
  | .hdop => "hdop"
  | .batteryLevel => "batteryLevel"
  | .driverUniqueId => "driverUniqueId"
  | .charge => "charge"
  | .event => "event"
  | .motion => "motion"
  | .odometer => "odometer"
  | .alarm => "alarm"
  | .mock => "mock"
  | .activity => "activity"

theorem get?_set_self {position after : Position} {value : Json} {key : Letters}
    (present : value ≠ .null) (set : position.set key value = .ok after) :
    after.get? key = .ok (some value) := by
  unfold Position.set at set
  rw [if_neg present] at set
  split at set
  · cases set
    simp [get?]
  · cases set

theorem get?_set_ne {position after : Position} {value : Json} {key other : Letters}
    (differ : key ≠ other) (set : position.set key value = .ok after) :
    after.get? other = position.get? other := by
  unfold Position.set at set
  split at set
  · cases set
    rfl
  · split at set
    · rename_i members found
      cases set
      simp [get?, found, Json.Members.get?_put_ne value differ]
    · cases set

end Position

end Telematics
