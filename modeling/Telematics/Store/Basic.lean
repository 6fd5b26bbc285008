import Telematics.Position.Basic
import Telematics.Store.Column
import Telematics.Store.Table

/-!
The store: devices, the commands that wait for them, and the locations that are stored for them.

Commands and locations belong to a device. A store is consistent if every one of them belongs to a
device that exists; whether it is so is checked when a change is completed. What is handed in to be
stored may hold values of any kind, which become those of the columns first.

* `Store.isConsistent`: the check.
* `Location`: a position as it is stored, and how it is read back.
* `Location.ofPosition`: how a position is stored.
-/

namespace Telematics

open Calendar (Moment)

/-- A device. -/
structure Device where
  name : String
  uniqueId : String
  protocol : String
  status : String
  attributes : Json
  createdAt : Moment
  updatedAt : Moment
deriving DecidableEq, Repr

/-- The status of a device in use. -/
def activeStatus : String := "active"

/-- The one status that disables a device. -/
def inactiveStatus : String := "inactive"

/-- The device may report. -/
def Device.isEnabled (device : Device) : Bool := device.status ≠ inactiveStatus

/-- How a device is shown: its name, and its identifier in brackets. -/
def Device.title (device : Device) : String := device.name ++ " (" ++ device.uniqueId ++ ")"

/-- A command that waits for a device. -/
structure Command where
  device : Int
  type : String
  payload : Json
  createdAt : Moment
deriving DecidableEq, Repr

/-- The type of a command that has no other. -/
def customType : String := "custom"

/-- A stored position. Its times are on the UTC clock. -/
structure Location where
  device : Int
  protocol : String
  serverTime : Moment
  deviceTime : Option Moment
  fixTime : Option Moment
  outdated : Bool
  valid : Bool
  latitude : Option Binary64
  longitude : Option Binary64
  altitude : Option Binary64
  speed : Option Binary64
  course : Option Binary64
  accuracy : Option Binary64
  network : Option Network
  attributes : Json.Members
deriving DecidableEq, Repr

/-- The store. -/
structure Store where
  devices : Table Device
  commands : Table Command
  locations : Table Location
deriving DecidableEq, Repr

/-- Why the store refuses a change. -/
inductive Store.Fault where
  /-- Another device has the identifier. -/
  | duplicateIdentifier
  /-- Another row has the number. -/
  | duplicateNumber
  /-- A value that has to be there is null. -/
  | missingValue
  /-- A command or a location belongs to no device. -/
  | danglingReference
  /-- An infinity or a not-a-number is inside a JSON value. -/
  | notStrict
  /-- A time is outside the calendar when it is put on the UTC clock. -/
  | timeOutOfRange
  /-- A value does not become the value of a column. -/
  | column (fault : Column.Fault)
  /-- More rows are asked for than can be counted. -/
  | countTooLarge
  /-- There is no number left for a new row. -/
  | full
deriving DecidableEq, Repr

namespace Store

/-- The store without rows. -/
def empty : Store := ⟨.empty, .empty, .empty⟩

/-- The device of a number. -/
def device? (store : Store) (id : Int) : Option (Row Device) := store.devices.find? id

/-- The device of an identifier. -/
def deviceOf? (store : Store) (uniqueId : String) : Option (Row Device) :=
  store.devices.rows.find? (·.value.uniqueId = uniqueId)

/-- There is a device of the number. -/
def hasDevice (store : Store) (id : Int) : Bool := (store.device? id).isSome

/-- Every command and every location belongs to a device. -/
def isConsistent (store : Store) : Bool :=
  store.commands.rows.all (fun row => store.hasDevice row.value.device) &&
    store.locations.rows.all (fun row => store.hasDevice row.value.device)

/-- A value for a column. -/
def ofColumn {α : Type} (value : Except Column.Fault α) : Except Fault α :=
  value.mapError Fault.column

/-- A value that has to be there. -/
def required {α : Type} : Option α → Except Fault α
  | some value => .ok value
  | none => .error .missingValue

/-- A number that can be kept, if there is one. -/
def bounded? : Option Int → Except Fault (Option Int)
  | some number => some <$> ofColumn (Column.bounded number)
  | none => .ok none

/-- A JSON value that is strict. -/
def strict (value : Json) : Except Fault Json :=
  if value.isStrict then .ok value else .error .notStrict

end Store

/-- A time on the UTC clock. -/
def storableTime (time : Moment) : Except Store.Fault Moment :=
  match time.utc? with
  | some utc => .ok utc
  | none => .error .timeOutOfRange

/-- An optional time on the UTC clock. -/
def storableTime? : Option Moment → Except Store.Fault (Option Moment)
  | some time => some <$> storableTime time
  | none => .ok none

/-- A measure as it is stored: a not-a-number is no measure, and a zero has no sign. -/
def storableMeasure : Option Binary64 → Option Binary64
  | some .nan => none
  | some value => some (if value.isZero then .posZero else value)
  | none => none

/-- A value as a measure that is stored. -/
def measureColumn (name : String) (value : Json) : Except Store.Fault (Option Binary64) := do
  return storableMeasure (← Store.ofColumn (Column.measure name value))

/-- A position with its attributes as the members of an object, under the texts of their keys, and
    the members as they are stored. -/
def Position.withMembers (position : Position) : Except Store.Fault (Position × Json.Members) := do
  let entries ← Store.ofColumn (Column.entries position.attributes)
  return ({ position with attributes := .object (entries.named Json.asText) },
    entries.named Column.keyName)

/-- A position as it is stored, with its attributes as members. Every value becomes that of its
    column before it is checked whether those that have to be there are there. -/
def Location.ofPosition (position : Position) (attributes : Json.Members) :
    Except Store.Fault Location := do
  let device ← Store.ofColumn (Column.integer "id" position.deviceId)
  let serverTime ← storableTime? position.serverTime
  let deviceTime ← storableTime? position.deviceTime
  let fixTime ← storableTime? position.fixTime
  let outdated ← Store.ofColumn (Column.flag position.outdated)
  let valid ← Store.ofColumn (Column.flag position.valid)
  let latitude ← measureColumn "latitude" position.latitude
  let longitude ← measureColumn "longitude" position.longitude
  let altitude ← measureColumn "altitude" position.altitude
  let speed ← measureColumn "speed" position.speed
  let course ← measureColumn "course" position.course
  let accuracy ← measureColumn "accuracy" position.accuracy
  let device ← Store.bounded? device
  let protocol ← Store.ofColumn (Column.text position.protocol)
  let _ ← Store.strict (Position.networkJson position.network)
  let _ ← Store.strict (.object attributes)
  return {
    device := ← Store.required device
    protocol := ← Store.required protocol
    serverTime := ← Store.required serverTime
    deviceTime, fixTime
    outdated := ← Store.required outdated
    valid := ← Store.required valid
    latitude, longitude, altitude, speed, course, accuracy
    network := position.network
    attributes }

/-- A stored position, read back. -/
def Location.toPosition (location : Location) : Position where
  protocol := .text location.protocol
  deviceId := .int location.device
  serverTime := some location.serverTime
  deviceTime := location.deviceTime
  fixTime := location.fixTime
  outdated := .bool location.outdated
  valid := .bool location.valid
  latitude := Position.measureJson location.latitude
  longitude := Position.measureJson location.longitude
  altitude := Position.measureJson location.altitude
  speed := Position.measureJson location.speed
  course := Position.measureJson location.course
  accuracy := Position.measureJson location.accuracy
  network := location.network
  attributes := .object location.attributes

end Telematics
