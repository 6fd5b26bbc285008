import Telematics.Store.Basic

/-!
Devices in the store: creation, changes and deletion, and the notification tokens among their
attributes.

A device is handed in with values of any kind. The store keeps those that its columns make of them,
while whoever handed them in still holds them as they are.

* `Store.createDevice`, `Store.updateDevice`, `Store.overwriteDevice`, `Store.deleteDevice`.
* `Store.addToken`: a token is kept once, behind the others.
-/

namespace Telematics

open Calendar (Moment Zone)

/-- A device as it is handed in. One without a number is given the next one. -/
structure DeviceForm where
  id : Json := .null
  name : Json := .text ""
  uniqueId : Json := .text ""
  protocol : Json := .text ""
  status : Json := .text activeStatus
  attributes : Json := .object []
  createdAt : Moment
  updatedAt : Moment
deriving DecidableEq, Repr

namespace DeviceForm

/-- The form of a device before anything is set. -/
def blank (now : Moment) : DeviceForm := { createdAt := now, updatedAt := now }

/-- The form of a device that is stored. -/
def ofRow (row : Row Device) : DeviceForm where
  id := .int row.id
  name := .text row.value.name
  uniqueId := .text row.value.uniqueId
  protocol := .text row.value.protocol
  status := .text row.value.status
  attributes := row.value.attributes
  createdAt := row.value.createdAt
  updatedAt := row.value.updatedAt

/-- The device may report. -/
def isEnabled (form : DeviceForm) : Bool := form.status ≠ .text inactiveStatus

/-- How a device is shown: its name, and its identifier in brackets. -/
def title (form : DeviceForm) : String :=
  form.name.asText.shown ++ " (" ++ form.uniqueId.asText.shown ++ ")"

/-- The number that the columns make of a form. -/
def number? (form : DeviceForm) : Except Store.Fault (Option Int) := do
  Store.bounded? (← Store.ofColumn (Column.integer "id" form.id))

/-- The device that the columns make of a form. -/
def toDevice (form : DeviceForm) : Except Store.Fault Device := do
  let name ← Store.ofColumn (Column.text form.name)
  let uniqueId ← Store.ofColumn (Column.text form.uniqueId)
  let protocol ← Store.ofColumn (Column.text form.protocol)
  let status ← Store.ofColumn (Column.text form.status)
  if form.attributes = .null then throw .missingValue
  return {
    name := ← Store.required name
    uniqueId := ← Store.required uniqueId
    protocol := ← Store.required protocol
    status := ← Store.required status
    attributes := ← Store.strict form.attributes
    createdAt := form.createdAt
    updatedAt := form.updatedAt }

end DeviceForm

/-- Changes of a device: the values that are set. Times count only where a device is changed
    without an update of it, because otherwise they are those of the change. -/
structure DeviceChange where
  id : Option Json := none
  name : Option Json := none
  uniqueId : Option Json := none
  protocol : Option Json := none
  status : Option Json := none
  attributes : Option Json := none
  createdAt : Option Json := none
  updatedAt : Option Json := none
deriving DecidableEq, Repr

/-- A form after changes. -/
def DeviceChange.onto (change : DeviceChange) (form : DeviceForm) : DeviceForm :=
  { form with
    id := change.id.getD form.id
    name := change.name.getD form.name
    uniqueId := change.uniqueId.getD form.uniqueId
    protocol := change.protocol.getD form.protocol
    status := change.status.getD form.status
    attributes := change.attributes.getD form.attributes }

namespace Store

/-- A device of another number has the identifier. -/
def isTaken (store : Store) (id : Int) (uniqueId : String) : Bool :=
  store.devices.rows.any fun row => row.id ≠ id && row.value.uniqueId = uniqueId

/-- The number of a new device: its own, or the next one. Only devices come with numbers of their
    own, so no other numbers are ever used up. -/
def deviceNumber (store : Store) : Option Int → Except Fault Int
  | some id => .ok id
  | none =>
    if store.devices.nextId < Column.integerLimit then .ok store.devices.nextId else .error .full

/-- Puts a new device into the store. -/
def insertDevice (store : Store) (id : Int) (device : Device) : Except Fault Store :=
  if (store.deviceOf? device.uniqueId).isSome then .error .duplicateIdentifier
  else if store.hasDevice id then .error .duplicateNumber
  else .ok { store with devices := store.devices.put id device }

/-- Creates a device. The form comes out with its number. -/
def createDevice (store : Store) (now : Moment) (change : DeviceChange) :
    Except Fault (DeviceForm × Store) := do
  let form := change.onto (.blank now)
  let id ← store.deviceNumber (← form.number?)
  return ({ form with id := .int id }, ← store.insertDevice id (← form.toDevice))

/-- The store with a device replaced. -/
def setDevice (store : Store) (id : Int) (device : Device) : Store :=
  { store with devices := store.devices.set id device }

/-- Replaces what a device holds, if no other device has its identifier. -/
def replaceDevice (store : Store) (id : Int) (device : Device) : Except Fault Store :=
  if store.isTaken id device.uniqueId then .error .duplicateIdentifier
  else .ok (store.setDevice id device)

/-- Saves a form: the device of its number is replaced, or a new device is created. -/
def saveDevice (store : Store) (now : Moment) (form : DeviceForm) :
    Except Fault (DeviceForm × Store) := do
  let id ← form.number?
  match id.bind store.device? with
  | some row => return (form, ← store.replaceDevice row.id (← form.toDevice))
  | none =>
    let id ← store.deviceNumber id
    let device ← form.toDevice
    return ({ form with id := .int id, createdAt := now },
      ← store.insertDevice id { device with createdAt := now })

/-- Changes a device, which counts as an update of it. -/
def updateDevice (store : Store) (now : Moment) (row : Row Device) (change : DeviceChange) :
    Except Fault (DeviceForm × Store) :=
  store.saveDevice now { change.onto (.ofRow row) with updatedAt := now }

/-- A command or a location belongs to the device. -/
def isReferredTo (store : Store) (id : Int) : Bool :=
  store.commands.rows.any (·.value.device = id) || store.locations.rows.any (·.value.device = id)

/-- Gives a device another number, which has to be free. Nothing may belong to the device. -/
def renumberDevice (store : Store) (row : Row Device) (id : Int) (device : Device) :
    Except Fault Store :=
  if store.hasDevice id then .error .duplicateNumber
  else if store.isTaken row.id device.uniqueId then .error .duplicateIdentifier
  else if store.isReferredTo row.id then .error .danglingReference
  else .ok { store with devices := store.devices.renumber row.id id device }

/-- A time after a change, on the UTC clock. -/
def changedTime (zone : Zone) (time : Moment) : Option Json → Except Fault Moment
  | some value => do storableTime (← required (← ofColumn (Column.time zone value)))
  | none => .ok time

/-- Changes a device without counting it as an update. -/
def overwriteDevice (store : Store) (zone : Zone) (row : Row Device) (change : DeviceChange) :
    Except Fault Store := do
  let form := change.onto (.ofRow row)
  let id ← required (← form.number?)
  let createdAt ← changedTime zone row.value.createdAt change.createdAt
  let updatedAt ← changedTime zone row.value.updatedAt change.updatedAt
  let device := { ← form.toDevice with createdAt, updatedAt }
  if id = row.id then store.replaceDevice id device
  else store.renumberDevice row id device

/-- Deletes a device with its commands and locations. -/
def deleteDevice (store : Store) (id : Int) : Store where
  devices := store.devices.removeIf (·.id = id)
  commands := store.commands.removeIf (·.value.device = id)
  locations := store.locations.removeIf (·.value.device = id)

end Store

/-- The attribute that holds notification tokens. -/
def tokensKey : String := "notificationTokens"

/-- The tokens of an attribute: the items of a list, the characters of a text, the keys of an
    object, and nothing for a value that is empty, null or false. Other values have no items. -/
def itemsOf? (value : Json) : Option (List Json) :=
  match (if value.isTruthy then Column.items value else .ok []) with
  | .ok items => some items
  | .error _ => none

namespace Store

/-- What became of a notification token. -/
inductive TokenResult where
  /-- There is no such device, or it has the token already. -/
  | unchanged
  /-- The token is kept behind the others. -/
  | added (store : Store)
  /-- The attribute of the tokens holds something that has no items. -/
  | noItems
  /-- The attributes of the device are no object. -/
  | noAttributes
  /-- The token is no strict JSON. -/
  | notStrict
deriving DecidableEq, Repr

/-- Adds a token to the members of attributes. -/
def addTokenTo (store : Store) (now : Moment) (row : Row Device) (members : Json.Members)
    (token : Json) : TokenResult :=
  match itemsOf? ((members.get? tokensKey).getD .null) with
  | none => .noItems
  | some tokens =>
    if tokens.any (·.isSame token) then .unchanged
    else if token.isStrict then
      let attributes := .object (members.put tokensKey (.list (tokens ++ [token])))
      .added (store.setDevice row.id { row.value with attributes, updatedAt := now })
    else .notStrict

/-- Keeps a notification token of a device, which counts as an update of it. -/
def addToken (store : Store) (now : Moment) (id : Int) (token : Json) : TokenResult :=
  match store.device? id with
  | none => .unchanged
  | some row =>
    match row.value.attributes with
    | .object members => store.addTokenTo now row members token
    | _ => .noAttributes

end Store

end Telematics
