import Telematics.Api.Basic
import Telematics.Console
import Telematics.Report.Decoder
import Telematics.Session
import Telematics.Settings
import Telematics.Store.Locations
import Telematics.Stream.Message

/-!
The gateway: the store, the sessions that are kept beside it, and what can go wrong when something
is asked of it.

Sessions are not part of the store: what happens to them stays when a change of the store is undone.
A device that is created, changed or deleted loses its sessions at once.

* `Gateway.openSession`: the session of the first identifier that is known.
* `Gateway.createDevice` and the other operations on devices, commands and positions.
* `Gateway.send`, `Gateway.broadcast`: messages are sent, which may fail.
* `Gateway.announce`, `Gateway.keepPosition`: a position is stored and its messages are sent, and a
  failure of sending them is caught.
-/

namespace Telematics

open Calendar (Clock Moment)

/-- The layer over which messages are sent. -/
inductive Layer where
  | working
  /-- Sending fails once this many messages of a position have gone out. -/
  | failing (sent : Nat)
  | absent
deriving DecidableEq, Repr

/-- The layer takes a message behind others of a position. -/
def Layer.takes (layer : Layer) (others : Nat) : Bool :=
  match layer with
  | .working => true
  | .failing sent => others < sent
  | .absent => false

/-- The gateway. -/
structure Gateway where
  store : Store := .empty
  sessions : Sessions := []
  /-- Sessions kept by a second manager, which learns of no change of a device. -/
  ownSessions : Sessions := []
  settings : IngestSettings := {}
  /-- Whether the second manager registers unknown devices; the settings tell if it is not said. -/
  ownRegisters : Option Bool := none
  clock : Clock
  layer : Layer := .working
  /-- The decoder, once it has been made. It keeps the settings it was made with. -/
  decoder : Option Report.Decoder := none

/-- Why something that was asked of the gateway is not done. -/
inductive Gateway.Fault where
  | store (fault : Store.Fault)
  /-- There is no such row. -/
  | noSuchRow
  /-- The notification tokens of a device are kept as something that has no items. -/
  | tokensWithoutItems
  /-- The attributes of a device are no object. -/
  | noAttributes
  | negativeCount
  /-- A count is not-a-number. -/
  | noCount
  | decoder (fault : Report.UnsupportedUnit)
  /-- A document is nested too deeply. -/
  | tooDeep
  /-- The encoding of a form refuses a text of it. -/
  | text (fault : Text.TextFault)
  | console (fault : Console.Fault)
  /-- A request is not understood. -/
  | request (fault : Http.RequestFault)
  /-- The session of a user would last beyond the end of the calendar. -/
  | endlessLogin
  | unknownDevice (uniqueId : String)
  /-- The content of a response has no UTF-8 form. -/
  | unencodable
  /-- The layer does not take a message to a group. -/
  | unsent (group : String)
deriving DecidableEq, Repr

/-- The wording of a fault that is one of the value that was handed over. -/
def Gateway.Fault.complaint? : Gateway.Fault → Option String
  | .store (.column .unencodable) => some Column.Fault.unencodable.message
  | _ => none

namespace Gateway

/-- Messages, each with the group it is sent to. -/
abbrev Outbox := List (String × Stream.Message)

/-- What comes of something that was asked of the gateway: a result or a fault, messages, and the
    gateway afterwards. -/
structure Outcome (α : Type) where
  result : Except Fault α
  outbox : Outbox := []
  gateway : Gateway

/-- Something that the gateway does, which may send messages and may fail. One that fails keeps the
    gateway that it has reached, and what it has sent stays sent. -/
abbrev Deed (α : Type) := Report.Action Fault (Gateway × Outbox) α

/-- What comes of a deed, before which nothing has been sent. -/
def Deed.outcome {α : Type} (deed : Deed α) (gateway : Gateway) : Outcome α :=
  let (result, after, outbox) := deed (gateway, [])
  ⟨result, outbox, after⟩

/-- The wording for a negative count. -/
def negativeCountMessage : String := "Negative indexing is not supported."

/-- The wording for a count that is not-a-number. -/
def noCountMessage : String := "cannot convert float NaN to integer"

/-- The wording for an identifier of no device. -/
def unknownDeviceMessage (uniqueId : String) : String := "Unknown device: " ++ uniqueId

/-! ## Sessions -/

/-- The sessions beside the store after a look into it: a device that was registered there has none
    yet. -/
def afterLookup (sessions : Sessions) (found : Lookup) : Sessions :=
  match found.registered with
  | some device => sessions.evict device
  | none => sessions

/-- The sessions with the one that was found. -/
def keepFound (sessions : Sessions) (found : Lookup) : Sessions :=
  match found.session with
  | some session => sessions.put session
  | none => sessions

/-- The session of identifiers, and the gateway that keeps it. -/
def openSession (gateway : Gateway) (protocol remote : Json) (identifiers : List String) :
    Except Fault (Option Session × Gateway) :=
  match gateway.sessions.find? identifiers with
  | some session => .ok (some session, gateway)
  | none => do
    let found ← (lookUp gateway.store gateway.clock.now gateway.settings.registerUnknown protocol
      remote identifiers).mapError Fault.store
    return (found.session,
      { gateway with
        store := found.store
        sessions := keepFound (afterLookup gateway.sessions found) found })

/-- The identifiers that decide, of identifiers that may be torn. If a whole one has a kept session,
    they are the whole ones; otherwise they are those in front of the first torn one, unless it is
    reached in the store. -/
def deciding? (gateway : Gateway) (identifiers : List Letters) : Option (List String) :=
  let whole := identifiers.filterMap Letters.whole?
  let front := (identifiers.takeWhile (·.whole?.isSome)).filterMap Letters.whole?
  if (gateway.sessions.find? whole).isSome then some whole
  else if front.length = identifiers.length || (gateway.store.firstKnown? front).isSome then
    some front
  else none

/-- The session of identifiers that may be torn. A torn one is that of no device, and it cannot even
    be looked for in the store. -/
def findSession (gateway : Gateway) (protocol remote : Json) (identifiers : List Letters) :
    Except Fault (Option Session × Gateway) :=
  match gateway.deciding? identifiers with
  | some identifiers => gateway.openSession protocol remote identifiers
  | none => .error (.store (.column .unencodable))

/-- The session of identifiers at the second manager. -/
def openOwnSession (gateway : Gateway) (protocol remote : Json)
    (identifiers : List String) : Except Fault (Option Session × Gateway) :=
  match gateway.ownSessions.find? identifiers with
  | some session => .ok (some session, gateway)
  | none => do
    let found ← (lookUp gateway.store gateway.clock.now
      (gateway.ownRegisters.getD gateway.settings.registerUnknown) protocol remote
      identifiers).mapError Fault.store
    return (found.session,
      { gateway with
        store := found.store
        sessions := afterLookup gateway.sessions found
        ownSessions := keepFound gateway.ownSessions found })

/-- Drops the sessions of a device. -/
def evict (gateway : Gateway) (device : Int) : Gateway :=
  { gateway with sessions := gateway.sessions.evict device }

/-- Drops the sessions of a device at the second manager. -/
def evictOwn (gateway : Gateway) (device : Int) : Gateway :=
  { gateway with ownSessions := gateway.ownSessions.evict device }

/-- Drops the sessions of the device whose number a value is, if it is one. -/
def evictNumbered (gateway : Gateway) (device : Json) : Gateway :=
  match device.integer? with
  | some device => gateway.evict device
  | none => gateway

/-- Drops the sessions at the second manager of the device whose number a value is. -/
def evictOwnNumbered (gateway : Gateway) (device : Json) : Gateway :=
  match device.integer? with
  | some device => gateway.evictOwn device
  | none => gateway

/-! ## Devices -/

/-- A change of the store, as a part of what the gateway does. -/
def ofStore {α : Type} (gateway : Gateway) (change : Except Store.Fault (α × Store)) :
    Except Fault (α × Gateway) :=
  match change with
  | .ok (value, store) => .ok (value, { gateway with store })
  | .error fault => .error (.store fault)

/-- Creates a device. The form comes out with the number of the device. -/
def createDevice (gateway : Gateway) (change : DeviceChange) :
    Except Fault (DeviceForm × Gateway) := do
  let (form, gateway) ← gateway.ofStore (gateway.store.createDevice gateway.clock.now change)
  return (form, gateway.evictNumbered form.id)

/-- A column of the store, as a part of what the gateway does. -/
def ofColumn {α : Type} (value : Except Column.Fault α) : Except Fault α :=
  value.mapError fun fault => .store (.column fault)

/-- The device whose identifier a value is. No device has the identifier null. -/
def deviceOf (gateway : Gateway) (uniqueId : Json) : Except Fault (Row Device) := do
  match (← ofColumn (Column.text uniqueId)).bind gateway.store.deviceOf? with
  | some row => return row
  | none => throw .noSuchRow

/-- Changes the device of an identifier. -/
def updateDevice (gateway : Gateway) (uniqueId : Json) (change : DeviceChange) :
    Except Fault (DeviceForm × Gateway) := do
  let row ← gateway.deviceOf uniqueId
  let (form, gateway) ← gateway.ofStore (gateway.store.updateDevice gateway.clock.now row change)
  return (form, gateway.evictNumbered form.id)

/-- Changes the device of an identifier in the store alone, where there is one. Its sessions stay.
    The number of changed devices comes out. -/
def overwriteDevice (gateway : Gateway) (uniqueId : Json) (change : DeviceChange) :
    Except Fault (Nat × Gateway) := do
  match (← ofColumn (Column.text uniqueId)).bind gateway.store.deviceOf? with
  | none => return (0, gateway)
  | some row =>
    if change = {} then return (0, gateway)
    else gateway.ofStore ((gateway.store.overwriteDevice gateway.clock.zone row change).map (1, ·))

/-- Deletes the device of an identifier with everything that belongs to it. -/
def deleteDevice (gateway : Gateway) (uniqueId : Json) : Except Fault Gateway := do
  let row ← gateway.deviceOf uniqueId
  return { gateway with store := gateway.store.deleteDevice row.id }.evict row.id

/-- Keeps a notification token of a device, which loses its sessions if the token is new. -/
def registerToken (gateway : Gateway) (device : Int) (token : Json) : Except Fault Gateway :=
  match gateway.store.addToken gateway.clock.now device token with
  | .unchanged => .ok gateway
  | .added store => .ok ({ gateway with store }.evict device)
  | .noItems => .error .tokensWithoutItems
  | .noAttributes => .error .noAttributes
  | .notStrict => .error (.store .notStrict)

/-- Keeps a notification token of the device whose number a value is. There is no device of null or
    of a number that cannot be kept. -/
def registerTokenOf (gateway : Gateway) (device token : Json) : Except Fault Gateway := do
  match ← ofColumn (Column.integer "id" device) with
  | some device => gateway.registerToken device token
  | none => return gateway

/-! ## Commands -/

/-- Queues a command for a device. -/
def queueCommand (gateway : Gateway) (form : Store.CommandForm) :
    Except Fault (Row Command × Gateway) := do
  let command ← form.toCommand.mapError Fault.store
  gateway.ofStore (gateway.store.queueCommand command)

/-- The most commands that are taken, out of a value: all of them for null, and not fewer than
    none. -/
def readCount : Json → Except Fault (Option Nat)
  | .null => .ok none
  | .int count => if count < 0 then .error .negativeCount else .ok (some count.toNat)
  | .bool count => .ok (some (if count then 1 else 0))
  | .float .nan => .error .noCount
  | .float count =>
    if count.isNonnegative then
      match count.truncate? with
      | some count => .ok (some count.toNat)
      | none => .error (.store (.column .tooLarge))
    else .error .negativeCount
  | _ => .error (.store (.column .wrongKind))

/-- Takes commands of a device out of the queue. -/
def takeCommands (gateway : Gateway) (device count : Json) :
    Except Fault (List (Row Command) × Gateway) := do
  let device ← ofColumn (Column.integer "id" device)
  let count ← readCount count
  if count = some 0 then return ([], gateway)
  let device ← (Store.bounded? device).mapError Fault.store
  if count.any (Column.integerLimit ≤ ·) then throw (.store .countTooLarge)
  match device with
  | some device =>
    let (taken, store) := gateway.store.takeCommands device count
    return (taken, { gateway with store })
  | none => return ([], gateway)

/-- Queues the command that a command line asks for, and tells so. -/
def runConsole (gateway : Gateway) (arguments : List String) : Except Fault (String × Gateway) := do
  let order ← (Console.read arguments).mapError .console
  match gateway.store.deviceOf? order.uniqueId with
  | none => throw (.unknownDevice order.uniqueId)
  | some device =>
    let (row, gateway) ← gateway.queueCommand {
      device := .int device.id
      type := order.type.getD (.text customType)
      payload := order.payload
      createdAt := gateway.clock.now }
    return ("Queued command " ++ Number.decimal row.id ++ " for " ++ device.value.title ++ "\n",
      gateway)

/-! ## Positions -/

/-- A change of the store, as a part of a deed. -/
def change {α : Type} (act : Store → Except Store.Fault (α × Store)) : Deed α :=
  fun (gateway, outbox) =>
    match act gateway.store with
    | .ok (value, store) => (.ok value, ({ gateway with store }, outbox))
    | .error fault => (.error (.store fault), (gateway, outbox))

/-- Sends a message to a group, which fails if the layer does not take it. -/
def send (group : String) (message : Stream.Message) : Deed Unit :=
  fun (gateway, outbox) =>
    if gateway.layer.takes outbox.length then
      (.ok (), (gateway, outbox ++ [(group, message)]))
    else (.error (.unsent group), (gateway, outbox))

/-- Sends the messages of a position one after the other, where there is a layer. The first one that
    is not taken is the last one that is sent. -/
def broadcast (position : Position) : Deed Unit := do
  let (gateway, _) ← get
  if gateway.layer ≠ .absent then
    (Stream.publication position).forM fun (group, message) => send group message

/-- Sends the messages of a position that is stored, if messages are to be sent. Whatever fails in
    that is caught, and concerns the position no more. -/
def announce (position : Position) : Deed Unit := do
  let (gateway, _) ← get
  if gateway.settings.broadcast then
    try broadcast position catch _ => pure ()

/-- Stores a position in one way or another, and announces it as soon as it is stored. The messages
    show the position as it came. The number of its location comes out. -/
def keepPosition (store : Store → Position → Except Store.Fault (Store.Stored × Store))
    (position : Position) : Deed Int := do
  let stored ← change fun before => store before position
  announce stored.handedIn
  return stored.row.id

/-- Stores a position of a device that exists, and announces it. -/
def storePosition (gateway : Gateway) (position : Position) : Outcome Int :=
  (keepPosition Store.storePosition position).outcome gateway

/-- The newest position of the device whose number a value is. -/
def newestOf (gateway : Gateway) (device : Json) : Except Fault (Option Position) := do
  let device ← ofColumn (Column.integer "id" device)
  match ← (Store.bounded? device).mapError Fault.store with
  | some device => return gateway.store.newest? device
  | none => return none

/-- Changes whether the location whose number a value is is valid. No message is sent. -/
def setValid (gateway : Gateway) (id valid : Json) : Except Fault Gateway := do
  match (← ofColumn (Column.integer "id" id)).bind gateway.store.locations.find? with
  | some row => do
    let store ← (gateway.store.setValid row valid).mapError Fault.store
    return { gateway with store }
  | none => throw .noSuchRow

end Gateway

end Telematics
