import Telematics.Store.Devices

/-!
Sessions: which device an identifier on the wire belongs to. A session that was found is kept, so
that the next report of the device needs no look into the store. A device that is disabled has no
session, and neither has an unknown one unless unknown devices are registered.

* `Sessions.find?`: the first identifier with a kept session decides.
* `openSession`: a kept session, or a new one from the store.
* `Sessions.evict`: a device that was changed loses its sessions.
-/

namespace Telematics

open Calendar (Moment)

/-- The session of a device: the protocol and the address of the report that opened it, null where
    they are not known. -/
structure Session where
  device : Int
  uniqueId : String
  protocol : Json
  remote : Json
deriving DecidableEq, Repr

/-- The sessions that are kept, by the identifier of their device. -/
abbrev Sessions := List (String × Session)

namespace Sessions

/-- The session of the first identifier that has one. -/
def find? (sessions : Sessions) (identifiers : List String) : Option Session :=
  identifiers.findSome? fun identifier => sessions.lookup identifier

/-- Keeps a session. -/
def put (sessions : Sessions) (session : Session) : Sessions :=
  (session.uniqueId, session) :: sessions.filter (·.1 ≠ session.uniqueId)

/-- Drops the sessions of a device. -/
def evict (sessions : Sessions) (device : Int) : Sessions :=
  sessions.filter (·.2.device ≠ device)

theorem mem_evict {sessions : Sessions} {device : Int} {entry : String × Session} :
    entry ∈ sessions.evict device ↔ entry ∈ sessions ∧ entry.2.device ≠ device := by
  simp [evict]

theorem mem_put {sessions : Sessions} {session : Session} {entry : String × Session} :
    entry ∈ sessions.put session ↔
      entry = (session.uniqueId, session) ∨ entry ∈ sessions ∧ entry.1 ≠ session.uniqueId := by
  simp [put]

end Sessions

/-- The device of the first identifier that is known. -/
def Store.firstKnown? (store : Store) (identifiers : List String) : Option (Row Device) :=
  identifiers.findSome? store.deviceOf?

/-- Registers an unknown device, which is named by its identifier. A device has to have a
    protocol. -/
def Store.register (store : Store) (now : Moment) (protocol : Json) (uniqueId : String) :
    Except Store.Fault (Row Device × Store) := do
  let protocol ← Store.ofColumn (Column.text protocol)
  let id ← store.deviceNumber none
  let device : Device := {
    name := uniqueId, uniqueId
    protocol := ← Store.required protocol
    status := activeStatus, attributes := .object [], createdAt := now, updatedAt := now }
  return (⟨id, device⟩, { store with devices := store.devices.put id device })

/-- What looking for a session gives: the session, the store with a device that was registered, and
    that device. -/
structure Lookup where
  session : Option Session
  store : Store
  /-- The number of the device that was registered. -/
  registered : Option Int := none
deriving DecidableEq, Repr

/-- The session of a device, unless it is disabled. -/
def sessionOf? (protocol remote : Json) (row : Row Device) : Option Session :=
  if row.value.isEnabled then some ⟨row.id, row.value.uniqueId, protocol, remote⟩ else none

/-- The session of the first known identifier in the store. If there is none, the first identifier
    is registered, where unknown devices are. -/
def lookUp (store : Store) (now : Moment) (registers : Bool) (protocol remote : Json)
    (identifiers : List String) : Except Store.Fault Lookup :=
  match store.firstKnown? identifiers, identifiers with
  | some row, _ => .ok ⟨sessionOf? protocol remote row, store, none⟩
  | none, identifier :: _ =>
    if registers then do
      let (row, store) ← store.register now protocol identifier
      return ⟨sessionOf? protocol remote row, store, some row.id⟩
    else .ok ⟨none, store, none⟩
  | none, [] => .ok ⟨none, store, none⟩

end Telematics
