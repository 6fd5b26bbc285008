import Telematics.Json.Basic

/-!
Radio observations: the cell towers and the wireless access points that a device sees around it.

The parts of an entry are any values: a report gives integers and an address, but observations that
are handed in as documents are kept as they are. A list without entries is written as null, and so a
network with no observation at all is written with both lists null.

* `Network.read_toMembers`: reading a written network gives it back.
-/

namespace Telematics

/-- A cell tower, and the strength of its signal where it is known. -/
structure CellTower where
  mobileCountryCode : Json
  mobileNetworkCode : Json
  locationAreaCode : Json
  cellId : Json
  signalStrength : Json := .null
deriving DecidableEq, Repr

/-- A wireless access point. -/
structure AccessPoint where
  macAddress : Json
  signalStrength : Json
deriving DecidableEq, Repr

/-- Radio observations, each list in the order of observation. -/
structure Network where
  cellTowers : List CellTower := []
  accessPoints : List AccessPoint := []
deriving DecidableEq, Repr

/-- A document that is no network: an entry is no object, or its members are not those of an
    entry. -/
inductive Network.Fault where
  | entry
deriving DecidableEq, Repr

namespace Network

/-- Adds a tower behind the others. -/
def addCellTower (network : Network) (tower : CellTower) : Network :=
  { network with cellTowers := network.cellTowers ++ [tower] }

/-- Adds an access point behind the others. -/
def addAccessPoint (network : Network) (point : AccessPoint) : Network :=
  { network with accessPoints := network.accessPoints ++ [point] }

/-- There is an observation. -/
def hasEntries (network : Network) : Bool :=
  !network.cellTowers.isEmpty || !network.accessPoints.isEmpty

end Network

/-- The written form of a tower. -/
def CellTower.toJson (tower : CellTower) : Json :=
  .object [
    ("mobile_country_code", tower.mobileCountryCode),
    ("mobile_network_code", tower.mobileNetworkCode),
    ("location_area_code", tower.locationAreaCode),
    ("cell_id", tower.cellId),
    ("signal_strength", tower.signalStrength)]

/-- The written form of an access point. -/
def AccessPoint.toJson (point : AccessPoint) : Json :=
  .object [
    ("mac_address", point.macAddress),
    ("signal_strength", point.signalStrength)]

namespace Network

/-- A list of written entries, null if there is none. -/
def listJson : List Json → Json
  | [] => .null
  | entries => .list entries

/-- The members of a written network. -/
def toMembers (network : Network) : Json.Members := [
  ("cell_towers", listJson (network.cellTowers.map CellTower.toJson)),
  ("wifi_access_points", listJson (network.accessPoints.map AccessPoint.toJson))]

/-- The written form of a network. -/
def toJson (network : Network) : Json := .object network.toMembers

/-- A member that has to be there. -/
def requiredMember (members : Json.Members) (key : String) : Except Fault Json :=
  match members.get? key with
  | some value => .ok value
  | none => .error .entry

/-- The members of an entry, if all their keys are known. -/
def entryMembers (known : List Letters) : Json → Except Fault Json.Members
  | .object members =>
    if members.all fun (key, _) => known.contains key then .ok members else .error .entry
  | _ => .error .entry

end Network

/-- Reads a written tower. Its strength may be missing. -/
def CellTower.read (entry : Json) : Except Network.Fault CellTower := do
  let members ← Network.entryMembers ["mobile_country_code", "mobile_network_code",
    "location_area_code", "cell_id", "signal_strength"] entry
  return {
    mobileCountryCode := ← Network.requiredMember members "mobile_country_code"
    mobileNetworkCode := ← Network.requiredMember members "mobile_network_code"
    locationAreaCode := ← Network.requiredMember members "location_area_code"
    cellId := ← Network.requiredMember members "cell_id"
    signalStrength := (members.get? "signal_strength").getD .null }

/-- Reads a written access point. -/
def AccessPoint.read (entry : Json) : Except Network.Fault AccessPoint := do
  let members ← Network.entryMembers ["mac_address", "signal_strength"] entry
  return {
    macAddress := ← Network.requiredMember members "mac_address"
    signalStrength := ← Network.requiredMember members "signal_strength" }

/-- A cell tower of its parts in order: four of them, or five with the strength. -/
def CellTower.ofParts : List Json → Except Network.Fault CellTower
  | [country, network, area, cell] => .ok ⟨country, network, area, cell, .null⟩
  | [country, network, area, cell, signal] => .ok ⟨country, network, area, cell, signal⟩
  | _ => .error .entry

/-- An access point of its parts in order: an address and a strength. -/
def AccessPoint.ofParts : List Json → Except Network.Fault AccessPoint
  | [address, signal] => .ok ⟨address, signal⟩
  | _ => .error .entry

namespace Network

/-- The entries under a key. Null, an empty value and a missing key have none. -/
def entriesOf (members : Json.Members) (key : String) : Except Fault (List Json) :=
  match members.get? key with
  | none => .ok []
  | some (.list entries) => .ok entries
  | some value => if value.isTruthy then .error .entry else .ok []

/-- Reads a written network. -/
def read (members : Json.Members) : Except Fault Network := do
  let towers ← (← entriesOf members "cell_towers").mapM CellTower.read
  let points ← (← entriesOf members "wifi_access_points").mapM AccessPoint.read
  return ⟨towers, points⟩

end Network

theorem CellTower.read_toJson (tower : CellTower) : CellTower.read tower.toJson = .ok tower := rfl

theorem AccessPoint.read_toJson (point : AccessPoint) :
    AccessPoint.read point.toJson = .ok point := rfl

namespace Network

theorem mapM_read_map {α : Type} {read : Json → Except Fault α} {write : α → Json}
    (inverse : ∀ entry, read (write entry) = .ok entry) (entries : List α) :
    (entries.map write).mapM read = .ok entries := by
  induction entries with
  | nil => rfl
  | cons entry rest ih => simp [List.mapM_cons, inverse, ih, bind, Except.bind, pure, Except.pure]

theorem entriesOf_listJson (members : Json.Members) (key : String) (entries : List Json)
    (found : members.get? key = some (listJson entries)) :
    entriesOf members key = .ok entries := by
  cases entries with
  | nil => simp [entriesOf, found, listJson, Json.isTruthy]
  | cons entry rest => simp [entriesOf, found, listJson]

/-- Reading a written network gives it back. -/
theorem read_toMembers (network : Network) : read network.toMembers = .ok network := by
  have towers := entriesOf_listJson network.toMembers "cell_towers" _ rfl
  have points := entriesOf_listJson network.toMembers "wifi_access_points" _ rfl
  simp [read, towers, points, mapM_read_map CellTower.read_toJson,
    mapM_read_map AccessPoint.read_toJson, bind, Except.bind, pure, Except.pure]

end Network

end Telematics
