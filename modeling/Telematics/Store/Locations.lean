import Telematics.Store.Basic

/-!
Locations in the store. The newest location of a device is the one with the greatest fix time; one
without fix time is older than all others, and of two with one fix time the later stored is newer.

* `Store.addPosition`: stores a position.
* `Store.newest?`: the newest position of a device.
-/

namespace Telematics.Store

/-- The instant of a fix time, none before all. -/
def fixInstant (row : Row Location) : Option Int := row.value.fixTime.map (·.instant)

/-- One optional instant is after another; none is before all. -/
def isAfter : Option Int → Option Int → Bool
  | some one, some other => one > other
  | some _, none => true
  | none, _ => false

/-- One row is newer than another: by fix time, then by number. -/
def isNewer (one other : Row Location) : Bool :=
  isAfter (fixInstant one) (fixInstant other) ||
    (fixInstant one = fixInstant other && one.id > other.id)

/-- The newer of two rows. -/
def newer (one other : Row Location) : Row Location := if isNewer other one then other else one

/-- The newest of rows. -/
def newestOf? : List (Row Location) → Option (Row Location)
  | [] => none
  | row :: rest => some (rest.foldl newer row)

/-- The locations of a device. -/
def locationsOf (store : Store) (device : Int) : List (Row Location) :=
  store.locations.rows.filter (·.value.device = device)

/-- The newest position of a device, read back. -/
def newest? (store : Store) (device : Int) : Option Position :=
  (newestOf? (store.locationsOf device)).map (·.value.toPosition)

/-- How a coordinate is shown. -/
def coordinateText : Option Binary64 → String
  | some value => value.toText
  | none => "None"

/-- How a location is shown: the name of its device, and its coordinates. -/
def locationTitle (store : Store) (location : Location) : String :=
  ((store.device? location.device).map (·.value.name)).getD "" ++ " at (" ++
    coordinateText location.latitude ++ ", " ++ coordinateText location.longitude ++ ")"

/-- The store with a new location, and the row of the location. -/
def addLocation (store : Store) (location : Location) : Row Location × Store :=
  (⟨store.locations.nextId, location⟩, { store with locations := store.locations.insert location })

/-- A position that was stored: the row of its location, and the position as it was handed in, with
    its attributes as members. -/
structure Stored where
  row : Row Location
  handedIn : Position
deriving DecidableEq, Repr

/-- Stores a position. Whether its device exists is not checked here. -/
def addPosition (store : Store) (position : Position) : Except Fault (Stored × Store) := do
  let (position, attributes) ← position.withMembers
  let (row, store) := store.addLocation (← Location.ofPosition position attributes)
  return (⟨row, position⟩, store)

/-- Stores a position of a device that exists. -/
def storePosition (store : Store) (position : Position) : Except Fault (Stored × Store) := do
  let (stored, store) ← store.addPosition position
  if store.hasDevice stored.row.value.device then return (stored, store)
  else throw .danglingReference

/-- Changes whether a location is valid. -/
def setValid (store : Store) (row : Row Location) (valid : Json) : Except Fault Store := do
  let valid ← required (← ofColumn (Column.flag valid))
  return { store with locations := store.locations.set row.id { row.value with valid } }

/-- All locations, newest first. -/
def newestFirst (store : Store) : List (Row Location) :=
  store.locations.rows.mergeSort fun one other => !isNewer other one

/-- One device is listed before another: by name, then by number. -/
def isListedBefore (one other : Row Device) : Bool :=
  one.value.name < other.value.name || (one.value.name = other.value.name && one.id ≤ other.id)

/-- All devices in the order of listing. -/
def listedDevices (store : Store) : List (Row Device) :=
  store.devices.rows.mergeSort isListedBefore

end Telematics.Store
