import Telematics.Http.Form
import Telematics.Stream.Message
import Telematics.Text.Digit

/-!
Opening a connection to the stream of positions. A user is admitted to the group of one device, if
the query names one, or to the group of the fleet.

* `subscribe`: what happens to a connection that is opened: it joins a group, is closed, or fails.
-/

namespace Telematics.Stream

/-- How a connection is opened. -/
structure Opening where
  path : String := "/ws/positions/"
  query : List UInt8 := []
  /-- The connection comes with the session of a user. -/
  byUser : Bool := true
deriving DecidableEq, Repr

/-- Why a connection fails. -/
inductive Fault where
  /-- There is nothing at the path, given without slashes in front. -/
  | noRoute (path : String)
  /-- The query is not UTF-8. -/
  | query (fault : Text.TextFault)
  /-- The number of the device cannot be read. -/
  | number (fault : Number.Fault)
  /-- A text is no name of a group. -/
  | groupName (name : String)
  /-- A message has no type. -/
  | noType
  /-- The type of a message is no text. -/
  | typeNotText
  /-- The type of a message begins with an underscore. -/
  | privateType
  /-- There is no handler for the type of a message. -/
  | noHandler (type : String)
  /-- The type of a message names something that is no handler. -/
  | notHandler
  /-- A message has no member that its handler needs. -/
  | noMember (key : String)
  /-- The handler of a message calls itself without end. -/
  | endless
  /-- A message has a member that is reserved for the layer that sends it. -/
  | reservedMember (key : String)
deriving DecidableEq, Repr

/-- The wording of a fault. -/
def Fault.message : Fault → String
  | .noRoute path => "No route found for path " ++ Text.quoted path ++ "."
  | .query fault => fault.message
  | .number fault => fault.message
  | .groupName name => "Not a group name: " ++ name
  | .noType => "Incoming message has no 'type' attribute"
  | .typeNotText => "The type of a message must be a text"
  | .privateType => "Malformed type in message (leading underscore)"
  | .noHandler type => "No handler for message type " ++ type
  | .notHandler => "The type of a message is the name of no handler"
  | .noMember key => "The message has no member " ++ key
  | .endless => "The message is handled without end"
  | .reservedMember key => "The member " ++ key ++ " is reserved"

/-- What happens to a connection that is opened. -/
inductive Admission where
  | joined (group : String)
  | closed
  | failed (fault : Fault)
deriving DecidableEq, Repr

/-- The path of the stream without slashes in front. -/
def streamPath : String := "ws/positions/"

/-- A path without slashes in front. -/
def withoutSlashes (path : String) : String := String.ofList (path.toList.dropWhile (· = '/'))

/-- The text of the device filter: the first value of the key that is not blank. -/
def deviceFilter? (query : List Char) : Option String :=
  (Http.readFields .utf8 false query).toOption.bind (·.lookup "device")

/-- The admission to a group, if it can have its name. -/
def joinGroup (name : String) : Admission :=
  if isGroupName name then .joined name else .failed (.groupName name)

/-- The admission of a user for a device filter. A filter that is not all digits is refused. -/
def admission : Option String → Admission
  | none => .joined fleetGroup
  | some filter =>
    if filter ≠ "" && filter.toList.all Text.isDigit then
      match Number.readInteger filter with
      | .ok device => joinGroup (deviceGroup (.int device))
      | .error fault => .failed (.number fault)
    else .closed

/-- What happens to a connection that is opened. -/
def subscribe (opening : Opening) : Admission :=
  let path := withoutSlashes opening.path
  if path ≠ streamPath then .failed (.noRoute path)
  else if !opening.byUser then .closed
  else match Text.readUtf8 opening.query with
    | .ok query => admission (deviceFilter? query)
    | .error fault => .failed (.query fault)

end Telematics.Stream
