import Telematics.Json.Printer
import Telematics.Position.Basic
import Telematics.Text.Digit
import Telematics.Text.Split

/-!
What is sent to the listeners of positions. A stored position is published in two groups, the one of
its device and the one of the whole fleet, and a listener is a member of one group.

* `deviceGroup`, `fleetGroup`: the names of the groups.
* `publication`: the groups and the message of a stored position.
* `frame`: the text that a listener is sent for a message.
-/

namespace Telematics.Stream

/-- A message to a group. -/
abbrev Message := Json.Members

/-- The group of a device, whose number may be any value. -/
def deviceGroup (device : Json) : String := "device_" ++ device.asText.shown

/-- The group of the whole fleet. -/
def fleetGroup : String := "positions"

/-- The type of the messages that hold a position. -/
def positionType : String := "position_update"

/-- The message of a position. -/
def positionMessage (position : Position) : Message := [
  ("type", .text positionType),
  ("device_id", position.deviceId),
  ("data", position.toJson)]

/-- The messages of a stored position with their groups: the device first, then the fleet. -/
def publication (position : Position) : List (String × Message) :=
  [(deviceGroup position.deviceId, positionMessage position),
    (fleetGroup, positionMessage position)]

/-- The greatest length of a group name. -/
def groupNameLimit : Nat := 99

/-- A character of a group name: an ASCII letter, a digit of any script, a dash, an underscore or a
    point. -/
def isGroupNameChar (c : Char) : Bool :=
  c.isAlpha || Text.isDecimal c || "-_.".toList.contains c

/-- A text is the name of a group: characters of group names, at least one, and perhaps a line feed
    behind them. -/
def isGroupName (name : String) : Bool :=
  let chars := Text.withoutLineEnd name.toList
  name.length ≤ groupNameLimit && chars ≠ [] && chars.all isGroupNameChar

/-- The document that a listener is sent for a message: the device and the position. A position
    that is missing or empty is an empty object. -/
def frameDocument (message : Message) : Json :=
  let data := (message.get? "data").getD .null
  .object [
    ("type", .text positionType),
    ("device_id", (message.get? "device_id").getD .null),
    ("position", if data.isTruthy then data else .object [])]

/-- The text that a listener is sent for a message. -/
def frame (message : Message) : String := (frameDocument message).render

end Telematics.Stream
