import Telematics.Calendar.Zone
import Telematics.Http.Request
import Telematics.Http.Response
import Telematics.Report.Services
import Telematics.Speed

/-!
What the decoders of all wire formats share: their configuration, their result, and the last known
place that stands in for missing coordinates.

* `fillFromLast`: the eight fields that a position without coordinates takes from the last one.
-/

namespace Telematics.Report

open Calendar (Moment Clock)

/-- The configuration of a decoder: the protocol that positions are filed under, and the unit of
    the speeds of query reports. -/
structure Decoder where
  protocol : Json
  speedUnit : SpeedUnit
deriving DecidableEq, Repr

/-- The symbol of a speed unit that does not exist, for a protocol. -/
structure UnsupportedUnit where
  protocol : Json
  symbol : String
deriving DecidableEq, Repr

/-- The wording for an unsupported unit. -/
def UnsupportedUnit.message (fault : UnsupportedUnit) : String :=
  "Unsupported speed unit for " ++ fault.protocol.asText.shown ++ ": " ++ fault.symbol

/-- The decoder of a protocol and the symbol of a speed unit. -/
def Decoder.make (protocol : Json) (symbol : String) : Except UnsupportedUnit Decoder :=
  match SpeedUnit.named? symbol with
  | some unit => .ok ⟨protocol, unit⟩
  | none => .error ⟨protocol, symbol⟩

/-- What decoding a report gives: a position, if the device is known, and the response. -/
structure Decoded where
  position : Option Position
  response : Http.Response
deriving DecidableEq, Repr

/-- A report that gives no position. -/
def Decoded.refused (status : Nat) : Decoded := ⟨none, .plain status ""⟩

/-- The fix time of a device that has no stored position: 1980-01-06 00:00:19 in UTC. -/
def noFixTime : Moment := ⟨⟨⟨1980, 1, 6, by decide⟩, ⟨0, 0, 19, 0, by decide⟩⟩, .zero⟩

/-- A position without coordinates, filled from the last one: fix time, validity and all measures
    are those of the last one, and the position is marked as outdated. -/
def fillFromLast (last : Option Position) (position : Position) : Position :=
  match last with
  | some last =>
    { position with
      outdated := .bool true
      fixTime := last.fixTime
      valid := last.valid
      latitude := last.latitude
      longitude := last.longitude
      altitude := last.altitude
      speed := last.speed
      course := last.course
      accuracy := last.accuracy }
  | none => { position with outdated := .bool true, fixTime := some noFixTime }

/-- Fills a position without coordinates from the last one of its device. A position of no device
    stays as it is. -/
def fallBack {ε σ : Type} (services : Services ε σ) (device : Int) (position : Position)
    (deviceTime : Moment) : Action (Failure ε) σ Position := do
  if device = 0 then return position
  let last ← call (services.lastPosition device)
  return { fillFromLast last position with deviceTime := some deviceTime }

end Telematics.Report
