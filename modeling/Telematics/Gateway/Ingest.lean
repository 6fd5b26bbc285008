import Telematics.Gateway.Basic
import Telematics.Report.Basic

/-!
The entry of reports. A report is decoded and its position stored as one change of the store: either
all of it is kept, or the store is as before. What happens to sessions stays in any case, and
messages that were sent stay sent.

Messages are sent when the position is stored, as a part of the change and before it is completed: a
failure of sending them that were not caught would undo the report. Completing the change fails if
the position belongs to no device.

* `services`: the services for decoding, which act on the gateway.
* `ingest`: the answer to a report, the messages, and the gateway afterwards.
-/

namespace Telematics.Gateway

open Calendar (Clock)

/-- The address that a report comes from, null if it is not known. -/
def addressJson : Option String → Json
  | some address => .text address
  | none => .null

/-- The services for decoding, which act on the gateway. -/
def services : Report.Services Fault Gateway where
  findDevice protocol remote identifiers := fun gateway =>
    match gateway.findSession protocol (addressJson remote) identifiers with
    | .ok (session, gateway) => (.ok (session.map (·.device)), gateway)
    | .error fault => (.error fault, gateway)
  registerToken device token := fun gateway =>
    match gateway.registerToken device (.text token) with
    | .ok gateway => (.ok (), gateway)
    | .error fault => (.error fault, gateway)
  lastPosition device := fun gateway => (.ok (gateway.store.newest? device), gateway)
  takeCommands device count := fun gateway =>
    let (taken, store) := gateway.store.takeCommands device (some count)
    (.ok (taken.map (·.value.payload)), { gateway with store })
  complaint? := Fault.complaint?

/-- The decoder, made with the settings if there is none yet. -/
def makeDecoder (gateway : Gateway) : Except Report.UnsupportedUnit Report.Decoder :=
  match gateway.decoder with
  | some decoder => .ok decoder
  | none => Report.Decoder.make gateway.settings.protocol gateway.settings.speedUnit

/-- The later gateway with its store as it was before. -/
def rollBack (before after : Gateway) : Gateway := { after with store := before.store }

/-- The result of a report that is not decoded. -/
def failureResult : Report.Failure Fault → Except Fault Http.Response
  | .rejected _ => .ok (.empty 400)
  | .tooManyFields => .ok (.page 400)
  | .bodyTooLong => .ok (.page 400)
  | .tooDeep => .error .tooDeep
  | .unencodable => .error .unencodable
  | .service fault => .error fault

/-- Completes a report whose position, if it has one, is stored. -/
def complete (before after : Gateway) (outbox : Outbox) (response : Http.Response) :
    Outcome Http.Response :=
  if after.store.isConsistent then ⟨.ok response, outbox, after⟩
  else ⟨.error (.store .danglingReference), outbox, rollBack before after⟩

/-- Stores the position of a decoded report, announces it, and completes the report. If storing or
    announcing fails, the change of the store is undone. -/
def finish (before after : Gateway) (decoded : Report.Decoded) : Outcome Http.Response :=
  match decoded.position with
  | none => complete before after [] decoded.response
  | some position =>
    match keepPosition Store.addPosition position (after, []) with
    | (.ok _, after, outbox) => complete before after outbox decoded.response
    | (.error fault, after, outbox) => ⟨.error fault, outbox, rollBack before after⟩

/-- Decodes a report, stores its position and answers it. -/
def report (gateway : Gateway) (request : Http.Request) : Outcome Http.Response :=
  match gateway.makeDecoder with
  | .error fault => ⟨.error (.decoder fault), [], gateway⟩
  | .ok decoder =>
    let before := { gateway with decoder := some decoder }
    match Report.decode decoder gateway.clock services request before with
    | (.error failure, after) => ⟨failureResult failure, [], rollBack before after⟩
    | (.ok decoded, after) => finish before after decoded

/-- The methods of reports. -/
def reportMethods : List String := ["GET", "POST"]

/-- The answer to a request at the entry of reports. -/
def ingest (gateway : Gateway) (request : Http.Request) : Outcome Http.Response :=
  if reportMethods.contains request.method then gateway.report request
  else ⟨.ok (.empty 405), [], gateway⟩

end Telematics.Gateway
