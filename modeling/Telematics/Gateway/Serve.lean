import Telematics.Gateway.Ingest
import Telematics.Text.Capital

/-!
Requests at any path.

* `canLogIn`: the session of a user can be opened.
* `serve`: the answer to a request: reports, the health of the service, the commands of a device, a
  redirection, or nothing.
-/

namespace Telematics.Gateway

open Calendar (Moment)

/-- How long the session of a user lasts, in microseconds: fourteen days. -/
def loginLife : Int := 14 * Calendar.microsPerDay

/-- A user can log in: the beginning and the end of the session are in the calendar. -/
def canLogIn (now : Moment) : Bool :=
  now.utc?.isSome &&
    ((Moment.ofInstant? (now.instant + loginLife) now.offset).bind Moment.utc?).isSome

/-- The fault of a request that is not answered. -/
def ofFailure : Api.Failure → Fault
  | .tooDeep => .tooDeep
  | .text fault => .text fault
  | .request fault => .request fault
  | .unencodable => .unencodable

/-- The answer of the interface for programs. -/
def ofAnswer (gateway : Gateway) (answer : Api.Answer) : Outcome Http.Response :=
  ⟨answer.response.mapError ofFailure, [], { gateway with store := answer.store }⟩

/-- The greatest length of a location that a response sends to. -/
def longestLocation : Nat := 16384

/-- A response that sends elsewhere, unless the location is too long. -/
def redirection (location : String) : Http.Response :=
  if longestLocation < location.length then .page 400
  else { Http.Response.empty 301 with location := some location }

/-- The answer to a request for a target. -/
def answer (gateway : Gateway) (request : Http.Request) : Outcome Http.Response :=
  match Api.target request with
  | .route .reports => gateway.ingest request
  | .route .health => ⟨.ok (Api.health request), [], gateway⟩
  | .route (.commands uniqueId) =>
    gateway.ofAnswer (Api.deviceCommands gateway.clock gateway.store uniqueId request)
  | .redirect location => ⟨.ok (redirection location), [], gateway⟩
  | .nothing => ⟨.ok (.page 404), [], gateway⟩

/-- A method in capital letters. -/
def methodName (method : String) : String := String.ofList (Text.upper method.toList)

/-- The answer to a request that is understood. One for the head alone has no content. -/
def serveRead (gateway : Gateway) (request : Http.Request) : Outcome Http.Response :=
  let outcome := gateway.answer request
  if request.method = "HEAD" then
    { outcome with result := outcome.result.map Http.Response.head }
  else outcome

/-- The answer to a request. A user logs in first. -/
def serve (gateway : Gateway) (raw : Http.RawRequest) : Outcome Http.Response :=
  if raw.loggedIn && !canLogIn gateway.clock.now then ⟨.error .endlessLogin, [], gateway⟩
  else
    match Http.RawRequest.read { raw with method := methodName raw.method } with
    | .ok request => gateway.serveRead request
    | .error fault => ⟨.error (.request fault), [], gateway⟩

end Telematics.Gateway
