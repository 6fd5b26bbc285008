import Telematics.Api.Route
import Telematics.Api.Validation
import Telematics.Calendar.Zone
import Telematics.Http.Response
import Telematics.Store.Commands

/-!
The interface for programs: whether the service is up, and the commands of a device, which are
listed and queued here. Only users may see or queue commands.

A request may ask for the format of the response, which is settled before anything else. Then the
request is checked for the user, for its method and for the device, and its body is read last.

* `rendering`: the format that a request asks for.
* `forgery?`, `anonymous?`: who is refused whatever is asked for.
* `health`, `deviceCommands`: the responses, and the store afterwards.
-/

namespace Telematics.Api

open Calendar (Clock Moment)

/-- A refusal with a reason. -/
def refusal (status : Nat) (detail : String) : Http.Response :=
  .json status (.object [("detail", .text detail)])

/-- A failure with a reason. -/
def failed (status : Nat) (error : Json) : Http.Response :=
  .json status (.object [("ok", .bool false), ("error", error)])

/-- How a response is written: as a JSON document, or as a page that shows it. -/
inductive Rendering where
  | document
  | page
deriving DecidableEq, Repr

/-- A response as it is written. -/
def Rendering.write : Rendering → Http.Response → Http.Response
  | .document, response => response
  | .page, response => .page response.status

/-- The field that asks for a format. -/
def formatKey : String := "format"

/-- How the response to a request is written, or the refusal of a request that asks for something
    else. -/
def rendering (request : Http.Request) : Except Http.Response Rendering :=
  match request.fields.toOption with
  | none => .error (.page 400)
  | some fields =>
    match Http.lastValue? fields formatKey with
    | none | some "" | some "json" => .ok .document
    | some "api" => .ok .page
    | some _ => .error (refusal 404 "Not found.")

/-- The methods that change nothing, and are not checked for forgery. -/
def safeMethods : List String := ["GET", "HEAD", "OPTIONS", "TRACE"]

/-- The refusal of a request that comes with a user but without proof against forgery. -/
def forgery? (request : Http.Request) : Option Http.Response :=
  if request.loggedIn && request.unproven && !safeMethods.contains request.method then
    some (refusal 403 "CSRF Failed: CSRF cookie not set.")
  else none

/-- The refusal of a request that comes without a user. -/
def anonymous? (request : Http.Request) : Option Http.Response :=
  if request.loggedIn then none
  else some (refusal 403 "Authentication credentials were not provided.")

/-- The refusal of a method. -/
def notAllowed (request : Http.Request) : Http.Response :=
  refusal 405 ("Method \"" ++ request.method ++ "\" not allowed.")

/-- What is told about a route. -/
def description (name text : String) : Http.Response :=
  .json 200 (.object [
    ("name", .text name),
    ("description", .text text),
    ("renders", .list [.text "application/json", .text "text/html"]),
    ("parses", .list [.text "application/json", .text "application/x-www-form-urlencoded",
      .text "multipart/form-data"])])

/-- The health of the service, for a request in a format that there is. -/
def healthOf (request : Http.Request) : Http.Response :=
  match forgery? request with
  | some response => response
  | none =>
    match request.method with
    | "GET" | "HEAD" =>
      .json 200 (.object [("ok", .bool true), ("service", .text "Fleet Gateway API"),
        ("version", .text "v1")])
    | "OPTIONS" => description "Health Check" ""
    | _ => notAllowed request

/-- The health of the service. -/
def health (request : Http.Request) : Http.Response :=
  match rendering request with
  | .error response => response
  | .ok rendering => rendering.write (healthOf request)

/-- The written form of a time; the offset of UTC is written as the letter Z. -/
def timeText (time : Moment) : String :=
  let written := time.toText.toList
  let utc := "+00:00".toList
  if utc.isSuffixOf written then String.ofList (written.take (written.length - utc.length) ++ ['Z'])
  else String.ofList written

/-- A payload as it is shown: null, or its text. -/
def shownPayload : Json → Json
  | .null => .null
  | value => .text value.asText

/-- A command of a device, as it is shown on the clock of the zone, if the calendar has it there. -/
def commandJson? (clock : Clock) (uniqueId : String) (row : Row Command) : Option Json :=
  (clock.zone.at? row.value.createdAt).map fun createdAt =>
    .object [
      ("id", .int row.id),
      ("device", .text uniqueId),
      ("type", .text row.value.type),
      ("payload", shownPayload row.value.payload),
      ("created_at", .text (timeText createdAt))]

/-- A time cannot be shown. -/
def timeOutOfRange : Http.Response := .json 400 (.list [.text "Datetime value out of range."])

/-- There is no device of the identifier. -/
def deviceNotFound : Http.Response := failed 404 (.text "device_not_found")

/-- The wording of a fault of a document. -/
def documentMessage : Json.Fault → String
  | .complaint what place => Json.complaintText what place
  | .number fault => fault.message
  | .constant name => "Out of range float values are not JSON compliant: " ++ Text.quoted name
  | .tooDeep => "nested too deeply"

/-- Why a request is not answered at all. -/
inductive Failure where
  /-- A document is nested too deeply. -/
  | tooDeep
  /-- The encoding of a form in parts refuses a text. -/
  | text (fault : Text.TextFault)
  | request (fault : Http.RequestFault)
  /-- The content of the response has no UTF-8 form. -/
  | unencodable
deriving DecidableEq, Repr

/-- The commands that wait for a device. A payload that is shown is sent as UTF-8. -/
def listCommands (clock : Clock) (store : Store) (device : Row Device) :
    Except Failure Http.Response :=
  let waiting := store.pending device.id
  match waiting.mapM (commandJson? clock device.value.uniqueId) with
  | some commands =>
    if waiting.all fun row => row.value.payload.asText.whole?.isSome then
      .ok (.json 200 (.object [("ok", .bool true), ("commands", .list commands)]))
    else .error .unencodable
  | none => .ok timeOutOfRange

/-- The answer to a body that cannot be read. -/
def bodyRefusal : BodyFault → Except Failure Http.Response
  | .unsupportedType contentType =>
    .ok (refusal 415 ("Unsupported media type \"" ++ contentType ++ "\" in request."))
  | .unsupportedCharset name =>
    .ok (refusal 400 ("Unsupported charset \"" ++ name ++ "\" in request Content-Type header."))
  | .undecodable (.text .broken) => .error (.request (.fields .broken))
  | .undecodable fault => .ok (refusal 400 ("JSON parse error - " ++ fault.message))
  | .malformed .tooDeep => .error .tooDeep
  | .malformed fault => .ok (refusal 400 ("JSON parse error - " ++ documentMessage fault))
  | .multipart (.header fault) => .error (.request (.header fault))
  | .multipart (.text fault) => .error (.text fault)
  | .multipart fault => .ok (refusal 400 ("Multipart form parse error - " ++ fault.message))
  | .tooLarge => .ok (.page 400)
  | .fields .tooManyFields => .ok (.page 400)
  | .fields .unreadableField => .ok (.page 400)
  | .fields fault => .error (.request (.fields fault))

/-- An answer: the response, if there is one, and the store afterwards. -/
structure Answer where
  response : Except Failure Http.Response
  store : Store

/-- The problems of a new command, as they are shown. -/
def problemsJson (problems : Problems) : Json :=
  .object (problems.map fun (key, texts) =>
    (key, .list (texts.map fun (text : String) => .text text)))

/-- Queues a new command for a device of the store. Its payload is a text, which is strict JSON. -/
def queueNew (clock : Clock) (store : Store) (device : Row Device) (new : NewCommand) : Answer :=
  let (row, store) := store.addCommand
    ⟨device.id, new.type.getD customType, .text new.payload, clock.now⟩
  match commandJson? clock device.value.uniqueId row with
  | some command =>
    ⟨.ok (.json 201 (.object [("ok", .bool true), ("command", command)])), store⟩
  | none => ⟨.ok timeOutOfRange, store⟩

/-- Queues the command in the body of a request. -/
def postCommand (clock : Clock) (store : Store) (device : Row Device) (request : Http.Request) :
    Answer :=
  match readBody request with
  | .error fault => ⟨bodyRefusal fault, store⟩
  | .ok body =>
    match NewCommand.check body with
    | .error problems => ⟨.ok (failed 400 (problemsJson problems)), store⟩
    | .ok new => queueNew clock store device new

/-- The commands of a device, for a user. -/
def commands (clock : Clock) (store : Store) (uniqueId : String) (request : Http.Request) :
    Answer :=
  match request.method with
  | "GET" | "HEAD" =>
    match store.deviceOf? uniqueId with
    | some device => ⟨listCommands clock store device, store⟩
    | none => ⟨.ok deviceNotFound, store⟩
  | "POST" =>
    match store.deviceOf? uniqueId with
    | some device => postCommand clock store device request
    | none => ⟨.ok deviceNotFound, store⟩
  | "OPTIONS" =>
    ⟨.ok (description "Device Commands" ("Pending commands of a device. Queued commands are " ++
      "delivered, and removed,\nwith the device's next OsmAnd report.")), store⟩
  | _ => ⟨.ok (notAllowed request), store⟩

/-- The commands of a device: anonymous and forged requests are refused whatever they ask for. -/
def commandsFor (clock : Clock) (store : Store) (uniqueId : String) (request : Http.Request) :
    Answer :=
  match forgery? request with
  | some response => ⟨.ok response, store⟩
  | none =>
    match anonymous? request with
    | some response => ⟨.ok response, store⟩
    | none => commands clock store uniqueId request

/-- The commands of a device, in the format that is asked for. -/
def deviceCommands (clock : Clock) (store : Store) (uniqueId : String) (request : Http.Request) :
    Answer :=
  match rendering request with
  | .error response => ⟨.ok response, store⟩
  | .ok rendering =>
    let answer := commandsFor clock store uniqueId request
    { answer with response := answer.response.map rendering.write }

end Telematics.Api
