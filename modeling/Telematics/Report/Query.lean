import Telematics.Http.Form
import Telematics.Report.Attribute
import Telematics.Report.Decoder

/-!
Reports as flat parameters, in the query string of a request or as a form in its body.

Each parameter is first read on its own into an `Entry`, which may fail, and then added to the draft
of a position, which cannot. Only identifiers and notification tokens call a service. Parameters
are handled key by key in the order in which the keys occur first.

* `readEntry`: what a parameter says.
* `Draft.add`: what an entry does to the draft.
* `decodeFields`: the position of a list of parameters.
-/

namespace Telematics.Report

open Calendar (Moment Clock)

/-- What a parameter says about the position. -/
inductive Detail where
  | valid (value : Bool)
  | time (time : Moment)
  | latitude (value : Binary64)
  | longitude (value : Binary64)
  | place (latitude longitude : Binary64)
  | tower (tower : CellTower)
  | accessPoint (point : AccessPoint)
  /-- A speed in knots. -/
  | speed (value : Binary64)
  | course (value : Binary64)
  | altitude (value : Binary64)
  | accuracy (value : Binary64)
  | attribute (key : String) (value : Json)
deriving DecidableEq, Repr

/-- What a parameter says. -/
inductive Entry where
  /-- The device is the one of this identifier. -/
  | identifier (text : String)
  /-- The device is reached by notifications with this token. -/
  | token (text : String)
  | detail (detail : Detail)
deriving DecidableEq, Repr

/-- A number. -/
def readNumber (text : String) : Except Cause Binary64 :=
  (Binary64.read text).mapError .number

/-- An integer. -/
def readInteger (text : String) : Except Cause Int :=
  (Number.readInteger text).mapError .number

/-- The parts of a value between commas. -/
def commaParts (text : String) : List String :=
  (Text.splitOn ',' text.toList).map String.ofList

/-- Latitude and longitude in one value. Further parts are ignored. -/
def readPlace (text : String) : Except Cause Detail :=
  match commaParts text with
  | latitude :: longitude :: _ => do
    let latitude ← readNumber latitude
    return .place latitude (← readNumber longitude)
  | [latitude] => do
    let _ ← readNumber latitude
    throw .missingPart
  | [] => throw .missingPart

/-- A cell tower: four integers, and the strength of the signal as a fifth. Further parts have to be
    integers and are ignored. -/
def readTower (text : String) : Except Cause CellTower := do
  match ← (commaParts text).mapM readInteger with
  | [country, network, area, cell] =>
    return ⟨.int country, .int network, .int area, .int cell, .null⟩
  | country :: network :: area :: cell :: signal :: _ =>
    return ⟨.int country, .int network, .int area, .int cell, .int signal⟩
  | _ => throw .missingPart

/-- A dash is a colon. -/
def dashToColon (c : Char) : Char := if c = '-' then ':' else c

/-- An access point: its address, in which dashes stand for colons, and the strength of the signal.
    Further parts are ignored. -/
def readAccessPoint (text : String) : Except Cause AccessPoint :=
  match commaParts text with
  | address :: signal :: _ => do
    return ⟨.text (String.ofList (address.toList.map dashToColon)), .int (← readInteger signal)⟩
  | _ => throw .missingPart

/-- The report is valid: the word true in any case, or the digit one. -/
def readValid (text : String) : Bool := readBoolean text || text = "1"

/-- What a parameter of a key and a value says. A key without a meaning of its own is the key of an
    attribute. -/
def readEntry (decoder : Decoder) (zone : Calendar.Zone) (key value : String) :
    Except Cause Entry := do
  match key with
  | "id" => return .identifier value
  | "deviceid" => return .identifier value
  | "notificationToken" => return .token value
  | "valid" => return .detail (.valid (readValid value))
  | "timestamp" =>
    return .detail (.time (← (Timestamp.read zone value).mapError .timestamp))
  | "lat" => return .detail (.latitude (← readNumber value))
  | "lon" => return .detail (.longitude (← readNumber value))
  | "location" => return .detail (← readPlace value)
  | "cell" => return .detail (.tower (← readTower value))
  | "wifi" => return .detail (.accessPoint (← readAccessPoint value))
  | "speed" => return .detail (.speed (decoder.speedUnit.toKnots (← readNumber value)))
  | "bearing" => return .detail (.course (← readNumber value))
  | "heading" => return .detail (.course (← readNumber value))
  | "altitude" => return .detail (.altitude (← readNumber value))
  | "accuracy" => return .detail (.accuracy (← readNumber value))
  | "hdop" => return .detail (.attribute Position.Known.hdop.key (.float (← readNumber value)))
  | "batt" =>
    return .detail (.attribute Position.Known.batteryLevel.key (.float (← readNumber value)))
  | "driverUniqueId" =>
    return .detail (.attribute Position.Known.driverUniqueId.key (.text value))
  | "charge" => return .detail (.attribute Position.Known.charge.key (.bool (readBoolean value)))
  | key => return .detail (.attribute key (guess value))

/-- A position in the making. The number of no device is zero. -/
structure Draft where
  device : Int := 0
  valid : Bool := true
  time : Option Moment := none
  latitude : Option Binary64 := none
  longitude : Option Binary64 := none
  altitude : Option Binary64 := none
  speed : Option Binary64 := none
  course : Option Binary64 := none
  accuracy : Option Binary64 := none
  network : Network := {}
  attributes : Json.Members := []
deriving DecidableEq, Repr

/-- Adds what a parameter says. A later parameter replaces what an earlier one said, but for radio
    observations, which are collected. -/
def Draft.add (draft : Draft) : Detail → Draft
  | .valid value => { draft with valid := value }
  | .time time => { draft with time := some time }
  | .latitude value => { draft with latitude := some value }
  | .longitude value => { draft with longitude := some value }
  | .place latitude longitude =>
    { draft with latitude := some latitude, longitude := some longitude }
  | .tower tower => { draft with network := draft.network.addCellTower tower }
  | .accessPoint point => { draft with network := draft.network.addAccessPoint point }
  | .speed value => { draft with speed := some value }
  | .course value => { draft with course := some value }
  | .altitude value => { draft with altitude := some value }
  | .accuracy value => { draft with accuracy := some value }
  | .attribute key value => { draft with attributes := Json.Members.put key value draft.attributes }

/-- The radio observations of a draft, if it has any. -/
def Draft.network? (draft : Draft) : Option Network :=
  if draft.network.hasEntries then some draft.network else none

/-- The position of a draft, but for its coordinates. A report without a timestamp was made now. -/
def Draft.toPosition (protocol : Json) (now : Moment) (draft : Draft) : Position where
  protocol
  deviceId := .int draft.device
  serverTime := some now
  deviceTime := some (draft.time.getD now)
  fixTime := some (draft.time.getD now)
  valid := .bool draft.valid
  altitude := Position.measureJson draft.altitude
  speed := Position.measureJson draft.speed
  course := Position.measureJson draft.course
  accuracy := Position.measureJson draft.accuracy
  network := draft.network?
  attributes := .object draft.attributes

/-- Handles what a parameter says. Nothing comes out for an identifier that belongs to no device. A
    token that comes before the device is known is skipped. -/
def handle {ε σ : Type} (decoder : Decoder) (services : Services ε σ) (remote : Option String)
    (draft : Draft) : Entry → Action (Failure ε) σ (Option Draft)
  | .identifier text => do
    match ← call (services.findDevice decoder.protocol remote [text]) with
    | some device => return some { draft with device }
    | none => return none
  | .token text => do
    if draft.device ≠ 0 then call (services.registerToken draft.device text)
    return some draft
  | .detail detail => return some (draft.add detail)

/-- Handles what the parameter of a key and a value says. -/
def handleField {ε σ : Type} (decoder : Decoder) (services : Services ε σ) (remote : Option String)
    (draft : Draft) (key value : String) (entry : Entry) : Action (Failure ε) σ (Option Draft) :=
  ExceptT.adapt (Failure.blame services.complaint? key value)
    (handle decoder services remote draft entry)

/-- Handles parameters one after the other, up to an identifier that belongs to no device. -/
def handleAll {ε σ : Type} (decoder : Decoder) (zone : Calendar.Zone) (services : Services ε σ)
    (remote : Option String) (draft : Draft) :
    List Http.Field → Action (Failure ε) σ (Option Draft)
  | [] => return some draft
  | (key, value) :: rest => do
    let entry ← orReject
      ((readEntry decoder zone key value).mapError (.malformedParameter key value))
    match ← handleField decoder services remote draft key value entry with
    | some draft => handleAll decoder zone services remote draft rest
    | none => return none

/-- A draft with its coordinates if both are known, otherwise with the last known place. -/
def Draft.locate {ε σ : Type} (protocol : Json) (services : Services ε σ) (now : Moment)
    (draft : Draft) : Action (Failure ε) σ Position :=
  let position := draft.toPosition protocol now
  match draft.latitude, draft.longitude with
  | some latitude, some longitude =>
    return { position with latitude := .float latitude, longitude := .float longitude }
  | _, _ => fallBack services draft.device position (draft.time.getD now)

/-- The response to a report of a device: the payload of the oldest command that waits for it. The
    command is taken out of the queue before its payload is found to be unencodable. -/
def commandResponse {ε σ : Type} (services : Services ε σ) (device : Int) :
    Action (Failure ε) σ Http.Response := do
  let payloads ← call (services.takeCommands device 1)
  match Http.payloadText (payloads.getLast?.getD .null) with
  | some text => return .plain 200 text
  | none => throw .unencodable

/-- Decodes parameters in the order in which they are handled. -/
def decodeFields {ε σ : Type} (decoder : Decoder) (clock : Clock) (services : Services ε σ)
    (remote : Option String) (fields : List Http.Field) : Action (Failure ε) σ Decoded := do
  match ← handleAll decoder clock.zone services remote {} fields with
  | none => return .refused 400
  | some draft =>
    let position ← draft.locate decoder.protocol services clock.now
    if draft.device = 0 then return .refused 400
    return ⟨some position, ← commandResponse services draft.device⟩

/-- The text of a form in the body of a request. A byte that is not ASCII is lost. -/
def formText (body : List UInt8) : List Char := Text.lossyText (body.map Text.asciiPiece)

/-- The fields of a form, if there are not too many. -/
def limited {ε : Type} (fields : Except Http.FormFault (List Http.Field)) :
    Except (Failure ε) (List Http.Field) :=
  fields.mapError fun _ => .tooManyFields

/-- The parameters of a request: the fields of its query string, or of the form in its body if the
    query string has none. -/
def requestFields {ε : Type} (request : Http.Request) :
    Except (Failure ε) (List Http.Field) := do
  match ← limited request.fields, request.body? with
  | [], some body => limited (Http.readForm .utf8 (formText body))
  | [], none => throw .bodyTooLong
  | fields, _ => return fields

/-- Decodes a report of flat parameters. -/
def decodeQuery {ε σ : Type} (decoder : Decoder) (clock : Clock) (services : Services ε σ)
    (request : Http.Request) : Action (Failure ε) σ Decoded :=
  match requestFields request with
  | .error failure => throw failure
  | .ok fields => decodeFields decoder clock services request.remote (Http.grouped fields)

end Telematics.Report
