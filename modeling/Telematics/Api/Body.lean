import Telematics.Http.Multipart
import Telematics.Json.Parser

/-!
Bodies of requests. A body is a JSON document, a form, or a form in parts, as the content type
tells.

* `readBody`: what the body of a request holds.
-/

namespace Telematics.Api

/-- What a content type tells about a body. -/
inductive Format where
  | document
  | form
  | parts
deriving DecidableEq, Repr

/-- Why a body cannot be read. -/
inductive BodyFault where
  | unsupportedType (contentType : String)
  /-- What is named as the encoding gives no texts. -/
  | unsupportedCharset (name : String)
  | undecodable (fault : Text.StreamFault)
  | malformed (fault : Json.Fault)
  | multipart (fault : Http.MultipartFault)
  | fields (fault : Http.FormFault)
  /-- A form in parts has too many of them, or they are too long. -/
  | tooLarge
deriving DecidableEq, Repr

/-- What a body holds. -/
inductive Body where
  | value (value : Json)
  /-- The fields of a form, in which nothing can be null. -/
  | form (fields : List (String × Http.FormValue))
deriving DecidableEq, Repr

/-- The greatest length of a content type. -/
def contentTypeLimit : Nat := 255

/-- The format that the content type of a request tells. -/
def format? (request : Http.Request) : Option Format :=
  let media := Http.MediaType.of request.header
  if (request.contentType.getD "").length > contentTypeLimit then none
  else if media.accepts "application" "json" then some .document
  else if media.accepts "application" "x-www-form-urlencoded" then some .form
  else if media.accepts "multipart" "form-data" then some .parts
  else none

/-- What a JSON document holds. -/
def readDocument (request : Http.Request) : Except BodyFault Body := do
  let text ← (request.charset.readStream request.body).mapError .undecodable
  return .value (← (Json.parse false request.depth text).mapError .malformed)

/-- What a form holds. -/
def readForm (request : Http.Request) : Except BodyFault Body :=
  match Http.readFormBytes request.charset request.body with
  | .ok fields => .ok (.form (fields.map fun (key, text) => (key, .text text)))
  | .error fault => .error (.fields fault)

/-- What a form in parts holds. -/
def readFormParts (request : Http.Request) : Except BodyFault Body :=
  match Http.readMultipart request with
  | .ok values => .ok (.form values)
  | .error .tooManyFields => .error .tooLarge
  | .error .tooLong => .error .tooLarge
  | .error fault => .error (.multipart fault)

/-- What the body of a request holds. An empty body is an empty object, whatever its type. -/
def readBody (request : Http.Request) : Except BodyFault Body :=
  if request.body = [] then .ok (.value (.object []))
  else
    match format? request with
    | none => .error (.unsupportedType (request.contentType.getD ""))
    | some format =>
      if request.codec = some .bytes then
        .error (.unsupportedCharset ((request.header.parameter? "charset").getD ""))
      else match format with
        | .document => readDocument request
        | .form => readForm request
        | .parts => readFormParts request

theorem readBody_of_empty {request : Http.Request} (empty : request.body = []) :
    readBody request = .ok (.value (.object [])) := by
  simp [readBody, empty]

end Telematics.Api
