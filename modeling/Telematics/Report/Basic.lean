import Telematics.Report.Document
import Telematics.Report.Query

/-!
Decoding reports. The content type of a request tells its wire format: a JSON document, or flat
parameters.
-/

namespace Telematics.Report

/-- The content type of JSON reports. -/
def jsonType : String := "application/json"

/-- The report is a JSON document: its content type begins as that of JSON does. -/
def isJson (request : Http.Request) : Bool :=
  match request.contentType with
  | some header => jsonType.toList.isPrefixOf header.toList
  | none => false

/-- Decodes a report. -/
def decode {ε σ : Type} (decoder : Decoder) (clock : Calendar.Clock) (services : Services ε σ)
    (request : Http.Request) : Action (Failure ε) σ Decoded :=
  if isJson request then decodeJson decoder clock services request
  else decodeQuery decoder clock services request

end Telematics.Report
