import Telematics.Json.Parser
import Telematics.Text.Utf8
import Telematics.Timestamp

/-!
Why a report is rejected. A parameter of a query report has a value that cannot be read, a document
cannot be read, or a document does not have the shape of a report.

* `Rejection.message`: the wording.
-/

namespace Telematics.Report

/-- Why the value of a parameter cannot be read. -/
inductive Cause where
  | number (fault : Number.Fault)
  | timestamp (fault : Timestamp.Fault)
  /-- The value has fewer parts between commas than it needs. -/
  | missingPart
  /-- A service that was given the value complains of it. -/
  | service (complaint : String)
deriving DecidableEq, Repr

/-- The wording of a cause. -/
def Cause.message : Cause → String
  | .number fault => fault.message
  | .timestamp fault => fault.message
  | .missingPart => "list index out of range"
  | .service complaint => complaint

/-- Why a report is rejected. -/
inductive Rejection where
  | malformedParameter (key value : String) (cause : Cause)
  /-- The body is not UTF-8. -/
  | undecodable (fault : Text.TextFault)
  /-- The body is no JSON document. -/
  | malformedDocument (fault : Json.Fault)
  /-- The document is no object. -/
  | noObject
  | missingObject (key : String)
  | notObject (key : String)
  | missingNumber (key : String)
  | notNumber (key : String) (value : Json)
  /-- The number is too large to be held, or to be scaled. -/
  | outOfRange (key : String)
  | notFinite (key : String) (value : Json)
  | notText (key : String) (value : Json)
  | notBoolean (key : String) (value : Json)
  | malformedTime (key : String) (fault : Timestamp.Fault)
deriving DecidableEq, Repr

/-- The wording of a fault of a document. A constant that is no number is refused by name. -/
def documentMessage : Json.Fault → String
  | .complaint what place => Json.complaintText what place
  | .number fault => fault.message
  | .constant name => name ++ " is not a valid JSON number"
  | .tooDeep => "nested too deeply"

/-- A key in the wording of a rejection. -/
def named (key : String) : String := "'" ++ key ++ "'"

/-- The wording of a rejection. -/
def Rejection.message : Rejection → String
  | .malformedParameter key value cause =>
    "Malformed " ++ named key ++ " value " ++ Text.quoted value ++ ": " ++ cause.message
  | .undecodable fault => "Malformed JSON report: " ++ fault.message
  | .malformedDocument fault => "Malformed JSON report: " ++ documentMessage fault
  | .noObject => "JSON report must be an object"
  | .missingObject key => "Missing " ++ named key ++ " object"
  | .notObject key => named key ++ " must be an object"
  | .missingNumber key => "Missing " ++ named key ++ " number"
  | .notNumber key value => named key ++ " must be a number, got " ++ value.literal
  | .outOfRange key => named key ++ " is out of range"
  | .notFinite key value => named key ++ " must be finite, got " ++ value.literal
  | .notText key value => named key ++ " must be a string, got " ++ value.literal
  | .notBoolean key value => named key ++ " must be a boolean, got " ++ value.literal
  | .malformedTime key fault => "Malformed " ++ named key ++ ": " ++ fault.message

end Telematics.Report
