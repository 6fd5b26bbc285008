import Telematics.Calendar.Iso
import Telematics.Calendar.Pattern
import Telematics.Calendar.Zone
import Telematics.Text.Letters

/-!
Report timestamps. A timestamp is an integer, an ISO 8601 date-time, or a date-time of the fixed
pattern. An integer below 2^31 - 1 counts seconds since the beginning of 1970, any other counts
milliseconds. A text that is no integer is read as ISO 8601 if it has a letter T, and by the
pattern otherwise. A date-time without offset is placed in the default zone, which may set its
clocks by any rule.

* `readBy`, `read`: the moment of a report timestamp, by a rule and in a zone.
* `readIsoBy`, `readIso`: the moment of an ISO 8601 text, by a rule and in a zone.
* `ofMillis`: the moment of a number of milliseconds.
-/

namespace Telematics.Timestamp

open Telematics.Calendar (ClockRule Moment Zone)

/-- Why a text is no timestamp. -/
inductive Fault where
  /-- The instant is outside the years 1 to 9999. -/
  | outOfRange (millis : Int)
  /-- The text has no ISO 8601 form. -/
  | notIso (text : Letters)
  /-- The text does not begin with the fixed pattern. -/
  | notPattern (text : String)
  /-- Something follows the fixed pattern. -/
  | unread (rest : String)
  /-- A part of the date-time is out of range. -/
  | calendar (fault : Calendar.Fault)
deriving DecidableEq, Repr

/-- The wording of a fault. An instant with too many digits cannot be shown, and this is said
    instead. -/
def Fault.message : Fault → String
  | .outOfRange millis =>
    match Number.toDecimal? millis with
    | some text => "Timestamp out of range: " ++ text
    | none => Number.Fault.tooLongToWrite.message
  | .notIso text => "Not an ISO-8601 date: " ++ text.quoted
  | .notPattern text =>
    "time data " ++ Text.quoted text ++ " does not match format '%Y-%m-%d %H:%M:%S'"
  | .unread rest => "unconverted data remains: " ++ rest
  | .calendar fault => fault.message

/-- The least integer that counts milliseconds. -/
def millisFrom : Int := 2147483647

/-- The UTC moment a number of milliseconds after the beginning of 1970. -/
def ofMillis (millis : Int) : Except Fault Moment :=
  match Moment.ofMillis? millis with
  | some moment => .ok moment
  | none => .error (.outOfRange millis)

/-- A date-time as written, placed by a rule if it has no offset. -/
def place (rule : ClockRule) (written : Calendar.Written) : Moment :=
  match written.offset with
  | some offset => ⟨written.clock, offset⟩
  | none => rule.place written.clock

/-- The moment of an ISO 8601 text, by the rule of the default zone. Half of a pair may stand where
    any character may. -/
def readIsoBy (rule : ClockRule) (text : Letters) : Except Fault Moment :=
  match Calendar.readIso text.shown.toList with
  | some (.ok written) => .ok (place rule written)
  | some (.error fault) => .error (.calendar fault)
  | none => .error (.notIso text)

/-- The moment of a text of the fixed pattern. What follows the pattern is a fault before any value
    out of range. -/
def readPattern (rule : ClockRule) (text : String) : Except Fault Moment :=
  match Calendar.readPattern? text.toList with
  | none => .error (.notPattern text)
  | some (parts, rest) =>
    if rest ≠ [] then .error (.unread (String.ofList rest))
    else match parts.check with
      | .ok clock => .ok (rule.place clock)
      | .error fault => .error (.calendar fault)

/-- The moment of a report timestamp, by the rule of the default zone. -/
def readBy (rule : ClockRule) (text : String) : Except Fault Moment :=
  match Number.readInteger text with
  | .ok count => ofMillis (if count < millisFrom then count * 1000 else count)
  | .error _ => if text.toList.contains 'T' then readIsoBy rule text else readPattern rule text

/-- The moment of an ISO 8601 text in a default zone. -/
def readIso (zone : Zone) (text : Letters) : Except Fault Moment := readIsoBy zone.rule text

/-- The moment of a report timestamp in a default zone. -/
def read (zone : Zone) (text : String) : Except Fault Moment := readBy zone.rule text

end Telematics.Timestamp
