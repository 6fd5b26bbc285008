import Telematics.Text.Quoted

/-!
Why a text is no number, or a number has no text. Numerals are limited to 4300 digits in both
directions, which keeps the cost of reading and writing them bounded.
-/

namespace Telematics.Number

/-- The greatest number of digits of an integer numeral. -/
def digitLimit : Nat := 4300

/-- What can go wrong between a number and its text. -/
inductive Fault where
  /-- The text is no integer numeral. -/
  | notInteger (text : String)
  /-- The text has more digits than an integer numeral may have. -/
  | tooManyDigits (digits : Nat)
  /-- The integer has more digits than a numeral may have. -/
  | tooLongToWrite
  /-- The text is no number. -/
  | notNumber (text : String)
deriving DecidableEq, Repr

/-- The wording of a fault. A text that is no integer is quoted up to 200 characters. -/
def Fault.message : Fault → String
  | .notInteger text =>
    "invalid literal for int() with base 10: " ++ Text.quotedUpTo 200 text
  | .tooManyDigits digits =>
    "Exceeds the limit (" ++ toString digitLimit ++ " digits) for integer string conversion: " ++
      "value has " ++ toString digits ++
      " digits; use sys.set_int_max_str_digits() to increase the limit"
  | .tooLongToWrite =>
    "Exceeds the limit (" ++ toString digitLimit ++ " digits) for integer string conversion; " ++
      "use sys.set_int_max_str_digits() to increase the limit"
  | .notNumber text => "could not convert string to float: " ++ Text.quoted text

end Telematics.Number
