import Telematics.Binary64.Basic
import Telematics.Number.Fault
import Telematics.Number.Integer

/-!
Numbers from decimal numerals. A numeral is an optional sign, digits with an optional point, and an
optional exponent; or one of the names of infinity and not-a-number. Digits of any script count,
single underscores may stand between digits, and padding surrounds the whole.

* `ofDecimal`: the number nearest to `digits * 10 ^ exponent`.
-/

namespace Telematics.Binary64

/-- The number nearest to `digits * 10 ^ exponent`. A numeral beyond the range of the format on
    either side is settled by its size alone, so the cost does not grow with the exponent. -/
def ofDecimal (negative : Bool) (digits : Nat) (exponent : Int) : Binary64 :=
  if digits = 0 then zeroOf negative
  else if exponent > 400 then .infinite negative
  else if exponent < -(401 + digits.log2 : Int) then zeroOf negative
  else if 0 ≤ exponent then ofRatio negative (digits * Nat.pow 10 exponent.toNat) 1
  else ofRatio negative digits (Nat.pow 10 (-exponent).toNat)

/-- Digits of any script become ASCII digits, and other characters stay. -/
def plainDigit (c : Char) : Char :=
  match Text.decimal? c with
  | some digit => Char.ofNat (48 + digit)
  | none => c

/-- The text without its underscores, if each stands between two digits. `previous` is the
    character before the text. -/
def dropUnderscores? (previous : Char) : List Char → Option (List Char)
  | [] => if previous = '_' then none else some []
  | c :: rest =>
    if c = '_' then
      if previous.isDigit then dropUnderscores? c rest else none
    else if previous = '_' ∧ !c.isDigit then none
    else (dropUnderscores? c rest).map (c :: ·)

/-- The value of ASCII digits. -/
def digitsValue (digits : List Char) : Nat :=
  Number.ofDigits (digits.map fun c => c.toNat - 48)

/-- An exponent part: the letter e, an optional sign and digits. An absent one is zero. -/
def readExponent? : List Char → Option Int
  | [] => some 0
  | e :: rest =>
    if e = 'e' ∨ e = 'E' then
      let (negative, digits) := Number.takeSign rest
      if digits.isEmpty || !digits.all Char.isDigit then none
      else
        let value : Int := digitsValue digits
        some (if negative then -value else value)
    else none

/-- An unsigned numeral of ASCII digits. -/
def readUnsigned? (negative : Bool) (text : List Char) : Option Binary64 :=
  let whole := text.takeWhile Char.isDigit
  let afterWhole := text.dropWhile Char.isDigit
  let (fraction, afterFraction) := match afterWhole with
    | '.' :: rest => (rest.takeWhile Char.isDigit, rest.dropWhile Char.isDigit)
    | rest => ([], rest)
  if whole.isEmpty && fraction.isEmpty then none
  else (readExponent? afterFraction).map fun exponent =>
    ofDecimal negative (digitsValue (whole ++ fraction)) (exponent - fraction.length)

/-- A signed numeral of ASCII digits, or a name in any case. -/
def readPlain? (text : List Char) : Option Binary64 :=
  let (negative, unsigned) := Number.takeSign text
  let name := unsigned.map Char.toLower
  if name = ['n', 'a', 'n'] then some .nan
  else if name = ['i', 'n', 'f'] ∨ name = ['i', 'n', 'f', 'i', 'n', 'i', 't', 'y'] then
    some (.infinite negative)
  else readUnsigned? negative unsigned

/-- The number of a text, if it is a numeral. -/
def read? (text : String) : Option Binary64 :=
  let plain := (Text.trimPadding text.toList).map plainDigit
  (dropUnderscores? ' ' plain).bind readPlain?

/-- The number of a text. -/
def read (text : String) : Except Number.Fault Binary64 :=
  match read? text with
  | some number => .ok number
  | none => .error (.notNumber text)

end Telematics.Binary64
