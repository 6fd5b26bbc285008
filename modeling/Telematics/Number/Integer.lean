import Telematics.Number.Fault
import Telematics.Text.Blank
import Telematics.Text.Digit

/-!
Integer numerals: an optional sign and decimal digits of any script, with padding around them.
Single underscores may stand between digits, and leading zeros are allowed.

* `ofDigits_append_singleton`: one more digit multiplies by ten and adds.
* `toDecimal?_eq_some_iff`: an integer has a numeral exactly if the numeral keeps the limit.
-/

namespace Telematics.Number

/-- The value of decimal digits, most significant first. -/
def ofDigits (digits : List Nat) : Nat := digits.foldl (fun value digit => value * 10 + digit) 0

@[simp] theorem ofDigits_append_singleton (digits : List Nat) (digit : Nat) :
    ofDigits (digits ++ [digit]) = ofDigits digits * 10 + digit := by
  simp [ofDigits]

/-- A sign in front of a numeral, and the text after it. -/
def takeSign : List Char → Bool × List Char
  | '-' :: rest => (true, rest)
  | '+' :: rest => (false, rest)
  | text => (false, text)

/-- A run of digits at the front of a text: the digits, whether underscores stand only singly
    between digits, and the rest. -/
structure Run where
  digits : List Nat
  tidy : Bool
  rest : List Char
deriving DecidableEq, Repr

/-- Continues a run: `read` has the digits so far in reverse, and `afterDigit` says that the last
    character was one of them. -/
def runFrom (read : List Nat) (afterDigit : Bool) : List Char → Run
  | [] => ⟨read.reverse, afterDigit, []⟩
  | c :: rest =>
    match Text.decimal? c with
    | some digit => runFrom (digit :: read) true rest
    | none =>
      if c = '_' then
        if afterDigit then runFrom read false rest else ⟨read.reverse, false, c :: rest⟩
      else ⟨read.reverse, afterDigit, c :: rest⟩

/-- The run of digits at the front of a text. -/
def run (text : List Char) : Run := runFrom [] false text

/-- Reads an integer numeral. A digit run beyond the limit is reported before anything that
    follows it. -/
def readInteger (text : String) : Except Fault Int :=
  let (negative, unsigned) := takeSign (Text.trimPadding text.toList)
  let found := run unsigned
  if !found.tidy then .error (.notInteger text)
  else if found.digits.length > digitLimit then .error (.tooManyDigits found.digits.length)
  else if found.rest ≠ [] then .error (.notInteger text)
  else
    let value : Int := ofDigits found.digits
    .ok (if negative then -value else value)

/-- The digits of a natural number. -/
def decimalDigits (n : Nat) : List Char := Nat.toDigits 10 n

/-- The numeral of an integer of any length. -/
def decimal (n : Int) : String :=
  if n < 0 then String.ofList ('-' :: decimalDigits n.natAbs)
  else String.ofList (decimalDigits n.natAbs)

/-- The numeral of an integer, if it keeps the limit of digits. -/
def toDecimal? (n : Int) : Option String :=
  if (decimalDigits n.natAbs).length > digitLimit then none else some (decimal n)

theorem toDecimal?_eq_some_iff {n : Int} {text : String} :
    toDecimal? n = some text ↔
      (decimalDigits n.natAbs).length ≤ digitLimit ∧ decimal n = text := by
  unfold toDecimal?
  split
  · simp; omega
  · simp; omega

/-- A number in a fixed width, with zeros in front. -/
def padded (width n : Nat) : List Char :=
  let digits := decimalDigits n
  List.replicate (width - digits.length) '0' ++ digits

end Telematics.Number
