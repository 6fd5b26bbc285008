import Telematics.Text.Piece

/-!
Punycode: texts of any characters, written in ASCII. The ASCII characters of the text come first.
The others follow behind a hyphen as numbers, in ascending order of their code points: each number
tells how far to go from the last insertion to the next one, when all places are tried for one code
point, then for the next code point.

A number is written in digits of 36 values, the lowest one first. A digit below the threshold of its
place ends the number; the thresholds adapt to the numbers so far.

* `writePunycode`: a text, written.
* `readPunycode`: the text of what is written.
* `readNumber_writeNumber`: a number is read back.
-/

namespace Telematics.Text

/-- A text by its code points, which may be halves of pairs. -/
abbrev CodePoints := List Nat

/-! ## Numbers -/

/-- The threshold of a place. -/
def threshold (bias place : Nat) : Nat := min 26 (max 1 (36 * (place + 1) - bias))

theorem one_le_threshold (bias place : Nat) : 1 ≤ threshold bias place := by
  simp only [threshold]
  omega

theorem threshold_le (bias place : Nat) : threshold bias place ≤ 26 := by
  simp only [threshold]
  omega

/-- Divides a number until it is small, and counts. -/
def reduce (number steps : Nat) : Nat × Nat :=
  if 455 < number then reduce (number / 35) (steps + 1) else (number, steps)
termination_by number
decreasing_by exact Nat.div_lt_self (by omega) (by decide)

/-- The bias behind a number, when the text has some length. -/
def adapt (number : Nat) (isFirst : Bool) (length : Nat) : Nat :=
  let damped := number / (if isFirst then 700 else 2)
  let (small, steps) := reduce (damped + damped / length) 0
  36 * steps + 36 * small / (small + 38)

/-- The digit of a value: letters, then numerals. -/
def punycodeDigit (value : Nat) : Char :=
  if value < 26 then Char.ofNat (0x61 + value) else Char.ofNat (0x30 + (value - 26))

/-- The value of a digit in either case. -/
def punycodeValue? (c : Char) : Option Nat :=
  if 'a' ≤ c ∧ c ≤ 'z' then some (c.toNat - 0x61)
  else if 'A' ≤ c ∧ c ≤ 'Z' then some (c.toNat - 0x41)
  else if '0' ≤ c ∧ c ≤ '9' then some (c.toNat - 0x30 + 26)
  else none

theorem punycodeValue?_punycodeDigit :
    ∀ value, value < 36 → punycodeValue? (punycodeDigit value) = some value := by decide

/-- The digits of a number from a place on. -/
def writeNumber (bias place number : Nat) : List Char :=
  let limit := threshold bias place
  if number < limit then [punycodeDigit number]
  else
    punycodeDigit (limit + (number - limit) % (36 - limit)) ::
      writeNumber bias (place + 1) ((number - limit) / (36 - limit))
termination_by number
decreasing_by
  have positive := one_le_threshold bias place
  exact Nat.lt_of_le_of_lt (Nat.div_le_self _ _) (by omega)

/-- Why a text is not written in Punycode. -/
inductive PunycodeFault where
  | incomplete
  | badDigit (c : Char)
  | beyondCodePoints (code : Nat)
deriving DecidableEq, Repr

/-- The wording of a fault. -/
def PunycodeFault.message : PunycodeFault → String
  | .incomplete => "incomplete punicode string"
  | .badDigit c => "Invalid extended code point '" ++ String.ofList [c.toUpper] ++ "'"
  | .beyondCodePoints code => "Invalid character U+" ++ String.ofList (Nat.toDigits 16 code)

/-- The number of digits from a place on, with the weight of that place, and what stands behind it.
    It is added to what has been read. -/
def readNumber (bias place weight read : Nat) :
    List Char → Except PunycodeFault (Nat × List Char)
  | [] => .error .incomplete
  | c :: rest =>
    match punycodeValue? c with
    | none => .error (.badDigit c)
    | some value =>
      let limit := threshold bias place
      if value < limit then .ok (read + value * weight, rest)
      else readNumber bias (place + 1) (weight * (36 - limit)) (read + value * weight) rest

/-- A number takes at least one digit. -/
theorem length_readNumber {bias place weight read number : Nat} {text rest : List Char}
    (found : readNumber bias place weight read text = .ok (number, rest)) :
    rest.length < text.length := by
  fun_induction readNumber bias place weight read text with
  | case1 => simp at found
  | case2 => simp at found
  | case3 => simp_all
  | case4 _ _ _ _ _ _ _ _ _ ih => exact Nat.lt_succ_of_lt (ih found)

/-- A number is read back. -/
theorem readNumber_writeNumber (bias place weight read number : Nat) (rest : List Char) :
    readNumber bias place weight read (writeNumber bias place number ++ rest) =
      .ok (read + number * weight, rest) := by
  fun_induction writeNumber bias place number generalizing weight read with
  | case1 place number limit small =>
    have most := threshold_le bias place
    simp only [List.cons_append, List.nil_append, readNumber,
      punycodeValue?_punycodeDigit number (by omega)]
    rw [if_pos small]
  | case2 place number limit large ih =>
    have least := one_le_threshold bias place
    have most := threshold_le bias place
    have positive : 0 < 36 - limit := by omega
    have digit := Nat.mod_lt (number - limit) positive
    have split := Nat.mod_add_div (number - limit) (36 - limit)
    have whole : number = limit + (number - limit) % (36 - limit) +
        (36 - limit) * ((number - limit) / (36 - limit)) := by omega
    rw [List.cons_append, readNumber, punycodeValue?_punycodeDigit _ (by omega)]
    simp only
    rw [if_neg (by omega), ih]
    congr 2
    have same : threshold bias place = limit := rfl
    conv => rhs; rw [whole, Nat.add_mul, Nat.mul_comm (36 - limit), Nat.mul_assoc,
      Nat.mul_comm (36 - limit) weight]
    rw [same]
    omega

/-! ## Texts -/

/-- A text into which characters are inserted: the last code point, the place behind the last
    insertion, and the bias of the next number. -/
structure Insertion where
  text : CodePoints
  code : Nat := 0x80
  place : Nat := 0
  bias : Nat := 72
  isFirst : Bool := true
deriving DecidableEq, Repr

/-- The greatest code point. -/
def lastCodePoint : Nat := 0x10ffff

/-- The text with the character that a number tells. One beyond all code points is a fault, or a
    question mark. -/
def Insertion.insert (insertion : Insertion) (lenient : Bool) (number : Nat) :
    Except PunycodeFault Insertion :=
  let places := insertion.text.length + 1
  let code := insertion.code + (insertion.place + number) / places
  let place := (insertion.place + number) % places
  if lastCodePoint < code && !lenient then .error (.beyondCodePoints code)
  else
    let code := if lastCodePoint < code then '?'.toNat else code
    .ok {
      text := insertion.text.take place ++ code :: insertion.text.drop place
      code
      place := place + 1
      bias := adapt number insertion.isFirst places
      isFirst := false }

/-- The text with the characters of all numbers. A fault ends a lenient reading. -/
def Insertion.insertAll (insertion : Insertion) (lenient : Bool) (numbers : List Char) :
    Except PunycodeFault CodePoints :=
  if numbers = [] then .ok insertion.text
  else
    match _ : readNumber insertion.bias 0 1 0 numbers with
    | .error fault => if lenient then .ok insertion.text else .error fault
    | .ok (number, rest) =>
      match insertion.insert lenient number with
      | .error fault => .error fault
      | .ok insertion => insertion.insertAll lenient rest
termination_by numbers.length
decreasing_by exact length_readNumber ‹_›

/-- What is written in ASCII, in two parts: the ASCII characters, and the numbers of the others. -/
def punycodeParts {α : Type} (isHyphen : α → Bool) (written : List α) : List α × List α :=
  let numbers := (written.reverse.takeWhile (!isHyphen ·)).reverse
  (written.take (written.length - numbers.length - 1), numbers)

/-- The text of what is written. -/
def readPunycode (lenient : Bool) (ascii : CodePoints) (numbers : List Char) :
    Except PunycodeFault CodePoints :=
  Insertion.insertAll { text := ascii } lenient numbers

/-- A text that is being written: the digits so far, what has been counted since the last one, and
    the number of characters that are written. -/
structure Extraction where
  digits : List Char := []
  counted : Nat := 0
  written : Nat
  bias : Nat := 72
  isFirst : Bool := true
deriving DecidableEq, Repr

/-- Looks at one character of the text, when the characters of one code point are written. -/
def Extraction.look (code : Nat) (extraction : Extraction) (c : Nat) : Extraction :=
  if c < code then { extraction with counted := extraction.counted + 1 }
  else if c = code then
    { digits := extraction.digits ++ writeNumber extraction.bias 0 extraction.counted
      counted := 0
      written := extraction.written + 1
      bias := adapt extraction.counted extraction.isFirst (extraction.written + 1)
      isFirst := false }
  else extraction

/-- Writes the characters of code points, in ascending order. The first one that is tried is
    `next`. -/
def Extraction.write (text : CodePoints) (next : Nat) (extraction : Extraction) :
    CodePoints → Extraction
  | [] => extraction
  | code :: codes =>
    let before := { extraction with
      counted := extraction.counted + (code - next) * (extraction.written + 1) }
    let after := text.foldl (Extraction.look code) before
    Extraction.write text (code + 1) { after with counted := after.counted + 1 } codes

/-- A code point of ASCII. -/
def isAsciiCode (code : Nat) : Bool := code < 0x80

/-- A text, written. -/
def writePunycode (text : CodePoints) : List Char :=
  let ascii := (text.filter isAsciiCode).map Char.ofNat
  let codes := ((text.filter (!isAsciiCode ·)).mergeSort (· ≤ ·)).eraseDups
  let numbers := (Extraction.write text 0x80 { written := ascii.length } codes).digits
  if ascii = [] then numbers else ascii ++ '-' :: numbers

end Telematics.Text
