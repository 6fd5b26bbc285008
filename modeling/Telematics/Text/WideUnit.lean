import Telematics.Text.Piece

/-!
Texts in units of more than one byte. In UTF-16 units have two bytes, and a character beyond the
first 65536 is a pair of units, each of which is a surrogate: the first from 0xD800 on, the second
from 0xDC00 on. In UTF-32 units have four bytes, and every unit is a character.

* `utf16Pieces`, `utf32Pieces`: the pieces of a byte text.
-/

namespace Telematics.Text

/-- Which byte of a unit comes first. -/
inductive ByteOrder where
  | littleEndian
  | bigEndian
deriving DecidableEq, Repr

/-- The number of bytes in their order. -/
def ByteOrder.number (order : ByteOrder) (bytes : List UInt8) : Nat :=
  let ordered := match order with
    | .littleEndian => bytes.reverse
    | .bigEndian => bytes
  ordered.foldl (fun value byte => value * 256 + byte.toNat) 0

/-- The unit is the first half of a pair. -/
def isFirstHalf (unit : Nat) : Bool := 0xd800 ≤ unit && unit < 0xdc00

/-- The unit is the second half of a pair. -/
def isSecondHalf (unit : Nat) : Bool := 0xdc00 ≤ unit && unit < 0xe000

/-- The character of a pair. -/
def pairChar (first second : Nat) : Char :=
  Char.ofNat (0x10000 + (first - 0xd800) * 0x400 + (second - 0xdc00))

/-- The pieces of a byte text. -/
def utf16Pieces (order : ByteOrder) : List UInt8 → List Piece
  | [] => []
  | [last] => [.illFormed [last] .truncated]
  | a :: b :: rest =>
    let unit := order.number [a, b]
    if isFirstHalf unit then
      match rest with
      | c :: d :: after =>
        let second := order.number [c, d]
        if isSecondHalf second then .char (pairChar unit second) 4 :: utf16Pieces order after
        else .illFormed [a, b] .illegalSurrogate :: utf16Pieces order (c :: d :: after)
      | [] => [.illFormed [a, b] .unexpectedEnd]
      | [last] => [.illFormed [a, b, last] .unexpectedEnd]
    else if isSecondHalf unit then .illFormed [a, b] .illegalEncoding :: utf16Pieces order rest
    else .char (Char.ofNat unit) 2 :: utf16Pieces order rest

/-- The byte order that a mark at the beginning of a text tells, if there is one. -/
def utf16Order? : List UInt8 → Option ByteOrder
  | 0xff :: 0xfe :: _ => some .littleEndian
  | 0xfe :: 0xff :: _ => some .bigEndian
  | _ => none

/-- The name of the encoding in a byte order. -/
def utf16Name : ByteOrder → String
  | .littleEndian => "utf-16-le"
  | .bigEndian => "utf-16-be"

/-- The piece of a unit, by its number. -/
def utf32Piece (bytes : List UInt8) (unit : Nat) : Piece :=
  if 0x110000 ≤ unit then .illFormed bytes .beyondCodePoints
  else if isFirstHalf unit || isSecondHalf unit then .illFormed bytes .surrogate
  else .char (Char.ofNat unit) 4

/-- The pieces of a byte text. -/
def utf32Pieces (order : ByteOrder) : List UInt8 → List Piece
  | a :: b :: c :: d :: rest =>
    utf32Piece [a, b, c, d] (order.number [a, b, c, d]) :: utf32Pieces order rest
  | [] => []
  | rest => [.illFormed rest .truncated]

/-- The byte order that a mark at the beginning of a text tells, if there is one. -/
def utf32Order? : List UInt8 → Option ByteOrder
  | 0xff :: 0xfe :: 0x00 :: 0x00 :: _ => some .littleEndian
  | 0x00 :: 0x00 :: 0xfe :: 0xff :: _ => some .bigEndian
  | _ => none

/-- The name of the encoding in a byte order. -/
def utf32Name : ByteOrder → String
  | .littleEndian => "utf-32-le"
  | .bigEndian => "utf-32-be"

end Telematics.Text
