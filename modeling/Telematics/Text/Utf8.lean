import Telematics.Text.Piece

/-!
Texts in UTF-8. They are read by a small machine: between characters nothing is pending, inside a
character the machine knows which bytes may come next. A byte that may not come next ends the
character as an ill-formed piece and starts afresh, so a piece is a maximal ill-formed part.

* `utf8Pieces`: the pieces of a byte text.
* `readUtf8`: the text, if all of the bytes are text.
* `utf8Bytes`: the bytes of a text.
-/

namespace Telematics.Text

/-- A character that has begun: its bytes so far in reverse, the number of bytes to come, the range
    of the next byte and the value read so far. -/
structure Pending where
  bytes : List UInt8
  left : Nat
  low : Nat
  high : Nat
  value : Nat
deriving DecidableEq, Repr

/-- The state of a scan: the finished pieces in reverse, and the character that has begun. -/
structure Scan where
  pieces : List Piece
  pending : Option Pending
deriving DecidableEq, Repr

/-- A byte between characters. -/
def Scan.start (pieces : List Piece) (byte : UInt8) : Scan :=
  let b := byte.toNat
  if b < 0x80 then ⟨.char (Char.ofNat b) 1 :: pieces, none⟩
  else if b < 0xc2 then ⟨.illFormed [byte] .invalidStart :: pieces, none⟩
  else if b < 0xe0 then ⟨pieces, some ⟨[byte], 1, 0x80, 0xbf, b - 0xc0⟩⟩
  else if b < 0xf0 then
    ⟨pieces, some ⟨[byte], 2, if b = 0xe0 then 0xa0 else 0x80,
      if b = 0xed then 0x9f else 0xbf, b - 0xe0⟩⟩
  else if b < 0xf5 then
    ⟨pieces, some ⟨[byte], 3, if b = 0xf0 then 0x90 else 0x80,
      if b = 0xf4 then 0x8f else 0xbf, b - 0xf0⟩⟩
  else ⟨.illFormed [byte] .invalidStart :: pieces, none⟩

/-- The next byte of a text. -/
def Scan.feed (scan : Scan) (byte : UInt8) : Scan :=
  match scan.pending with
  | none => Scan.start scan.pieces byte
  | some p =>
    if p.low ≤ byte.toNat ∧ byte.toNat ≤ p.high then
      let value := p.value * 64 + (byte.toNat - 0x80)
      if p.left = 1 then
        ⟨.char (Char.ofNat value) (p.bytes.length + 1) :: scan.pieces, none⟩
      else ⟨scan.pieces, some ⟨byte :: p.bytes, p.left - 1, 0x80, 0xbf, value⟩⟩
    else
      Scan.start (.illFormed p.bytes.reverse .invalidContinuation :: scan.pieces) byte

/-- The pieces at the end of the text, where a character that has begun stays unfinished. -/
def Scan.finish (scan : Scan) : List Piece :=
  match scan.pending with
  | none => scan.pieces.reverse
  | some p => (.illFormed p.bytes.reverse .unexpectedEnd :: scan.pieces).reverse

/-- The pieces of a byte text. -/
def utf8Pieces (bytes : List UInt8) : List Piece :=
  (bytes.foldl Scan.feed ⟨[], none⟩).finish

/-- The name of the encoding. -/
def utf8Name : String := "utf-8"

/-- The text of bytes that are UTF-8 throughout. -/
def readUtf8 (bytes : List UInt8) : Except TextFault (List Char) :=
  strictText utf8Name (utf8Pieces bytes)

/-- The bytes of a character. -/
def utf8Char (c : Char) : List UInt8 :=
  let n := c.toNat
  if n < 0x80 then [n.toUInt8]
  else if n < 0x800 then [(0xc0 + n / 64).toUInt8, (0x80 + n % 64).toUInt8]
  else if n < 0x10000 then
    [(0xe0 + n / 4096).toUInt8, (0x80 + n / 64 % 64).toUInt8, (0x80 + n % 64).toUInt8]
  else
    [(0xf0 + n / 262144).toUInt8, (0x80 + n / 4096 % 64).toUInt8, (0x80 + n / 64 % 64).toUInt8,
      (0x80 + n % 64).toUInt8]

/-- The bytes of a text. -/
def utf8Bytes (text : List Char) : List UInt8 := text.flatMap utf8Char

end Telematics.Text
