import Telematics.Text.Base64
import Telematics.Text.WideUnit

/-!
Texts in UTF-7. A plus sign shifts to a run of base 64 digits, which are UTF-16 units, and any other
byte ends the run; a hyphen that does so stands for nothing else. Directly behind a plus sign a
hyphen makes the two a plus sign.

* `utf7Pieces`: the pieces of a byte text.
-/

namespace Telematics.Text

/-- A run of digits that has begun: its bytes so far in reverse, the bits that are left over and
    their number, the first half of a pair, and the characters so far in reverse. -/
structure Shift where
  bytes : List UInt8
  bits : Nat
  value : Nat
  half : Option Nat
  text : List Char
deriving DecidableEq, Repr

/-- The state of a scan: the finished pieces in reverse, and the run that has begun. -/
structure ShiftScan where
  pieces : List Piece
  shift : Option Shift
deriving DecidableEq, Repr

/-- A unit that is complete. Half a pair without the other half stands for a character that cannot
    be shown. -/
def Shift.addUnit (shift : Shift) (unit : Nat) : Shift :=
  match shift.half with
  | some first =>
    if isSecondHalf unit then
      { shift with half := none, text := pairChar first unit :: shift.text }
    else single { shift with half := none, text := replacement :: shift.text }
  | none => single shift
where
  /-- A unit that completes no pair. -/
  single (shift : Shift) : Shift :=
    if isFirstHalf unit then { shift with half := some unit }
    else if isSecondHalf unit then { shift with text := replacement :: shift.text }
    else { shift with text := Char.ofNat unit :: shift.text }

/-- A digit of a run. -/
def Shift.addDigit (shift : Shift) (byte : UInt8) (digit : Nat) : Shift :=
  let bits := shift.bits + 6
  let value := shift.value * 64 + digit
  let shift := { shift with bytes := byte :: shift.bytes }
  if bits < 16 then { shift with bits, value }
  else
    let left := Nat.pow 2 (bits - 16)
    { shift with bits := bits - 16, value := value % left }.addUnit (value / left)

/-- What is wrong with a run that ends. -/
def Shift.fault? (shift : Shift) : Option ByteFault :=
  if 6 ≤ shift.bits then some .partialCharacter
  else if shift.value ≠ 0 then some .padding
  else none

/-- The pieces of the characters of a run, in front of pieces in reverse. -/
def Shift.chars (shift : Shift) (pieces : List Piece) : List Piece :=
  shift.text.map (.char · 0) ++ pieces

/-- The pieces behind a run that ends well. -/
def Shift.close (shift : Shift) (ending : List UInt8) (pieces : List Piece) : List Piece :=
  .mark (shift.bytes.length + ending.length) :: shift.chars pieces

/-- The pieces behind a run that ends badly. -/
def Shift.refuse (shift : Shift) (ending : List UInt8) (fault : ByteFault) (pieces : List Piece) :
    List Piece :=
  .illFormed (shift.bytes.reverse ++ ending) fault :: shift.chars pieces

/-- A byte outside of runs. -/
def ShiftScan.plain (pieces : List Piece) (byte : UInt8) : ShiftScan :=
  if byte = 0x2b then ⟨pieces, some ⟨[byte], 0, 0, none, []⟩⟩
  else if byte.toNat < 0x80 then ⟨.char (Char.ofNat byte.toNat) 1 :: pieces, none⟩
  else ⟨.illFormed [byte] .specialCharacter :: pieces, none⟩

/-- A byte that ends a run. -/
def ShiftScan.leave (pieces : List Piece) (shift : Shift) (byte : UInt8) : ShiftScan :=
  match shift.fault? with
  | some fault => ⟨shift.refuse [byte] fault pieces, none⟩
  | none =>
    let shift := if shift.half.isSome && byte.toNat < 0x80 && byte ≠ 0x2b then
        { shift with text := replacement :: shift.text }
      else shift
    if byte = 0x2d then ⟨shift.close [byte] pieces, none⟩
    else ShiftScan.plain (shift.close [] pieces) byte

/-- The next byte of a text. -/
def ShiftScan.feed (scan : ShiftScan) (byte : UInt8) : ShiftScan :=
  match scan.shift with
  | none => ShiftScan.plain scan.pieces byte
  | some shift =>
    match base64Value? byte with
    | some digit => ⟨scan.pieces, some (shift.addDigit byte digit)⟩
    | none =>
      if shift.bytes.length = 1 then
        if byte = 0x2d then ⟨.char '+' 2 :: scan.pieces, none⟩
        else ⟨shift.refuse [byte] .illFormedShift scan.pieces, none⟩
      else ShiftScan.leave scan.pieces shift byte

/-- The pieces at the end of a text. A run may end with the text, but if the text might go on, it is
    left out. -/
def ShiftScan.finish (complete : Bool) (scan : ShiftScan) : List Piece :=
  match scan.shift with
  | none => scan.pieces.reverse
  | some shift =>
    if !complete then scan.pieces.reverse
    else if shift.half.isSome || shift.fault?.isSome then
      (shift.refuse [] .unterminatedShift scan.pieces).reverse
    else (shift.close [] scan.pieces).reverse

/-- The pieces of a byte text, which is complete or might go on. -/
def utf7Pieces (complete : Bool) (bytes : List UInt8) : List Piece :=
  (bytes.foldl ShiftScan.feed ⟨[], none⟩).finish complete

/-- The name of the encoding. -/
def utf7Name : String := "utf7"

end Telematics.Text
