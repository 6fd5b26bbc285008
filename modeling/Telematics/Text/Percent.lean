import Telematics.Text.Charset

/-!
Percent escapes. A percent sign and two hexadecimal digits stand for a byte; a percent sign
without two such digits stands for itself.
-/

namespace Telematics.Text

/-- The byte of two hexadecimal digits. -/
def escapedByte? (high low : Char) : Option UInt8 :=
  match hexValue? high, hexValue? low with
  | some h, some l => some (h * 16 + l).toUInt8
  | _, _ => none

/-- A part of a text with percent escapes: a byte, written plainly or escaped, or a character that
    is no byte. -/
inductive Part where
  | byte (b : UInt8)
  | char (c : Char)
deriving DecidableEq, Repr

/-- A character written plainly. -/
def Part.ofChar (c : Char) : Part :=
  if c.toNat < 0x80 then .byte c.toNat.toUInt8 else .char c

/-- The parts of a text with percent escapes, behind `read` in reverse. -/
def unescape (read : List Part) : List Char → List Part
  | [] => read.reverse
  | c :: rest =>
    if c = '%' then
      match rest with
      | high :: low :: after =>
        match escapedByte? high low with
        | some b => unescape (.byte b :: read) after
        | none => unescape (.byte 0x25 :: read) (high :: low :: after)
      | [last] => (Part.ofChar last :: .byte 0x25 :: read).reverse
      | [] => (.byte 0x25 :: read).reverse
    else unescape (Part.ofChar c :: read) rest

/-- The text of parts, with `waiting` bytes in reverse in front of them. Bytes side by side are
    decoded together. -/
def decodeParts (charset : Charset) (waiting : List UInt8) :
    List Part → Except TextFault (List Char)
  | [] => charset.readLossy waiting.reverse
  | .byte b :: rest => decodeParts charset (b :: waiting) rest
  | .char c :: rest => do
    return (← charset.readLossy waiting.reverse) ++ c :: (← decodeParts charset [] rest)

/-- The text of percent escapes, bytes being read in an encoding. A text without a percent sign
    stays as it is; in any other one, plain ASCII characters are bytes too. -/
def percentDecode (charset : Charset) (text : List Char) : Except TextFault (List Char) :=
  if text.contains '%' then decodeParts charset [] (unescape [] text) else .ok text

/-- The text of percent escapes, every byte being a character. -/
def percentDecodeLatin1 (text : List Char) : List Char :=
  (unescape [] text).map fun
    | .byte b => Char.ofNat b.toNat
    | .char c => c

/-- The bytes of a text with percent escapes. -/
def percentBytes (text : List Char) : List UInt8 :=
  (unescape [] text).flatMap fun
    | .byte b => [b]
    | .char c => utf8Char c

/-- An escaped byte, in upper case. -/
def percentByte (b : UInt8) : List Char :=
  '%' :: (hexDigits 2 b.toNat).map Char.toUpper

/-- A text in which every byte is escaped but the ASCII characters of a class. -/
def percentEncode (keep : Char → Bool) (text : List Char) : List Char :=
  (utf8Bytes text).flatMap fun b =>
    let c := Char.ofNat b.toNat
    if b.toNat < 0x80 && keep c then [c] else percentByte b

/-- Letters, digits and the marks that never need an escape. -/
def isUnreserved (c : Char) : Bool := c.isAlphanum || "-_.~".contains c

theorem percentDecode_of_plain {charset : Charset} {text : List Char}
    (plain : text.contains '%' = false) : percentDecode charset text = .ok text := by
  simp only [percentDecode, plain, Bool.false_eq_true, if_false]

end Telematics.Text
