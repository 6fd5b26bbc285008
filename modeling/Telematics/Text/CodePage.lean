import Telematics.Text.Piece

/-!
Code pages: encodings in which every byte is a character by itself, or stands for nothing.

* `CodePage.pieces`: the pieces of a byte text; there are as many as bytes.
-/

namespace Telematics.Text

/-- What a byte that stands for nothing has in a code page. -/
def unmapped : Char := '\uFFFE'

/-- The ASCII characters, in which most code pages agree. -/
def asciiHalf : String := String.ofList ((List.range 0x80).map Char.ofNat)

/-- The controls from 0x80 to 0x9F, which stand for themselves in many code pages. -/
def upperControls : String := String.ofList ((List.range 0x20).map fun n => Char.ofNat (0x80 + n))

/-- A code page: its name, other names, and the characters of the lower and of the upper 128
    bytes. -/
structure CodePage where
  name : String
  aliases : List String
  lower : String := asciiHalf
  upper : String
deriving DecidableEq, Repr

/-- The characters of all bytes. -/
def CodePage.chars (page : CodePage) : List Char := page.lower.toList ++ page.upper.toList

/-- The piece of a byte, by the characters of all bytes. -/
def mappedPiece (chars : List Char) (byte : UInt8) : Piece :=
  match chars[byte.toNat]? with
  | some c => if c = unmapped then .illFormed [byte] .unmapped else .char c 1
  | none => .illFormed [byte] .unmapped

/-- The pieces of a byte text. -/
def CodePage.pieces (page : CodePage) (bytes : List UInt8) : List Piece :=
  bytes.map (mappedPiece page.chars)

@[simp] theorem CodePage.length_pieces (page : CodePage) (bytes : List UInt8) :
    (page.pieces bytes).length = bytes.length := by
  simp [CodePage.pieces]

end Telematics.Text
