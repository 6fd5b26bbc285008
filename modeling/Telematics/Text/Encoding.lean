import Telematics.Text.Escape
import Telematics.Text.Hz
import Telematics.Text.Iso2022
import Telematics.Text.WideUnit
import Telematics.Text.Utf7
import Telematics.Text.Utf8

/-!
Encodings in which a byte text is a row of pieces.

* `Encoding.reading`: the pieces of a byte text.
* `Reading.text`, `Reading.lossy`: its text, without errors or with replacement characters.
* `Reading.lossy_eq_of_text`: a text without errors is the same either way.
-/

namespace Telematics.Text

/-- An encoding. One in units of several bytes has its byte order, or a mark at the beginning of the
    text tells it. -/
inductive Encoding where
  | ascii
  | latin1
  | utf7
  | utf8
  /-- UTF-8, perhaps behind a mark. -/
  | markedUtf8
  | utf16 (order : Option ByteOrder)
  | utf32 (order : Option ByteOrder)
  | codePage (page : CodePage)
  | multiByte (set : MultiByte)
  | iso2022 (set : Iso2022)
  | hz
  /-- Latin-1 with escapes. -/
  | escaped
  /-- Latin-1 with escapes for code points. -/
  | escapedCodePoints
deriving DecidableEq, Repr

/-- A byte text in pieces: the name of the encoding, as errors tell it, and the pieces. -/
structure Reading where
  encoding : String
  pieces : List Piece
deriving DecidableEq, Repr

/-- The name of ASCII. -/
def asciiName : String := "ascii"

/-- The mark of UTF-8. -/
def utf8Mark : List UInt8 := [0xef, 0xbb, 0xbf]

/-- The ASCII piece of a byte. -/
def asciiPiece (byte : UInt8) : Piece :=
  if byte.toNat < 0x80 then latin1Piece byte else .illFormed [byte] .notAscii

/-- The pieces behind the mark of a byte order, in that order. -/
def markedPieces (pieces : ByteOrder → List UInt8 → List Piece) (size : Nat) (bytes : List UInt8) :
    Option ByteOrder → List Piece
  | some order => .mark size :: pieces order (bytes.drop size)
  | none => pieces .littleEndian bytes

/-- The reading of a byte text, which is complete or might go on. -/
def Encoding.reading (encoding : Encoding) (complete : Bool) (bytes : List UInt8) : Reading :=
  match encoding with
  | .ascii => ⟨asciiName, bytes.map asciiPiece⟩
  | .latin1 => ⟨"latin-1", bytes.map latin1Piece⟩
  | .utf7 => ⟨utf7Name, utf7Pieces complete bytes⟩
  | .utf8 => ⟨utf8Name, utf8Pieces bytes⟩
  | .markedUtf8 =>
    ⟨utf8Name, utf8Pieces (if utf8Mark.isPrefixOf bytes then bytes.drop 3 else bytes)⟩
  | .utf16 (some order) => ⟨utf16Name order, utf16Pieces order bytes⟩
  | .utf16 none =>
    let order := utf16Order? bytes
    ⟨utf16Name (order.getD .littleEndian), markedPieces utf16Pieces 2 bytes order⟩
  | .utf32 (some order) => ⟨utf32Name order, utf32Pieces order bytes⟩
  | .utf32 none =>
    let order := utf32Order? bytes
    ⟨utf32Name (order.getD .littleEndian), markedPieces utf32Pieces 4 bytes order⟩
  | .codePage page => ⟨"charmap", page.pieces bytes⟩
  | .multiByte set => ⟨set.name, set.pieces bytes⟩
  | .iso2022 set => ⟨set.name, set.pieces bytes⟩
  | .hz => ⟨hzName, hzPieces bytes⟩
  | .escaped => ⟨escapedName, escapedPieces bytes⟩
  | .escapedCodePoints => ⟨codePointName, codePointPieces complete bytes⟩

/-- The text of a reading, if none of its pieces is ill-formed. -/
def Reading.text (reading : Reading) : Except TextFault (List Char) :=
  strictText reading.encoding reading.pieces

/-- The text of a reading with replacement characters, unless it fails altogether. -/
def Reading.lossy (reading : Reading) : Except TextFault (List Char) :=
  if .broken ∈ reading.pieces then .error .broken else .ok (lossyText reading.pieces)

/-- A text without errors is the same if errors are replaced. -/
theorem Reading.lossy_eq_of_text {reading : Reading} {text : List Char}
    (found : reading.text = .ok text) : reading.lossy = .ok text := by
  obtain ⟨same, whole⟩ := lossyText_of_strictText found
  simp [Reading.lossy, whole, same]

end Telematics.Text
