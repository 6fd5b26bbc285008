import Telematics.Text.Label

/-!
Names of encodings stand for ways to read byte texts. A byte text is read in three ways: what is no
text is an error, or becomes replacement characters, or the text is a stream, which may break off
inside a character. Nothing at all is the empty text in every way.

* `Charset.read`, `Charset.readLossy`, `Charset.readStream`: the three ways.
* `Charset.readOrLatin1`: bytes that are no text in an encoding are read as Latin-1.
* `Charset.readLossy_eq_of_read`: a text without errors is the same either way.
-/

namespace Telematics.Text

/-- A way to read byte texts. -/
inductive Charset where
  | pieces (encoding : Encoding)
  | punycode
  /-- The labels of domain names. -/
  | domain
  /-- An encoding that refuses everything. -/
  | undefined
deriving DecidableEq, Repr

/-- The encoding of all texts that tell no other one. -/
def Charset.utf8 : Charset := .pieces .utf8

/-- The complaint of an encoding that refuses everything. -/
def undefinedMessage : String := "undefined encoding"

/-- The complaint of an encoding that knows no replacement characters. -/
def unsupportedMessage : String := "Unsupported error handling replace"

/-- The characters of code points. Half of a pair stands for a character that cannot be shown. -/
def charsOf (text : CodePoints) : List Char :=
  text.map fun code => if 0xd800 ≤ code && code < 0xe000 then replacement else Char.ofNat code

/-- The text of Punycode in bytes, of which only the ASCII characters may be replaced. -/
def readPunycodeBytes (lenient : Bool) (bytes : List UInt8) : Except TextFault (List Char) := do
  let (ascii, numbers) := punycodeParts (· = 0x2d) bytes
  let reading : Reading := Encoding.ascii.reading true ascii
  let ascii ← if lenient then reading.lossy else reading.text
  let numbers ← (readAscii numbers).mapError .bytes
  let text ← (readPunycode lenient (ascii.map Char.toNat) numbers).mapError
    fun fault => .refused fault.message
  return charsOf text

/-- The fault of labels as one of texts. -/
def LabelFault.toTextFault : LabelFault → TextFault
  | .bytes error => .bytes error
  | fault => .refused fault.message

/-- The text of bytes, if all of them are text. -/
def Charset.read (charset : Charset) (bytes : List UInt8) : Except TextFault (List Char) :=
  if bytes = [] then .ok []
  else match charset with
    | .pieces encoding => (encoding.reading true bytes).text
    | .punycode => readPunycodeBytes false bytes
    | .domain => (readDomain bytes).mapError LabelFault.toTextFault
    | .undefined => .error (.refused undefinedMessage)

/-- The text of bytes, with replacement characters for what is no text. -/
def Charset.readLossy (charset : Charset) (bytes : List UInt8) : Except TextFault (List Char) :=
  if bytes = [] then .ok []
  else match charset with
    | .pieces encoding => (encoding.reading true bytes).lossy
    | .punycode => readPunycodeBytes true bytes
    | .domain => .error (.refused unsupportedMessage)
    | .undefined => .error (.refused undefinedMessage)

/-- The text of bytes in Latin-1, in which every byte is a character. -/
def latin1Text (bytes : List UInt8) : List Char := bytes.map fun byte => Char.ofNat byte.toNat

/-- The text of bytes; bytes that are no text in the encoding are read as Latin-1. -/
def Charset.readOrLatin1 (charset : Charset) (bytes : List UInt8) :
    Except TextFault (List Char) :=
  match charset.read bytes with
  | .error (.bytes _) => .ok (latin1Text bytes)
  | outcome => outcome

/-- Why a stream of bytes is no text. -/
inductive StreamFault where
  | text (fault : TextFault)
  /-- The stream lacks the mark that tells the byte order. -/
  | noMark (encoding : String)
deriving DecidableEq, Repr

/-- The wording of a fault. -/
def StreamFault.message : StreamFault → String
  | .text fault => fault.message
  | .noMark encoding => encoding ++ " stream does not start with BOM"

/-- The mark that a stream has to begin with, unless it is empty: the name of the encoding, if the
    mark is missing. -/
def Encoding.missingMark? (encoding : Encoding) (bytes : List UInt8) : Option String :=
  match encoding with
  | .utf16 none => if (utf16Order? bytes).isSome then none else some "UTF-16"
  | .utf32 none => if (utf32Order? bytes).isSome then none else some "UTF-32"
  | _ => none

/-- The piece is one that breaks off. -/
def Piece.isUnfinished : Piece → Bool
  | .illFormed _ fault => fault.isUnfinished
  | _ => false

/-- The text of a stream of bytes, which may break off inside a character. -/
def Encoding.readStream (encoding : Encoding) (bytes : List UInt8) :
    Except StreamFault (List Char) := do
  let reading := encoding.reading false bytes
  let finished := { reading with pieces := reading.pieces.filter (!·.isUnfinished) }
  let text ← finished.text.mapError .text
  match encoding.missingMark? bytes with
  | some encoding => if text = [] then return [] else throw (.noMark encoding)
  | none => return text

/-- The text of a stream of bytes. -/
def Charset.readStream (charset : Charset) (bytes : List UInt8) :
    Except StreamFault (List Char) :=
  match charset with
  | .pieces encoding => encoding.readStream bytes
  | charset => (charset.read bytes).mapError .text

/-- In an encoding in pieces, a text without errors is the same if errors are replaced. -/
theorem Charset.readLossy_eq_of_read {encoding : Encoding} {bytes : List UInt8}
    {text : List Char} (found : (Charset.pieces encoding).read bytes = .ok text) :
    (Charset.pieces encoding).readLossy bytes = .ok text := by
  simp only [Charset.read, Charset.readLossy] at found ⊢
  split at found
  · rename_i empty
    rw [if_pos empty, found]
  · rename_i nonempty
    rw [if_neg nonempty, Reading.lossy_eq_of_text found]

end Telematics.Text
