import Telematics.Text.Encoding
import Telematics.Text.Normal.Folded
import Telematics.Text.NormalForm
import Telematics.Text.Punycode
import Telematics.Text.Quoted
import Telematics.Text.Split

/-!
Labels of domain names. A label of any characters is prepared for comparison, and written in ASCII
as Punycode behind a mark. A label in ASCII is read only if it is written just so.

* `prepareLabel`: a label, prepared.
* `writeLabel`: a label, written.
* `readLabel`: the label of what is written.
* `readDomain`: the labels between points.
-/

namespace Telematics.Text

/-- Why a label cannot be read or written. -/
inductive LabelFault where
  | length
  | badCharacter (code : Nat)
  /-- Characters that are written from left to right stand among those from right to left. -/
  | mixedDirections
  /-- A label from right to left does not begin and end with such characters. -/
  | unclearDirection
  | marked
  | punycode (fault : PunycodeFault)
  /-- What is written is not what the label would be written as. -/
  | otherwiseWritten (one other : List Char)
  | bytes (error : ByteError)
deriving DecidableEq, Repr

/-- A character between quotes, which may be half of a pair. -/
def quotedCode (code : Nat) : String :=
  if 0xd800 ≤ code ∧ code < 0xe000 then "'\\u" ++ String.ofList (hexDigits 4 code) ++ "'"
  else quoted (String.ofList [Char.ofNat code])

/-- Bytes between quotes. -/
def quotedBytes (bytes : List Char) : String := "b" ++ quoted (String.ofList bytes)

/-- The wording of a fault. -/
def LabelFault.message : LabelFault → String
  | .length => "label empty or too long"
  | .badCharacter code => "Invalid character " ++ quotedCode code
  | .mixedDirections => "Violation of BIDI requirement 2"
  | .unclearDirection => "Violation of BIDI requirement 3"
  | .marked => "Label starts with ACE prefix"
  | .punycode fault =>
    "decoding with 'punycode' codec failed (UnicodeError: " ++ fault.message ++ ")"
  | .otherwiseWritten one other =>
    "('IDNA does not round-trip', " ++ quotedBytes one ++ ", " ++ quotedBytes other ++ ")"
  | .bytes error => error.message

/-! ## Preparation -/

/-- A label without the characters that do not count, in small letters and in normal form. -/
def foldLabel (label : CodePoints) : CodePoints :=
  normalForm (label.flatMap fun code =>
    if ignoredRanges.hasCode code then []
    else ((foldings.find? code).map (·.map Char.toNat)).getD [code])

/-- The directions of a label do not conflict. -/
def checkDirections (label : CodePoints) : Except LabelFault Unit :=
  let isRightToLeft (code : Option Nat) : Bool := code.any rightToLeftRanges.hasCode
  if !label.any rightToLeftRanges.hasCode then .ok ()
  else if label.any leftToRightRanges.hasCode then .error .mixedDirections
  else if !isRightToLeft label.head? || !isRightToLeft label.getLast? then .error .unclearDirection
  else .ok ()

/-- A label, prepared for comparison. -/
def prepareLabel (label : CodePoints) : Except LabelFault CodePoints := do
  let folded := foldLabel label
  match folded.find? refusedRanges.hasCode with
  | some code => throw (.badCharacter code)
  | none => checkDirections folded
  return folded

/-! ## Writing -/

/-- The length of a written label is below this. -/
def labelLimit : Nat := 64

/-- What a label in Punycode begins with. -/
def labelMark : List Char := "xn--".toList

/-- A written label, if its length is right. -/
def checkLength (written : List Char) : Except LabelFault (List Char) :=
  if written ≠ [] && written.length < labelLimit then .ok written else .error .length

/-- A label, written in ASCII. -/
def writeLabel (label : CodePoints) : Except LabelFault (List Char) := do
  if label.all isAsciiCode then checkLength (label.map Char.ofNat)
  else
    let prepared ← prepareLabel label
    if prepared.all isAsciiCode then checkLength (prepared.map Char.ofNat)
    else if (labelMark.map Char.toNat).isPrefixOf prepared then throw .marked
    else checkLength (labelMark ++ writePunycode prepared)

/-! ## Reading -/

/-- The characters of bytes in ASCII. -/
def readAscii (bytes : List UInt8) : Except ByteError (List Char) :=
  match bytes.findIdx? (0x80 ≤ ·.toNat) with
  | some place => .error ⟨asciiName, (bytes.drop place).take 1, place, .notAscii⟩
  | none => .ok (bytes.map fun byte => Char.ofNat byte.toNat)

/-- The text of Punycode in bytes. -/
def punycodeOf (bytes : List UInt8) : Except LabelFault CodePoints := do
  let (ascii, numbers) := punycodeParts (· = 0x2d) bytes
  let ascii ← (readAscii ascii).mapError .bytes
  let numbers ← (readAscii numbers).mapError .bytes
  (readPunycode false (ascii.map Char.toNat) numbers).mapError .punycode

/-- The label of what is written. -/
def readLabel (bytes : List UInt8) : Except LabelFault (List Char) :=
  if (utf8Bytes labelMark).isPrefixOf bytes then do
    let label ← punycodeOf (bytes.drop labelMark.length)
    let again ← writeLabel label
    let written := bytes.map fun byte => Char.ofNat byte.toNat
    if written.map Char.toLower = again then return label.map Char.ofNat
    throw (.otherwiseWritten written again)
  else (readAscii bytes).mapError .bytes

/-- The labels between points, as one text. -/
def readDomain (bytes : List UInt8) : Except LabelFault (List Char) := do
  let labels ← (splitOn 0x2e bytes).mapM readLabel
  return ".".toList.intercalate labels

end Telematics.Text
