import Telematics.Text.Hex

/-!
Byte texts in pieces. In every encoding a byte text is a row of pieces: characters, marks that only
tell how to read on, and runs of bytes that are neither. What is done with the ill-formed pieces is
the same for all encodings: the first one is an error, or each becomes a replacement character.

* `strictText`: the text, if no piece is ill-formed.
* `lossyText`: the text with replacement characters.
* `lossyText_of_strictText`: a text without errors is the same either way.
-/

namespace Telematics.Text

/-- Why bytes are no text. -/
inductive ByteFault where
  | invalidStart
  | invalidContinuation
  | unexpectedEnd
  | notAscii
  /-- The byte stands for nothing. -/
  | unmapped
  | truncated
  /-- The second half of a pair without its first half. -/
  | illegalEncoding
  /-- The first half of a pair without its second half. -/
  | illegalSurrogate
  /-- Half of a pair where whole characters stand. -/
  | surrogate
  /-- A number beyond all code points. -/
  | beyondCodePoints
  | specialCharacter
  | illFormedShift
  | partialCharacter
  | padding
  | unterminatedShift
  | illegalSequence
  | incompleteSequence
  /-- An escape for a code point, with the number of digits that it needs, has too few. -/
  | truncatedEscape (letter : Char) (digits : Nat) (atEnd : Bool)
  /-- An escape for a name that is not in braces. -/
  | malformedName (atEnd : Bool)
  | unknownName
  | lastBackslash
  | illegalCharacter
  | outOfRange
deriving DecidableEq, Repr

/-- The wording of a fault. -/
def ByteFault.message : ByteFault → String
  | .invalidStart => "invalid start byte"
  | .invalidContinuation => "invalid continuation byte"
  | .unexpectedEnd => "unexpected end of data"
  | .notAscii => "ordinal not in range(128)"
  | .unmapped => "character maps to <undefined>"
  | .truncated => "truncated data"
  | .illegalEncoding => "illegal encoding"
  | .illegalSurrogate => "illegal UTF-16 surrogate"
  | .surrogate => "code point in surrogate code point range(0xd800, 0xe000)"
  | .beyondCodePoints => "code point not in range(0x110000)"
  | .specialCharacter => "unexpected special character"
  | .illFormedShift => "ill-formed sequence"
  | .partialCharacter => "partial character in shift sequence"
  | .padding => "non-zero padding bits in shift sequence"
  | .unterminatedShift => "unterminated shift sequence"
  | .illegalSequence => "illegal multibyte sequence"
  | .incompleteSequence => "incomplete multibyte sequence"
  | .truncatedEscape letter digits _ =>
    "truncated \\" ++ String.ofList (letter :: List.replicate digits 'X') ++ " escape"
  | .malformedName _ => "malformed \\N character escape"
  | .unknownName => "unknown Unicode character name"
  | .lastBackslash => "\\ at end of string"
  | .illegalCharacter => "illegal Unicode character"
  | .outOfRange => "\\Uxxxxxxxx out of range"

/-- The bytes may be the beginning of a text that goes on. -/
def ByteFault.isUnfinished : ByteFault → Bool
  | .unexpectedEnd => true
  | .truncated => true
  | .unterminatedShift => true
  | .truncatedEscape _ _ atEnd => atEnd
  | .malformedName atEnd => atEnd
  | .lastBackslash => true
  | _ => false

/-- A piece of a byte text: a character or two with the number of their bytes, the number of bytes
    of a mark, or a run of bytes that is neither. -/
inductive Piece where
  | char (c : Char) (size : Nat)
  | pair (first second : Char) (size : Nat)
  | mark (size : Nat)
  | illFormed (bytes : List UInt8) (fault : ByteFault)
  /-- Bytes with which the reading fails altogether, so that nothing can be said about them. -/
  | broken
deriving DecidableEq, Repr

/-- The number of bytes of a piece. -/
def Piece.size : Piece → Nat
  | .char _ size => size
  | .pair _ _ size => size
  | .mark size => size
  | .illFormed bytes _ => bytes.length
  | .broken => 1

/-- The pieces of a byte text, by the piece at the front of what is left. `skipped` bytes belong to
    a piece already. -/
def piecesBy (front : UInt8 → List UInt8 → Piece) (skipped : Nat) : List UInt8 → List Piece
  | [] => []
  | byte :: rest =>
    if 0 < skipped then piecesBy front (skipped - 1) rest
    else front byte rest :: piecesBy front ((front byte rest).size - 1) rest

/-- A byte text that is not in its encoding: the bytes of its first ill-formed piece, where they
    begin, and what is wrong with them. -/
structure ByteError where
  encoding : String
  bytes : List UInt8
  position : Nat
  fault : ByteFault
deriving DecidableEq, Repr

/-- A byte as two hexadecimal digits. -/
def hexByte (byte : UInt8) : String := String.ofList (hexDigits 2 byte.toNat)

/-- The wording of an error: a single byte is shown, several are counted. -/
def ByteError.message (error : ByteError) : String :=
  let place := match error.bytes with
    | [byte] => "byte 0x" ++ hexByte byte ++ " in position " ++ toString error.position
    | bytes => "bytes in position " ++ toString error.position ++ "-" ++
        toString (error.position + bytes.length - 1)
  "'" ++ error.encoding ++ "' codec can't decode " ++ place ++ ": " ++ error.fault.message

/-- The replacement character, which stands for what could not be read. -/
def replacement : Char := '\uFFFD'

/-- The characters of a piece, or the replacement character. -/
def Piece.shown : Piece → List Char
  | .char c _ => [c]
  | .pair first second _ => [first, second]
  | .mark _ => []
  | .illFormed _ _ => [replacement]
  | .broken => []

/-- The text of pieces, with a replacement character for each ill-formed one. -/
def lossyText (pieces : List Piece) : List Char := pieces.flatMap Piece.shown

/-- Why bytes give no text. -/
inductive TextFault where
  | bytes (error : ByteError)
  /-- The encoding refuses the bytes, with a complaint of its own. -/
  | refused (complaint : String)
  | broken
deriving DecidableEq, Repr

/-- The wording of a fault. -/
def TextFault.message : TextFault → String
  | .bytes error => error.message
  | .refused complaint => complaint
  | .broken => "internal codec error"

/-- The text of pieces that begin at a byte position, behind `read` in reverse. The first ill-formed
    piece is an error. -/
def strictTextFrom (encoding : String) (position : Nat) (read : List Char) :
    List Piece → Except TextFault (List Char)
  | [] => .ok read.reverse
  | .char c size :: rest => strictTextFrom encoding (position + size) (c :: read) rest
  | .pair first second size :: rest =>
    strictTextFrom encoding (position + size) (second :: first :: read) rest
  | .mark size :: rest => strictTextFrom encoding (position + size) read rest
  | .illFormed bytes fault :: _ => .error (.bytes ⟨encoding, bytes, position, fault⟩)
  | .broken :: _ => .error .broken

/-- The text of pieces, if none of them is ill-formed. -/
def strictText (encoding : String) (pieces : List Piece) : Except TextFault (List Char) :=
  strictTextFrom encoding 0 [] pieces

theorem lossyText_of_strictTextFrom {encoding : String} {position : Nat} {read text : List Char}
    {pieces : List Piece} (found : strictTextFrom encoding position read pieces = .ok text) :
    read.reverse ++ lossyText pieces = text ∧ .broken ∉ pieces := by
  induction pieces generalizing position read with
  | nil => simpa [strictTextFrom, lossyText] using found
  | cons piece rest ih =>
    cases piece with
    | char c size =>
      have := ih (by simpa [strictTextFrom] using found)
      simpa [lossyText, Piece.shown] using this
    | pair first second size =>
      have := ih (by simpa [strictTextFrom] using found)
      simpa [lossyText, Piece.shown] using this
    | mark size =>
      have := ih (by simpa [strictTextFrom] using found)
      simpa [lossyText, Piece.shown] using this
    | illFormed bytes fault => simp [strictTextFrom] at found
    | broken => simp [strictTextFrom] at found

/-- A text without errors is the same if errors are replaced. -/
theorem lossyText_of_strictText {encoding : String} {text : List Char} {pieces : List Piece}
    (found : strictText encoding pieces = .ok text) :
    lossyText pieces = text ∧ .broken ∉ pieces := by
  simpa using lossyText_of_strictTextFrom found

end Telematics.Text
