import Telematics.Text.CharacterName
import Telematics.Text.Piece

/-!
Texts in Latin-1 with backslash escapes. All escapes are read, or only those for code points.

* `escapedPieces`: the pieces of a byte text in which all escapes are read.
* `codePointPieces`: the pieces of a byte text in which only escapes for code points are read.
* `escapedPieces_of_plain`, `codePointPieces_of_plain`: a text without backslashes is Latin-1.
-/

namespace Telematics.Text

/-- The Latin-1 piece of a byte. -/
def latin1Piece (byte : UInt8) : Piece := .char (Char.ofNat byte.toNat) 1

/-- The byte that begins an escape. -/
def backslashByte : UInt8 := 0x5c

/-- The value of a byte that is a hexadecimal digit. -/
def hexByteValue? (byte : UInt8) : Option Nat := hexValue? (Char.ofNat byte.toNat)

/-- The byte is an octal digit. -/
def isOctalByte (byte : UInt8) : Bool := 0x30 ≤ byte.toNat && byte.toNat ≤ 0x37

/-- The number of digits behind the letter of an escape for a code point. -/
def codePointDigits? (letter : UInt8) : Option Nat :=
  if letter = 0x78 then some 2
  else if letter = 0x75 then some 4
  else if letter = 0x55 then some 8
  else none

/-- The piece of an escape for a code point: a letter and digits in `rest`, which are too few, or
    tell a code point, or no code point at all. Half of a pair stands for a character that cannot be
    shown. -/
def codePointPiece (beyond : ByteFault) (letter : UInt8) (count : Nat) (rest : List UInt8) :
    Piece :=
  let digits := (rest.take count).takeWhile fun byte => (hexByteValue? byte).isSome
  let bytes := backslashByte :: letter :: digits
  let value := (digits.filterMap hexByteValue?).foldl (fun value digit => value * 16 + digit) 0
  if digits.length < count then
    let atEnd := digits.length = rest.length
    .illFormed bytes (.truncatedEscape (Char.ofNat letter.toNat) count atEnd)
  else if 0x110000 ≤ value then .illFormed bytes beyond
  else if 0xd800 ≤ value && value < 0xe000 then .char replacement bytes.length
  else .char (Char.ofNat value) bytes.length

/-- The piece of an escape for a character by its name in braces. -/
def namePiece (rest : List UInt8) : Piece :=
  let before := [backslashByte, 0x4e]
  match rest with
  | [] => .illFormed before (.malformedName true)
  | 0x7b :: behind =>
    let name := behind.takeWhile (· ≠ 0x7d)
    if name.length = behind.length then .illFormed (before ++ 0x7b :: name) (.malformedName true)
    else if name = [] then .illFormed (before ++ [0x7b]) (.malformedName false)
    else match charNamed? (name.map fun byte => Char.ofNat byte.toNat) with
      | some c => .char c (name.length + 4)
      | none => .illFormed (before ++ 0x7b :: name ++ [0x7d]) .unknownName
  | _ => .illFormed before (.malformedName false)

/-- The character of an escape of two bytes. -/
def simpleEscape? (byte : UInt8) : Option Char :=
  match Char.ofNat byte.toNat with
  | '\\' => some '\\'
  | '\'' => some '\''
  | '"' => some '"'
  | 'a' => some '\x07'
  | 'b' => some '\x08'
  | 'f' => some '\x0c'
  | 'n' => some '\n'
  | 'r' => some '\r'
  | 't' => some '\t'
  | 'v' => some '\x0b'
  | _ => none

/-- The piece of an escape in octal digits, of which there are at most three. -/
def octalPiece (rest : List UInt8) : Piece :=
  let digits := (rest.take 3).takeWhile isOctalByte
  .char (Char.ofNat (digits.foldl (fun value digit => value * 8 + (digit.toNat - 0x30)) 0))
    (digits.length + 1)

/-- The piece at the front of a text in which all escapes are read. An escape that is not known is
    the backslash itself, and one of the end of a line is nothing. -/
def escapedFront (byte : UInt8) (rest : List UInt8) : Piece :=
  if byte ≠ backslashByte then latin1Piece byte
  else match rest with
    | [] => .illFormed [byte] .lastBackslash
    | letter :: behind =>
      if letter = 0x0a then .mark 2
      else if isOctalByte letter then octalPiece rest
      else if letter = 0x4e then namePiece behind
      else match simpleEscape? letter, codePointDigits? letter with
        | some c, _ => .char c 2
        | none, some count => codePointPiece .illegalCharacter letter count behind
        | none, none => .char '\\' 1

/-- The pieces of a byte text in which all escapes are read. -/
def escapedPieces (bytes : List UInt8) : List Piece := piecesBy escapedFront 0 bytes

/-- The piece at the front of a text in which only escapes for code points are read. Two backslashes
    side by side are one piece. A backslash at the end of a text that might go on is unfinished. -/
def codePointFront (complete : Bool) (byte : UInt8) (rest : List UInt8) : Piece :=
  if byte ≠ backslashByte then latin1Piece byte
  else match rest with
    | [] => if complete then latin1Piece byte else .illFormed [byte] .lastBackslash
    | letter :: behind =>
      if letter = backslashByte then .char '\\' 2
      else if letter = 0x78 then latin1Piece byte
      else match codePointDigits? letter with
        | some count => codePointPiece .outOfRange letter count behind
        | none => latin1Piece byte

/-- Two backslashes that are one piece, one by one. -/
def singleBackslashes : Piece → List Piece
  | .char '\\' 2 => [.char '\\' 1, .char '\\' 1]
  | piece => [piece]

/-- The pieces of a byte text, which is complete or might go on, in which only escapes for code
    points are read. -/
def codePointPieces (complete : Bool) (bytes : List UInt8) : List Piece :=
  (piecesBy (codePointFront complete) 0 bytes).flatMap singleBackslashes

/-- The names of the two encodings. -/
def escapedName : String := "unicodeescape"

@[inherit_doc escapedName]
def codePointName : String := "rawunicodeescape"

/-- Pieces of one byte each. -/
theorem piecesBy_of_single {front : UInt8 → List UInt8 → Piece} {bytes : List UInt8}
    (single : ∀ byte ∈ bytes, ∀ rest, front byte rest = latin1Piece byte) :
    piecesBy front 0 bytes = bytes.map latin1Piece := by
  induction bytes with
  | nil => rfl
  | cons byte rest ih =>
    have size : (latin1Piece byte).size = 1 := rfl
    simp only [piecesBy, Nat.lt_irrefl, if_false, List.map_cons,
      single byte (List.mem_cons_self ..), size, Nat.sub_self]
    rw [ih fun other present => single other (List.mem_cons_of_mem _ present)]

/-- A text without backslashes is Latin-1. -/
theorem escapedPieces_of_plain {bytes : List UInt8} (plain : backslashByte ∉ bytes) :
    escapedPieces bytes = bytes.map latin1Piece := by
  refine piecesBy_of_single fun byte present rest => ?_
  have other : byte ≠ backslashByte := fun equal => plain (equal ▸ present)
  simp [escapedFront, other]

@[inherit_doc escapedPieces_of_plain]
theorem codePointPieces_of_plain {complete : Bool} {bytes : List UInt8}
    (plain : backslashByte ∉ bytes) :
    codePointPieces complete bytes = bytes.map latin1Piece := by
  have pieces : piecesBy (codePointFront complete) 0 bytes = bytes.map latin1Piece := by
    refine piecesBy_of_single fun byte present rest => ?_
    have other : byte ≠ backslashByte := fun equal => plain (equal ▸ present)
    simp [codePointFront, other]
  have alone : ∀ byte, singleBackslashes (latin1Piece byte) = [latin1Piece byte] := by
    intro byte
    simp [singleBackslashes, latin1Piece]
  rw [codePointPieces, pieces, List.flatMap_map]
  simp only [alone]
  exact List.map_eq_flatMap.symm

end Telematics.Text
