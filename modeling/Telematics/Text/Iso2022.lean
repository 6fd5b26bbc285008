import Telematics.Text.CodePage.Iso
import Telematics.Text.MultiByte

/-!
Encodings of ISO 2022, in which escape sequences tell the character set of what follows. There are
three places for sets: the first is read plainly, the second after a shift-out, and the third for
one character behind an escape of its own.

Any other escape sequence is passed through up to its end.

* `Iso2022.front`: the piece at the front of a byte text, and how to read on.
* `Iso2022.pieces`: the pieces of a byte text.
-/

namespace Telematics.Text

/-- A character set that can be put into a place. -/
inductive CharacterSet where
  | ascii
  | japaneseRoman
  | japaneseKana
  | japanese
  /-- The same characters, as they were numbered at first. -/
  | olderJapanese
  | japaneseSupplement
  /-- The first plane of JIS X 0213. -/
  | firstPlane (edition : Edition)
  /-- Its second plane. -/
  | secondPlane
  | korean
  | simplified
  | latin1
  | greek
deriving DecidableEq, Repr

/-- An encoding. -/
inductive Iso2022 where
  | japanese
  | japanese1
  | japanese2
  | japaneseLevels (edition : Edition)
  | japaneseExtended
  | korean
deriving DecidableEq, Repr

/-- The name of an encoding. -/
def Iso2022.name : Iso2022 → String
  | .japanese => "iso2022_jp"
  | .japanese1 => "iso2022_jp_1"
  | .japanese2 => "iso2022_jp_2"
  | .japaneseLevels .of2000 => "iso2022_jp_3"
  | .japaneseLevels .of2004 => "iso2022_jp_2004"
  | .japaneseExtended => "iso2022_jp_ext"
  | .korean => "iso2022_kr"

/-- The sets that an encoding can put into a place. -/
def Iso2022.sets : Iso2022 → List CharacterSet
  | .japanese => [.japanese, .olderJapanese, .japaneseRoman]
  | .japanese1 => [.japanese, .olderJapanese, .japaneseSupplement, .japaneseRoman]
  | .japanese2 =>
    [.japanese, .olderJapanese, .japaneseSupplement, .korean, .simplified, .japaneseRoman, .latin1,
      .greek]
  | .japaneseLevels edition => [.japanese, .firstPlane edition, .secondPlane]
  | .japaneseExtended =>
    [.japanese, .olderJapanese, .japaneseSupplement, .japaneseRoman, .japaneseKana]
  | .korean => [.korean]

/-- The encoding has shifts between its first two places. -/
def Iso2022.hasShifts (encoding : Iso2022) : Bool := encoding = .korean

/-- The encoding has a third place. -/
def Iso2022.hasThird (encoding : Iso2022) : Bool := encoding = .japanese2

/-- How to read on: the sets in the three places, whether the second one is read, and whether an
    escape sequence is passed through. -/
structure Places where
  first : CharacterSet := .ascii
  second : CharacterSet := .ascii
  third : CharacterSet := .ascii
  shifted : Bool := false
  passing : Bool := false
deriving DecidableEq, Repr

/-- The set of the last byte of an escape sequence. -/
def setNamed? (wide : Bool) (byte : UInt8) : Option CharacterSet :=
  match wide, byte with
  | true, 0x40 => some .olderJapanese
  | true, 0x42 => some .japanese
  | true, 0x44 => some .japaneseSupplement
  | true, 0x43 => some .korean
  | true, 0x41 => some .simplified
  | true, 0x4f => some (.firstPlane .of2000)
  | true, 0x51 => some (.firstPlane .of2004)
  | true, 0x50 => some .secondPlane
  | false, 0x42 => some .ascii
  | false, 0x4a => some .japaneseRoman
  | false, 0x49 => some .japaneseKana
  | false, 0x41 => some .latin1
  | false, 0x46 => some .greek
  | _, _ => none

/-- The set takes two bytes for a character. -/
def CharacterSet.isWide : CharacterSet → Bool
  | .japanese => true
  | .olderJapanese => true
  | .japaneseSupplement => true
  | .firstPlane _ => true
  | .secondPlane => true
  | .korean => true
  | .simplified => true
  | _ => false

/-- The piece of two bytes in the first plane, of which one mark is full-width. -/
def firstPlaneCell? (edition : Edition) (first second : UInt8) : Option Piece :=
  if first = 0x21 && second = 0x40 then some (.char '＼' 2)
  else firstPlanePiece? edition [first, second] first.toNat second.toNat

/-- The piece of two bytes in a set. -/
def CharacterSet.pair? (set : CharacterSet) (first second : UInt8) : Option Piece :=
  let char? (grid : Grid) : Option Piece := (grid.char? first.toNat second.toNat).map (.char · 2)
  match set with
  | .japanese => char? Telematics.Text.japanese
  | .olderJapanese => char? Telematics.Text.japanese
  | .japaneseSupplement => char? Telematics.Text.japaneseSupplement
  | .firstPlane edition => firstPlaneCell? edition first second
  | .secondPlane => char? japaneseSecondPlane
  | .korean => char? Telematics.Text.korean
  | .simplified => char? Telematics.Text.simplified
  | _ => none

/-- The character of a byte in a set. -/
def CharacterSet.char? : CharacterSet → UInt8 → Option Char
  | .ascii, byte => some (Char.ofNat byte.toNat)
  | .japaneseRoman, byte => some (romanChar byte)
  | .japaneseKana, byte =>
    if 0x21 ≤ byte.toNat && byte.toNat ≤ 0x5f then some (Char.ofNat (0xff40 + byte.toNat)) else none
  | _, _ => none

/-- The byte that begins an escape sequence. -/
def escapeByte : UInt8 := 0x1b

/-- A byte that ends an escape sequence. -/
def endsEscape (byte : UInt8) : Bool := 0x40 ≤ byte.toNat && byte.toNat ≤ 0x5a

/-- A byte behind the escape that begins a sequence for sets. -/
def beginsDesignation (byte : UInt8) : Bool :=
  byte = 0x28 || byte = 0x29 || byte = 0x24 || byte = 0x2e || byte = 0x26

/-- The length of an escape sequence. -/
inductive EscapeLength where
  | known (length : Nat)
  | brokenOff
  | tooLong
deriving DecidableEq, Repr

/-- The greatest length of an escape sequence. -/
def escapeLimit : Nat := 16

/-- The length of an escape sequence from a place on. Two bytes that announce a revision of a set
    pass over the third one, if they do so in this encoding; `skipped` bytes are passed over. -/
def escapeLength (revisions : Bool) (place skipped : Nat) : List UInt8 → EscapeLength
  | [] => if escapeLimit ≤ place then .tooLong else .brokenOff
  | byte :: rest =>
    if 0 < skipped then escapeLength revisions (place + 1) (skipped - 1) rest
    else if escapeLimit ≤ place then .tooLong
    else if endsEscape byte then .known (place + 1)
    else if revisions && byte = 0x26 && rest.head? = some 0x40 then
      escapeLength revisions (place + 1) 2 rest
    else escapeLength revisions (place + 1) 0 rest

/-- Which place an escape sequence puts a set into, if it is a sequence of three, four or six
    bytes. -/
def designation? (encoding : Iso2022) (sequence : List UInt8) :
    Option (Option CharacterSet × (CharacterSet → Places → Places)) :=
  let first (set : CharacterSet) (places : Places) : Places := { places with first := set }
  let second (set : CharacterSet) (places : Places) : Places := { places with second := set }
  let third (set : CharacterSet) (places : Places) : Places := { places with third := set }
  match sequence with
  | [_, 0x24, byte] => some (setNamed? true byte, first)
  | [_, 0x28, byte] => some (setNamed? false byte, first)
  | [_, 0x29, byte] => some (setNamed? false byte, second)
  | [_, 0x2e, byte] => if encoding.hasThird then some (setNamed? false byte, third) else none
  | [_, 0x24, 0x28, byte] => some (setNamed? true byte, first)
  | [_, 0x24, 0x29, byte] => some (setNamed? true byte, second)
  | [_, _, _, 0x1b, 0x24, 0x42] =>
    if encoding.hasShifts then none else some (some .japanese, first)
  | _ => none

/-- The piece of an escape sequence, and how to read on. -/
def Iso2022.escape (encoding : Iso2022) (places : Places) (rest : List UInt8) : Places × Piece :=
  let sequence := escapeByte :: rest
  match escapeLength (!encoding.hasShifts) 1 0 rest with
  | .brokenOff => (places, .illFormed sequence .incompleteSequence)
  | .tooLong => (places, strayByte escapeByte)
  | .known length =>
    let illegal := (places, Piece.illFormed (sequence.take length) .illegalSequence)
    match designation? encoding (sequence.take length) with
    | some (some set, put) =>
      if set = .ascii || encoding.sets.contains set then (put set places, .mark length)
      else illegal
    | some (none, _) => illegal
    | none => illegal

/-- The Greek set of the third place is an older one, which lacks three bytes. -/
def lacksGreek (byte : UInt8) : Bool := byte = 0xa4 || byte = 0xa5 || byte = 0xaa

/-- The piece of a character of the third place. It may hold a set that cannot be read there. -/
def thirdPiece (places : Places) (rest : List UInt8) : Piece :=
  let illegal := Piece.illFormed (escapeByte :: rest.take 2) .illegalSequence
  match rest with
  | _ :: byte :: _ =>
    match places.third with
    | .latin1 =>
      if byte.toNat < 0x80 then .char (Char.ofNat (byte.toNat + 0x80)) 3 else illegal
    | .greek =>
      if lacksGreek (byte ^^^ 0x80) then illegal
      else match mappedPiece isoGreek.chars (byte ^^^ 0x80) with
      | .char c _ => .char c 3
      | _ => illegal
    | .ascii => if byte.toNat < 0x80 then .char (Char.ofNat byte.toNat) 3 else illegal
    | _ => .broken
  | _ => .illFormed (escapeByte :: rest) .incompleteSequence

/-- The piece of a character in a set. -/
def setPiece (set : CharacterSet) (byte : UInt8) (rest : List UInt8) : Piece :=
  if set.isWide then
    match rest with
    | [] => brokenOff byte []
    | second :: _ =>
      (set.pair? byte second).getD (.illFormed [byte, second] .illegalSequence)
  else match set.char? byte with
    | some c => .char c 1
    | none => strayByte byte

/-- The piece behind an escape, and how to read on. -/
def Iso2022.escaped (encoding : Iso2022) (places : Places) (rest : List UInt8) : Places × Piece :=
  match rest with
  | [] => (places, brokenOff escapeByte [])
  | second :: _ =>
    if beginsDesignation second then encoding.escape places rest
    else if encoding.hasThird && second = 0x4e then (places, thirdPiece places rest)
    else ({ places with passing := true }, singleByte escapeByte)

/-- The piece at the front of a byte text, and how to read on. -/
def Iso2022.front (encoding : Iso2022) (places : Places) (byte : UInt8) (rest : List UInt8) :
    Places × Piece :=
  if places.passing then ({ places with passing := !endsEscape byte }, singleByte byte)
  else if byte = escapeByte then encoding.escaped places rest
  else if encoding.hasShifts && byte = 0x0f then ({ places with shifted := false }, .mark 1)
  else if encoding.hasShifts && byte = 0x0e then ({ places with shifted := true }, .mark 1)
  else if byte = 0x0a then ({ places with shifted := false }, singleByte byte)
  else if byte.toNat < 0x20 then (places, singleByte byte)
  else if 0x80 ≤ byte.toNat then (places, strayByte byte)
  else (places, setPiece (if places.shifted then places.second else places.first) byte rest)

/-- The pieces of a byte text, read on from places. `skipped` bytes belong to a piece already. -/
def Iso2022.piecesFrom (encoding : Iso2022) (places : Places) (skipped : Nat) :
    List UInt8 → List Piece
  | [] => []
  | byte :: rest =>
    if 0 < skipped then encoding.piecesFrom places (skipped - 1) rest
    else
      let (places, piece) := encoding.front places byte rest
      piece :: encoding.piecesFrom places (piece.size - 1) rest

/-- The pieces of a byte text. -/
def Iso2022.pieces (encoding : Iso2022) (bytes : List UInt8) : List Piece :=
  encoding.piecesFrom {} 0 bytes

end Telematics.Text
