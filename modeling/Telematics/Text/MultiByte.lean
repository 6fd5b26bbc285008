import Telematics.Text.Grid.Simplified
import Telematics.Text.Grid.Traditional
import Telematics.Text.Grid.Japanese
import Telematics.Text.Grid.Korean
import Telematics.Text.Hangul

/-!
Encodings of the large character sets, in which a character is one byte, two, or more. Only the
first byte of an ill-formed sequence is passed over; what the text ends in the middle of is
ill-formed as a whole.

* `MultiByte.front`: the piece at the front of a byte text.
* `MultiByte.pieces`: the pieces of a byte text.
-/

namespace Telematics.Text

/-- The editions of JIS X 0213, of which the later one has more characters. -/
inductive Edition where
  | of2000
  | of2004
deriving DecidableEq, Repr

/-- An encoding of a large character set. -/
inductive MultiByte where
  | gb2312
  | gbk
  | gb18030
  | big5
  | big5HongKong
  | page950
  | shiftJis
  | shiftJisLevels (edition : Edition)
  | page932
  | eucJapanese
  | eucJapaneseLevels (edition : Edition)
  | eucKorean
  | page949
  | johab
deriving DecidableEq, Repr

/-- The name of an encoding. -/
def MultiByte.name : MultiByte → String
  | .gb2312 => "gb2312"
  | .gbk => "gbk"
  | .gb18030 => "gb18030"
  | .big5 => "big5"
  | .big5HongKong => "big5hkscs"
  | .page950 => "cp950"
  | .shiftJis => "shift_jis"
  | .shiftJisLevels .of2000 => "shift_jisx0213"
  | .shiftJisLevels .of2004 => "shift_jis_2004"
  | .page932 => "cp932"
  | .eucJapanese => "euc_jp"
  | .eucJapaneseLevels .of2000 => "euc_jisx0213"
  | .eucJapaneseLevels .of2004 => "euc_jis_2004"
  | .eucKorean => "euc_kr"
  | .page949 => "cp949"
  | .johab => "johab"

/-- The piece of a single byte. -/
def singleByte (byte : UInt8) : Piece := .char (Char.ofNat byte.toNat) 1

/-- The piece of a byte that begins no character. -/
def strayByte (byte : UInt8) : Piece := .illFormed [byte] .illegalSequence

/-- The piece of a byte text that breaks off. -/
def brokenOff (byte : UInt8) (rest : List UInt8) : Piece :=
  .illFormed (byte :: rest) .incompleteSequence

/-- The piece of two bytes, by the characters of pairs. -/
def pairPiece (char? : Nat → Nat → Option Char) (byte : UInt8) (rest : List UInt8) : Piece :=
  match rest with
  | [] => brokenOff byte []
  | second :: _ =>
    match char? byte.toNat second.toNat with
    | some c => .char c 2
    | none => strayByte byte

/-- The two code points of a row and a column. -/
def codePointsOf? (pairs : List (Nat × Nat × Char × Char)) (row column : Nat) :
    Option (Char × Char) :=
  (pairs.find? fun (r, c, _) => r = row && c = column).map fun (_, _, chars) => chars

/-- The character of two bytes in a set by rows and columns from 0x21 on. -/
def highPair? (grid : Grid) (first second : Nat) : Option Char :=
  if 0x80 ≤ first && 0x80 ≤ second then grid.char? (first - 0x80) (second - 0x80) else none

/-- The character of a code point. -/
def charOf? (code : Nat) : Option Char := some (Char.ofNat code)

/-! ## Chinese -/

/-- The character of two bytes in GBK. -/
def gbkPair? (first second : Nat) : Option Char :=
  if first < 0xa1 then simplifiedLowRows.char? first second
  else if second < 0xa1 then simplifiedLowColumns.char? first second
  else (simplifiedChanges.char? first second).or (highPair? simplified first second)

/-- The character of two bytes in GB 18030 that stands in an area for private use. -/
def privatePair? (first second : Nat) : Option Char :=
  if 0xaa ≤ first ∧ first ≤ 0xaf ∧ 0xa1 ≤ second ∧ second ≤ 0xfe then
    charOf? (0xe000 + 94 * (first - 0xaa) + (second - 0xa1))
  else if 0xf8 ≤ first ∧ first ≤ 0xfe ∧ 0xa1 ≤ second ∧ second ≤ 0xfe then
    charOf? (0xe234 + 94 * (first - 0xf8) + (second - 0xa1))
  else if 0xa1 ≤ first ∧ first ≤ 0xa7 ∧ 0x40 ≤ second ∧ second ≤ 0xa0 ∧ second ≠ 0x7f then
    charOf? (0xe4c6 + 96 * (first - 0xa1) + (second - (if second < 0x7f then 0x40 else 0x41)))
  else none

/-- The character of two bytes in GB 18030. -/
def gb18030Pair? (first second : Nat) : Option Char :=
  (gbkPair? first second).or
    ((simplifiedLater.char? first second).or (privatePair? first second))

/-- A digit, which as the second byte tells that there are four. -/
def isDigitByte (byte : UInt8) : Bool := 0x30 ≤ byte.toNat && byte.toNat ≤ 0x39

/-- A byte that may begin a pair. -/
def isLeadByte (byte : UInt8) : Bool := 0x81 ≤ byte.toNat && byte.toNat ≤ 0xfe

/-- The piece of four bytes. -/
def quadPiece (a b c d : UInt8) : Piece :=
  let number := ((a.toNat - 0x81) * 10 + (b.toNat - 0x30)) * 1260 +
    (c.toNat - 0x81) * 10 + (d.toNat - 0x30)
  if isLeadByte a && isLeadByte c && isDigitByte d then
    match fourByteChar? number with
    | some c => .char c 4
    | none => strayByte a
  else strayByte a

/-- The piece of two or four bytes. -/
def gb18030Piece (byte : UInt8) (rest : List UInt8) : Piece :=
  match rest with
  | second :: more =>
    if isDigitByte second then
      match more with
      | third :: fourth :: _ => quadPiece byte second third fourth
      | _ => brokenOff byte rest
    else pairPiece gb18030Pair? byte rest
  | [] => brokenOff byte []

/-- The character of two bytes in code page 950. -/
def page950Pair? (first second : Nat) : Option Char :=
  (traditionalAdditions.char? first second).or (traditional.char? first second)

/-- The codes of Big5 that have others in the set of Hong Kong. -/
def movedCodes : List (Nat × Nat) :=
  [(0xc6, 0xcf), (0xc6, 0xd3), (0xc6, 0xd5), (0xc6, 0xd7), (0xc6, 0xde), (0xc6, 0xdf)]

/-- The character of two bytes in the set of Hong Kong. -/
def hongKongPair? (first second : Nat) : Option Char :=
  if movedCodes.contains (first, second) then none
  else (hongKong.char? first second).or (traditional.char? first second)

/-- The piece of two bytes in the set of Hong Kong. -/
def hongKongPiece (byte : UInt8) (rest : List UInt8) : Piece :=
  match rest.head?.bind fun second => codePointsOf? hongKongPairs byte.toNat second.toNat with
  | some (one, other) => .pair one other 2
  | none => pairPiece hongKongPair? byte rest

/-! ## Japanese -/

/-- The row and the column, both from zero on, of two bytes of which the first stands for two
    rows. -/
def shiftedCell? (first second : Nat) : Option (Nat × Nat) :=
  if second < 0x40 ∨ second = 0x7f ∨ 0xfc < second then none
  else
    let row := if first < 0xe0 then first - 0x81 else first - 0xc1
    let column := if second < 0x80 then second - 0x40 else second - 0x41
    some (if column < 0x5e then (2 * row, column) else (2 * row + 1, column - 0x5e))

/-- The character of two bytes of which the first stands for two rows. -/
def shiftedPair? (first second : Nat) : Option Char := do
  let (row, column) ← shiftedCell? first second
  japanese.char? (row + 0x21) (column + 0x21)

/-- A byte that is a half-width syllable. -/
def isHalfWidth (byte : UInt8) : Bool := 0xa1 ≤ byte.toNat && byte.toNat ≤ 0xdf

/-- The half-width syllable of a byte. -/
def halfWidth (byte : UInt8) (size : Nat) : Piece := .char (Char.ofNat (0xfec0 + byte.toNat)) size

/-- A byte that begins a pair of Shift JIS. -/
def isShiftLead (byte : UInt8) : Bool :=
  (0x81 ≤ byte.toNat && byte.toNat ≤ 0x9f) || (0xe0 ≤ byte.toNat && byte.toNat ≤ 0xea)

/-- The piece of one or two bytes in Shift JIS, the first being no ASCII character. -/
def shiftJisPiece (byte : UInt8) (rest : List UInt8) : Piece :=
  if isHalfWidth byte then halfWidth byte 1
  else if isShiftLead byte then pairPiece shiftedPair? byte rest
  else strayByte byte

/-- The character of two bytes in code page 932. -/
def page932Pair? (first second : Nat) : Option Char :=
  match japaneseAdditions.char? first second with
  | some c => some c
  | none =>
    if 0xf0 ≤ first ∧ first ≤ 0xf9 then
      if second < 0x40 ∨ second = 0x7f ∨ 0xfc < second then none
      else charOf? (0xe000 + 188 * (first - 0xf0) +
        (if second < 0x80 then second - 0x40 else second - 0x41))
    else if first ≤ 0x9f ∨ (0xe0 ≤ first ∧ first ≤ 0xea) then shiftedPair? first second
    else none

/-- The piece of one or two bytes in code page 932, the first being no ASCII character. -/
def page932Piece (byte : UInt8) (rest : List UInt8) : Piece :=
  if byte = 0x80 then singleByte byte
  else if byte = 0xa0 then .char '\uf8f0' 1
  else if 0xfd ≤ byte.toNat then .char (Char.ofNat (0xf8f1 + (byte.toNat - 0xfd))) 1
  else if isHalfWidth byte then halfWidth byte 1
  else pairPiece page932Pair? byte rest

/-- The piece of two or three bytes in EUC-JP. -/
def eucJapanesePiece (byte : UInt8) (rest : List UInt8) : Piece :=
  if byte = 0x8e then
    match rest with
    | second :: _ => if isHalfWidth second then halfWidth second 2 else strayByte byte
    | [] => brokenOff byte []
  else if byte = 0x8f then
    match rest with
    | second :: third :: _ =>
      match highPair? japaneseSupplement second.toNat third.toNat with
      | some c => .char c 3
      | none => strayByte byte
    | _ => brokenOff byte rest
  else pairPiece (highPair? japanese) byte rest

/-- The first plane of JIS X 0213. -/
def firstPlane : Edition → Grid
  | .of2000 => japaneseLevels ++ japanese
  | .of2004 => japaneseLevels ++ japaneseLater ++ japanese

/-- The character of a row and a column in the second plane. The editions differ in one of them. -/
def secondPlane? (edition : Edition) (row column : Nat) : Option Char :=
  if edition = .of2000 && row = 0x7d && column = 0x3b then some '\u9b1d'
  else japaneseSecondPlane.char? row column

/-- The piece of a row and a column in the first plane, which some bytes tell. What the later
    edition has added is ill-formed as a whole in the earlier one. -/
def firstPlanePiece? (edition : Edition) (bytes : List UInt8) (row column : Nat) : Option Piece :=
  if edition = .of2000 && (japaneseLater.char? row column).isSome then
    some (.illFormed bytes .illegalSequence)
  else match (firstPlane edition).char? row column, codePointsOf? japanesePairs row column with
    | some c, _ => some (.char c bytes.length)
    | none, some (one, other) => some (.pair one other bytes.length)
    | none, none => none

/-- The rows of the second plane stand behind those of the first one, without its unused ones. -/
def secondPlaneRow (row : Nat) : Nat :=
  if 0x67 ≤ row then row + 0x07
  else if 0x63 ≤ row ∨ row = 0x5f then row - 0x37
  else row - 0x3d

/-- The piece of two bytes of which the first stands for two rows, in both planes. -/
def shiftedPiece? (edition : Edition) (first second : UInt8) : Option Piece := do
  let (row, column) ← shiftedCell? first.toNat second.toNat
  if row < 0x5e then firstPlanePiece? edition [first, second] (row + 0x21) (column + 0x21)
  else return .char (← secondPlane? edition (secondPlaneRow row) (column + 0x21)) 2

/-- The ASCII character of a byte in the Roman set of Japan, which has a yen sign and an overline
    for the backslash and the tilde. -/
def romanChar (byte : UInt8) : Char :=
  if byte = 0x5c then '¥' else if byte = 0x7e then '‾' else Char.ofNat byte.toNat

/-- The piece of one or two bytes in Shift JIS with both planes, the first being no ASCII
    character. -/
def shiftLevelsPiece (edition : Edition) (byte : UInt8) (rest : List UInt8) : Piece :=
  if isHalfWidth byte then halfWidth byte 1
  else if (0x81 ≤ byte.toNat && byte.toNat ≤ 0x9f) || (0xe0 ≤ byte.toNat && byte.toNat ≤ 0xfc) then
    match rest with
    | [] => brokenOff byte []
    | second :: _ => (shiftedPiece? edition byte second).getD (strayByte byte)
  else strayByte byte

/-- The row or column that a byte tells, if it is one with its highest bit set. -/
def highCell? (byte : UInt8) : Option Nat :=
  if 0x80 ≤ byte.toNat then some (byte.toNat - 0x80) else none

/-- The piece of two bytes in the first plane, of which two marks are full-width. -/
def eucFirstPlane? (edition : Edition) (first second : UInt8) : Option Piece := do
  let row ← highCell? first
  let column ← highCell? second
  if row = 0x21 && column = 0x40 then some (.char '＼' 2)
  else if row = 0x22 && column = 0x32 then some (.char '～' 2)
  else firstPlanePiece? edition [first, second] row column

/-- The piece of two or three bytes in EUC with both planes. -/
def eucLevelsPiece (edition : Edition) (byte : UInt8) (rest : List UInt8) : Piece :=
  if byte = 0x8e then eucJapanesePiece byte rest
  else if byte = 0x8f then
    match rest with
    | second :: third :: _ =>
      match highCell? second, highCell? third with
      | some row, some column =>
        match (secondPlane? edition row column).or (japaneseSupplement.char? row column) with
        | some c => .char c 3
        | none => strayByte byte
      | _, _ => strayByte byte
    | _ => brokenOff byte rest
  else
    match rest with
    | [] => brokenOff byte []
    | second :: _ => (eucFirstPlane? edition byte second).getD (strayByte byte)

/-! ## Korean -/

/-- The place of a byte in a list of bytes. -/
def placeOf? (bytes : List Nat) (byte : UInt8) : Option Nat := bytes.idxOf? byte.toNat

/-- The bytes of the letters that begin a syllable, in their order. -/
def initialLetters : List Nat :=
  [0xa1, 0xa2, 0xa4, 0xa7, 0xa8, 0xa9, 0xb1, 0xb2, 0xb3, 0xb5, 0xb6, 0xb7, 0xb8, 0xb9, 0xba, 0xbb,
    0xbc, 0xbd, 0xbe]

/-- The bytes of the vowels, in their order. -/
def vowelLetters : List Nat := (List.range 21).map (0xbf + ·)

/-- The bytes of the letters that end a syllable, in their order. The first is for none. -/
def finalLetters : List Nat :=
  [0xd4, 0xa1, 0xa2, 0xa3, 0xa4, 0xa5, 0xa6, 0xa7, 0xa9, 0xaa, 0xab, 0xac, 0xad, 0xae, 0xaf, 0xb0,
    0xb1, 0xb2, 0xb4, 0xb5, 0xb6, 0xb7, 0xb8, 0xba, 0xbb, 0xbc, 0xbd, 0xbe]

/-- The piece of a syllable that is spelled in four pairs, the first of which is a mark. -/
def spelledPiece (byte : UInt8) (rest : List UInt8) : Piece :=
  match rest with
  | _ :: a :: initial :: b :: vowel :: c :: final :: _ =>
    if a = 0xa4 && b = 0xa4 && c = 0xa4 then
      match placeOf? initialLetters initial, placeOf? vowelLetters vowel,
          placeOf? finalLetters final with
      | some initial, some vowel, some final => .char (syllable initial vowel final) 8
      | _, _, _ => strayByte byte
    else strayByte byte
  | _ => brokenOff byte rest

/-- The piece of two or eight bytes in EUC-KR. -/
def eucKoreanPiece (byte : UInt8) (rest : List UInt8) : Piece :=
  if byte = 0xa4 && rest.head? = some 0xd4 then spelledPiece byte rest
  else pairPiece (highPair? korean) byte rest

/-- The character of two bytes in code page 949. -/
def page949Pair? (first second : Nat) : Option Char :=
  (highPair? korean first second).or (koreanSyllables.char? first second)

/-- A letter of a syllable in Johab: none at all, a filler, or one of the letters. -/
inductive JohabLetter where
  | filler
  | letter (place : Nat)
deriving DecidableEq, Repr

/-- The initial letter of five bits. -/
def johabInitial? (bits : Nat) : Option JohabLetter :=
  if bits = 1 then some .filler
  else if 2 ≤ bits ∧ bits ≤ 20 then some (.letter (bits - 2))
  else none

/-- The vowel of five bits. -/
def johabVowel? (bits : Nat) : Option JohabLetter :=
  if bits = 2 then some .filler
  else if 3 ≤ bits ∧ bits ≤ 7 then some (.letter (bits - 3))
  else if 10 ≤ bits ∧ bits ≤ 15 then some (.letter (bits - 5))
  else if 18 ≤ bits ∧ bits ≤ 23 then some (.letter (bits - 7))
  else if 26 ≤ bits ∧ bits ≤ 29 then some (.letter (bits - 9))
  else none

/-- The final letter of five bits. -/
def johabFinal? (bits : Nat) : Option JohabLetter :=
  if bits = 1 then some .filler
  else if 2 ≤ bits ∧ bits ≤ 17 then some (.letter (bits - 1))
  else if 19 ≤ bits ∧ bits ≤ 29 then some (.letter (bits - 2))
  else none

/-- The letter by itself that a byte of the letters stands for. -/
def loneLetter? (letters : List Nat) (place : Nat) : Option Char :=
  letters[place]?.map fun byte => Char.ofNat (0x3090 + byte)

/-- The character of three letters. -/
def johabSyllable? : JohabLetter → JohabLetter → JohabLetter → Option Char
  | .filler, .filler, .filler => some '\u3000'
  | .filler, .filler, .letter final => loneLetter? finalLetters final
  | .filler, .letter vowel, .filler => loneLetter? vowelLetters vowel
  | .letter initial, .filler, .filler => loneLetter? initialLetters initial
  | .letter initial, .letter vowel, .filler => some (syllable initial vowel 0)
  | .letter initial, .letter vowel, .letter final => some (syllable initial vowel final)
  | _, _, _ => none

/-- The character of two bytes in Johab that is no syllable. -/
def johabSymbol? (first second : Nat) : Option Char :=
  if first = 0xd8 ∨ first = 0xdf ∨ 0xf9 < first ∨ second < 0x31 ∨ (0x80 ≤ second ∧ second < 0x91) ∨
      second % 0x80 = 0x7f ∨ (first = 0xda ∧ 0xa1 ≤ second ∧ second ≤ 0xd3) then none
  else
    let row := if first < 0xe0 then 2 * (first - 0xd9) else 2 * first - 0x197
    let column := if second < 0x91 then second - 0x31 else second - 0x43
    if column < 0x5e then korean.char? (row + 0x21) (column + 0x21)
    else korean.char? (row + 0x22) (column - 0x5e + 0x21)

/-- The character of two bytes in Johab. -/
def johabPair? (first second : Nat) : Option Char :=
  if first < 0xd8 then do
    johabSyllable? (← johabInitial? (first / 4 % 32))
      (← johabVowel? ((first * 8 + second / 32) % 32)) (← johabFinal? (second % 32))
  else johabSymbol? first second

/-! ## All of them -/

/-- The character of an ASCII byte. -/
def MultiByte.asciiChar (encoding : MultiByte) (byte : UInt8) : Char :=
  match encoding with
  | .shiftJisLevels _ => romanChar byte
  | _ => Char.ofNat byte.toNat

/-- The piece at the front of a byte text. -/
def MultiByte.front (encoding : MultiByte) (byte : UInt8) (rest : List UInt8) : Piece :=
  if byte.toNat < 0x80 then .char (encoding.asciiChar byte) 1
  else match encoding with
    | .gb2312 => pairPiece (highPair? simplified) byte rest
    | .gbk => pairPiece gbkPair? byte rest
    | .gb18030 => gb18030Piece byte rest
    | .big5 => pairPiece traditional.char? byte rest
    | .big5HongKong => hongKongPiece byte rest
    | .page950 => pairPiece page950Pair? byte rest
    | .shiftJis => shiftJisPiece byte rest
    | .shiftJisLevels edition => shiftLevelsPiece edition byte rest
    | .page932 => page932Piece byte rest
    | .eucJapanese => eucJapanesePiece byte rest
    | .eucJapaneseLevels edition => eucLevelsPiece edition byte rest
    | .eucKorean => eucKoreanPiece byte rest
    | .page949 => pairPiece page949Pair? byte rest
    | .johab => pairPiece johabPair? byte rest

/-- The pieces of a byte text. -/
def MultiByte.pieces (encoding : MultiByte) (bytes : List UInt8) : List Piece :=
  piecesBy encoding.front 0 bytes

/-- In all of these encodings an ASCII byte is a character by itself. -/
theorem MultiByte.front_of_ascii (encoding : MultiByte) {byte : UInt8} (rest : List UInt8)
    (ascii : byte.toNat < 0x80) :
    encoding.front byte rest = .char (encoding.asciiChar byte) 1 := by
  simp [MultiByte.front, ascii]

end Telematics.Text
