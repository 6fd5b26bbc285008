import Telematics.Text.MultiByte

/-!
Texts in HZ: ASCII, in which a tilde and a brace begin a run of simplified Chinese characters, and
a tilde and the other brace end it. Two tildes are one, and a tilde in front of a line end joins
lines.

* `hzPieces`: the pieces of a byte text.
-/

namespace Telematics.Text

/-- The piece of two bytes, of which the first is a tilde, and whether a run of Chinese follows. -/
def tildePiece (chinese : Bool) (second : UInt8) : Bool × Piece :=
  match chinese, second with
  | false, 0x7e => (false, .char '~' 2)
  | false, 0x7b => (true, .mark 2)
  | false, 0x0a => (false, .mark 2)
  | true, 0x7d => (false, .mark 2)
  | chinese, _ => (chinese, strayByte 0x7e)

/-- The piece at the front of a byte text, and whether a run of Chinese follows. -/
def hzFront (chinese : Bool) (byte : UInt8) (rest : List UInt8) : Bool × Piece :=
  if byte = 0x7e then
    match rest with
    | [] => (chinese, brokenOff byte [])
    | second :: _ => tildePiece chinese second
  else if 0x80 ≤ byte.toNat then (chinese, strayByte byte)
  else if chinese then (chinese, pairPiece simplified.char? byte rest)
  else (chinese, singleByte byte)

/-- The pieces of a byte text, in a run of Chinese or not. `skipped` bytes belong to a piece
    already. -/
def hzPiecesFrom (chinese : Bool) (skipped : Nat) : List UInt8 → List Piece
  | [] => []
  | byte :: rest =>
    if 0 < skipped then hzPiecesFrom chinese (skipped - 1) rest
    else
      let (chinese, piece) := hzFront chinese byte rest
      piece :: hzPiecesFrom chinese (piece.size - 1) rest

/-- The pieces of a byte text. -/
def hzPieces (bytes : List UInt8) : List Piece := hzPiecesFrom false 0 bytes

/-- The name of the encoding. -/
def hzName : String := "hz"

end Telematics.Text
