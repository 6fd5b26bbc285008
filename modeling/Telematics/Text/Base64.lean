/-!
Base 64: four digits of six bits stand for three bytes. Reading is lenient: bytes that are no digits
are passed over, and everything behind complete padding is ignored. What remains has to be whole
quads, or end in padding.

* `readBase64?`: the bytes that digits stand for.
-/

namespace Telematics.Text

/-- The value of a base 64 digit. -/
def base64Value? (byte : UInt8) : Option Nat :=
  let n := byte.toNat
  if 0x41 ≤ n ∧ n ≤ 0x5a then some (n - 0x41)
  else if 0x61 ≤ n ∧ n ≤ 0x7a then some (n - 0x61 + 26)
  else if 0x30 ≤ n ∧ n ≤ 0x39 then some (n - 0x30 + 52)
  else if n = 0x2b then some 62
  else if n = 0x2f then some 63
  else none

/-- The sign that fills the last quad. -/
def padSign : UInt8 := 0x3d

/-- A quad that has begun: the number of its digits and of the pad signs behind them, and the bits
    that make no byte yet. -/
structure Quad where
  digits : Nat
  pads : Nat
  bits : Nat
deriving DecidableEq, Repr

/-- A quad that has not begun. -/
def Quad.empty : Quad := ⟨0, 0, 0⟩

/-- The next digit of a quad, and the byte that is complete with it, if one is. -/
def Quad.add (quad : Quad) (digit : Nat) : Quad × Option UInt8 :=
  match quad.digits with
  | 0 => (⟨1, 0, digit⟩, none)
  | 1 => (⟨2, 0, digit % 16⟩, some (quad.bits * 4 + digit / 16).toUInt8)
  | 2 => (⟨3, 0, digit % 4⟩, some (quad.bits * 16 + digit / 4).toUInt8)
  | _ => (.empty, some (quad.bits * 64 + digit).toUInt8)

/-- The pad signs of a quad fill it. -/
def Quad.isFilled (quad : Quad) : Bool := 2 ≤ quad.digits && 4 ≤ quad.digits + quad.pads

/-- The bytes behind those read already, in reverse. -/
def readQuads? (quad : Quad) (read : List UInt8) : List UInt8 → Option (List UInt8)
  | [] => if quad.digits = 0 then some read.reverse else none
  | byte :: rest =>
    if byte = padSign then
      let padded := if 2 ≤ quad.digits then { quad with pads := quad.pads + 1 } else quad
      if padded.isFilled then some read.reverse else readQuads? padded read rest
    else
      match base64Value? byte with
      | none => readQuads? quad read rest
      | some digit =>
        let (quad, byte) := quad.add digit
        readQuads? quad (byte.toList ++ read) rest

/-- The bytes that base 64 digits stand for. -/
def readBase64? (digits : List UInt8) : Option (List UInt8) := readQuads? .empty [] digits

theorem readQuads?_skip {quad : Quad} {read rest : List UInt8} {byte : UInt8}
    (other : base64Value? byte = none) (noPad : byte ≠ padSign) :
    readQuads? quad read (byte :: rest) = readQuads? quad read rest := by
  simp [readQuads?, noPad, other]

end Telematics.Text
