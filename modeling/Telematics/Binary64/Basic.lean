/-!
Double-precision numbers, as data. A finite number is a sign, a significand and an exponent of two
in the one form that the format allows, so equal numbers of one sign are equal data, and the two
zeros differ. Every not-a-number counts as one value.

Arithmetic is exact arithmetic on natural numbers followed by one rounding to the nearest number,
ties to the even significand.

* `Canonical`: the significands and exponents of the format.
* `ofRatio`: rounds a ratio of natural numbers.
* `roundDiv_mul_den_le`: a rounded quotient is within half a unit from above.
-/

namespace Telematics

/-- The significands and exponents of finite numbers: 53 bits with the first one set, or fewer
    bits at the least exponent. -/
def Binary64.Canonical (significand : Nat) (exponent : Int) : Prop :=
  (significand < Nat.pow 2 52 ∧ exponent = -1074) ∨
    (Nat.pow 2 52 ≤ significand ∧ significand < Nat.pow 2 53 ∧ -1074 ≤ exponent ∧ exponent ≤ 971)

instance (significand : Nat) (exponent : Int) :
    Decidable (Binary64.Canonical significand exponent) := by
  unfold Binary64.Canonical; infer_instance

/-- A double-precision number. -/
inductive Binary64 where
  | nan
  | infinite (negative : Bool)
  | finite (negative : Bool) (significand : Nat) (exponent : Int)
      (canonical : Binary64.Canonical significand exponent)
deriving DecidableEq, Repr

namespace Binary64

/-- The zero of a sign. -/
def zeroOf (negative : Bool) : Binary64 := .finite negative 0 (-1074) (.inl ⟨by decide, rfl⟩)

/-- Positive zero. -/
def posZero : Binary64 := zeroOf false

/-- The number is neither infinite nor not-a-number. -/
def isFinite : Binary64 → Bool
  | .finite .. => true
  | _ => false

/-- The number is a zero of either sign. -/
def isZero : Binary64 → Bool
  | .finite _ significand _ _ => significand = 0
  | _ => false

/-- The number is at least zero, negative zero counting as zero. -/
def isNonnegative : Binary64 → Bool
  | .nan => false
  | .infinite negative => !negative
  | .finite negative significand _ _ => !negative || significand = 0

/-- The number of a significand and an exponent of the format; beyond the format, infinity. -/
def ofParts (negative : Bool) (significand : Nat) (exponent : Int) : Binary64 :=
  if canonical : Canonical significand exponent then .finite negative significand exponent canonical
  else .infinite negative

/-- The quotient rounded to the nearest natural number, a tie going to the even one. -/
def roundDiv (num den : Nat) : Nat :=
  let quotient := num / den
  let rest := num % den
  if 2 * rest > den ∨ (2 * rest = den ∧ quotient % 2 = 1) then quotient + 1 else quotient

/-- The ratio of natural numbers that is `num / den` in units of a power of two. -/
def inUnitsOf (exponent : Int) (num den : Nat) : Nat × Nat :=
  if 0 ≤ exponent then (num, den * Nat.pow 2 exponent.toNat)
  else (num * Nat.pow 2 (-exponent).toNat, den)

/-- The exponent at which a positive ratio has 53 bits before the point, or the least exponent of
    the format if that is greater. -/
def exponentOf (num den : Nat) : Int :=
  let guess : Int := (num.log2 : Int) - den.log2 - 52
  let (n, d) := inUnitsOf guess num den
  max (if n < d * Nat.pow 2 52 then guess - 1 else guess) (-1074)

/-- The number nearest to `num / den`, with a sign. The denominator is positive. -/
def ofRatio (negative : Bool) (num den : Nat) : Binary64 :=
  if num = 0 then zeroOf negative
  else
    let exponent := exponentOf num den
    let (n, d) := inUnitsOf exponent num den
    let significand := roundDiv n d
    if significand = Nat.pow 2 53 then ofParts negative (Nat.pow 2 52) (exponent + 1)
    else ofParts negative significand exponent

/-- The number nearest to `significand * 2 ^ exponent`. -/
def ofScaled (negative : Bool) (significand : Nat) (exponent : Int) : Binary64 :=
  if 0 ≤ exponent then ofRatio negative (significand * Nat.pow 2 exponent.toNat) 1
  else ofRatio negative significand (Nat.pow 2 (-exponent).toNat)

/-- The number nearest to an integer. -/
def ofInt (n : Int) : Binary64 := ofRatio (n < 0) n.natAbs 1

/-- The number nearest to a natural number. -/
def ofNat (n : Nat) : Binary64 := ofRatio false n 1

/-- The product, rounded. -/
def mul : Binary64 → Binary64 → Binary64
  | .nan, _ => .nan
  | _, .nan => .nan
  | .infinite s, .infinite t => .infinite (s != t)
  | .infinite s, .finite t m _ _ => if m = 0 then .nan else .infinite (s != t)
  | .finite s m _ _, .infinite t => if m = 0 then .nan else .infinite (s != t)
  | .finite s m e _, .finite t n f _ => ofScaled (s != t) (m * n) (e + f)

instance : Mul Binary64 := ⟨mul⟩

/-- The integer part of a finite number. -/
def truncate? : Binary64 → Option Int
  | .finite negative significand exponent _ =>
    let size : Nat :=
      if 0 ≤ exponent then significand * Nat.pow 2 exponent.toNat
      else significand / Nat.pow 2 (-exponent).toNat
    some (if negative then -(size : Int) else size)
  | _ => none

/-- The 64 bits of a number: sign, biased exponent, fraction. -/
def toBits : Binary64 → Nat
  | .nan => 0x7ff8000000000000
  | .infinite negative => (if negative then Nat.pow 2 63 else 0) + 0x7ff0000000000000
  | .finite negative significand exponent _ =>
    (if negative then Nat.pow 2 63 else 0) +
      (if significand < Nat.pow 2 52 then significand
        else (exponent + 1075).toNat * Nat.pow 2 52 + (significand - Nat.pow 2 52))

/-- The number of 64 bits. -/
def ofBits (bits : Nat) : Binary64 :=
  let negative : Bool := bits / Nat.pow 2 63 % 2 = 1
  let biased : Nat := bits / Nat.pow 2 52 % Nat.pow 2 11
  let fraction : Nat := bits % Nat.pow 2 52
  if biased = 2047 then if fraction = 0 then .infinite negative else .nan
  else if biased = 0 then ofParts negative fraction (-1074)
  else ofParts negative (Nat.pow 2 52 + fraction) ((biased : Int) - 1075)

theorem roundDiv_mul_den_le (num den : Nat) : 2 * (roundDiv num den * den) ≤ 2 * num + den := by
  have split := Nat.div_add_mod num den
  have comm : num / den * den = den * (num / den) := Nat.mul_comm ..
  simp only [roundDiv]
  split
  · rw [Nat.add_mul]; omega
  · omega

theorem isFinite_zeroOf (negative : Bool) : (zeroOf negative).isFinite = true := rfl

end Binary64

end Telematics
