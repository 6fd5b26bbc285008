import Telematics.Speed

/-!
The ends of the range of double-precision numbers. Natural numbers beyond the range are infinite, so
a finite one has few digits. At the other end there are two zeros, which count as equal, and numbers
that are equal in this sense stay so when they are scaled.

* `Equals`: equality of numbers. Both zeros are equal.
* `ofRatio_infinite`: natural numbers beyond the range.
* `Equals.toKnots`: equal speeds are equal in knots.
-/

namespace Telematics.Binary64

/-! ## Great numbers -/

/-- The exponent of a great natural number is beyond the format. -/
theorem lt_exponentOf {n bits : Nat} (many : 1025 ≤ bits) (large : Nat.pow 2 bits ≤ n) :
    971 < exponentOf n 1 := by
  have positive : n ≠ 0 := Nat.ne_of_gt (Nat.lt_of_lt_of_le (Nat.two_pow_pos bits) large)
  have long : bits ≤ n.log2 := (Nat.le_log2 positive).mpr large
  have one : Nat.log2 1 = 0 := by decide
  simp only [exponentOf, one]
  split <;> omega

theorem Canonical.exponent_le {significand : Nat} {exponent : Int}
    (canonical : Canonical significand exponent) : exponent ≤ 971 := by
  unfold Canonical at canonical
  generalize Nat.pow 2 52 = least at canonical
  generalize Nat.pow 2 53 = most at canonical
  omega

theorem Canonical.lt {significand : Nat} {exponent : Int}
    (canonical : Canonical significand exponent) : significand < Nat.pow 2 53 := by
  unfold Canonical at canonical
  simp only [Nat.pow_eq] at canonical ⊢
  omega

theorem ofParts_infinite (negative : Bool) (significand : Nat) {exponent : Int}
    (beyond : 971 < exponent) : ofParts negative significand exponent = .infinite negative := by
  unfold ofParts
  split
  · rename_i canonical
    exact absurd canonical.exponent_le (Int.not_le.mpr beyond)
  · rfl

/-- A natural number beyond the range is infinite. -/
theorem ofRatio_infinite (negative : Bool) {n bits : Nat} (many : 1025 ≤ bits)
    (large : Nat.pow 2 bits ≤ n) : ofRatio negative n 1 = .infinite negative := by
  have beyond := lt_exponentOf many large
  have positive : n ≠ 0 := Nat.ne_of_gt (Nat.lt_of_lt_of_le (Nat.two_pow_pos bits) large)
  unfold ofRatio
  rw [if_neg positive]
  extract_lets exponent
  have beyond : 971 < exponent := beyond
  clear_value exponent
  generalize inUnitsOf exponent n 1 = units
  obtain ⟨num, den⟩ := units
  show (if roundDiv num den = Nat.pow 2 53 then ofParts negative (Nat.pow 2 52) (exponent + 1)
    else ofParts negative (roundDiv num den) exponent) = _
  split
  · exact ofParts_infinite _ _ (Int.lt_trans beyond (Int.lt_succ exponent))
  · exact ofParts_infinite _ _ beyond

/-- A natural number with very many digits is infinite. -/
theorem ofRatio_infinite_of_digits (negative : Bool) {n digits : Nat} (many : 1025 ≤ digits)
    (large : Nat.pow 10 digits ≤ n) : ofRatio negative n 1 = .infinite negative := by
  refine ofRatio_infinite negative many ?_
  calc Nat.pow 2 digits ≤ Nat.pow 10 digits := Nat.pow_le_pow_left (by decide) digits
    _ ≤ n := large

/-! ## Zeros -/

/-- Two numbers are equal: they are the same, or both are zero. -/
def Equals (one other : Binary64) : Prop := one = other ∨ one.isZero = true ∧ other.isZero = true

theorem isZero_zeroOf (negative : Bool) : (zeroOf negative).isZero = true := rfl

theorem Equals.refl (number : Binary64) : Equals number number := .inl rfl

theorem Equals.symm {one other : Binary64} (same : Equals one other) : Equals other one := by
  rcases same with rfl | ⟨one, other⟩
  · exact .inl rfl
  · exact .inr ⟨other, one⟩

theorem isFinite_of_isZero {number : Binary64} (zero : number.isZero = true) :
    number.isFinite = true := by
  cases number with
  | finite => rfl
  | _ => cases zero

theorem isNonnegative_of_isZero {number : Binary64} (zero : number.isZero = true) :
    number.isNonnegative = true := by
  cases number with
  | finite negative significand exponent canonical =>
    rw [isNonnegative, show (decide (significand = 0)) = true from zero, Bool.or_true]
  | _ => cases zero

theorem Equals.isFinite {one other : Binary64} (same : Equals one other) :
    one.isFinite = other.isFinite := by
  rcases same with rfl | ⟨one, other⟩
  · rfl
  · rw [isFinite_of_isZero one, isFinite_of_isZero other]

theorem Equals.isNonnegative {one other : Binary64} (same : Equals one other) :
    one.isNonnegative = other.isNonnegative := by
  rcases same with rfl | ⟨one, other⟩
  · rfl
  · rw [isNonnegative_of_isZero one, isNonnegative_of_isZero other]

/-- A product with a zero is a zero. -/
theorem isZero_mul {one other : Binary64} (zero : one.isZero = true)
    (finite : other.isFinite = true) : (one * other).isZero = true := by
  cases one with
  | finite negative significand exponent canonical =>
    cases other with
    | finite otherNegative otherSignificand otherExponent otherCanonical =>
      have nothing : significand = 0 := of_decide_eq_true zero
      have product : significand * otherSignificand = 0 := by rw [nothing, Nat.zero_mul]
      show (ofScaled _ (significand * otherSignificand) _).isZero = true
      rw [product, ofScaled, Nat.zero_mul]
      split <;> exact isZero_zeroOf _
    | _ => cases finite
  | _ => cases zero

/-- Equal speeds are equal in knots. -/
theorem Equals.toKnots {one other : Binary64} (same : Equals one other) (unit : SpeedUnit) :
    Equals (unit.toKnots one) (unit.toKnots other) := by
  rcases same with rfl | ⟨one, other⟩
  · exact .inl rfl
  cases unit with
  | knots => exact .inr ⟨one, other⟩
  | _ => exact .inr ⟨isZero_mul one (by decide +kernel), isZero_mul other (by decide +kernel)⟩

end Telematics.Binary64
