import Mathlib.Algebra.Order.Field.Power
import Mathlib.Data.Int.Log
import Mathlib.Data.Rat.Floor
import Mathlib.Tactic.FieldSimp
import Mathlib.Tactic.Linarith
import Mathlib.Tactic.Positivity
import Mathlib.Tactic.Ring
import Telematics.Proofs.Binary64.Range

/-!
How ratios are rounded. Rounding looks at the value of a ratio alone, so it does not matter in which
terms a ratio stands, or in which digits and to which power of ten a numeral is written. A number of
the format is rounded to itself, and so is a ratio that is a little below it.

* `ratio_inUnitsOf`, `exponentOf_eq`: units and exponents, told by the value.
* `roundDiv_of_near`, `roundDiv_congr`: the nearest natural number, told by the value.
* `ofRatio_congr`, `ofRatio_of_near`: the nearest number of the format, told by the value.
* `ofDecimal_eq_ofRatio`: numerals of any size are rounded. The short ways for very great and very
  small ones come to the same.
* `ofDecimal_congr`, `ofDecimal_of_near`: numerals are told by their value.
-/

namespace Telematics.Binary64

/-! ## Units -/

section Units

variable {num den : Nat}

theorem inUnitsOf_den_pos (exponent : Int) (num : Nat) (positive : 0 < den) :
    0 < (inUnitsOf exponent num den).2 := by
  unfold inUnitsOf
  split
  · exact Nat.mul_pos positive (Nat.two_pow_pos _)
  · exact positive

/-- In units of a power of two, the value of a ratio is so many times smaller. -/
theorem ratio_inUnitsOf (exponent : Int) (num den : Nat) :
    ((inUnitsOf exponent num den).1 : ℚ) / (inUnitsOf exponent num den).2 =
      num / den / 2 ^ exponent := by
  unfold inUnitsOf
  split
  · rename_i whole
    obtain ⟨size, rfl⟩ := Int.eq_ofNat_of_zero_le whole
    simp only [Int.toNat_natCast, Nat.pow_eq, Nat.cast_mul, Nat.cast_pow, Nat.cast_ofNat,
      zpow_natCast, div_div]
  · rename_i part
    obtain ⟨size, rfl⟩ : ∃ size : Nat, exponent = -(size : Int) := ⟨(-exponent).toNat, by omega⟩
    simp only [neg_neg, Int.toNat_natCast, Nat.pow_eq, Nat.cast_mul, Nat.cast_pow, Nat.cast_ofNat,
      zpow_neg, zpow_natCast, div_inv_eq_mul]
    ring

/-- The exponent of a positive ratio is that of its value. -/
theorem exponentOf_eq (filled : 0 < num) (positive : 0 < den) :
    exponentOf num den = max (Int.log 2 ((num : ℚ) / den) - 52) (-1074) := by
  have numFloor : (2 : ℚ) ^ (num.log2 : Int) ≤ num := by
    exact_mod_cast Nat.log2_self_le (Nat.ne_of_gt filled)
  have numCeil : (num : ℚ) < 2 ^ ((num.log2 : Int) + 1) := by
    exact_mod_cast (Nat.lt_log2_self : num < 2 ^ (num.log2 + 1))
  have denFloor : (2 : ℚ) ^ (den.log2 : Int) ≤ den := by
    exact_mod_cast Nat.log2_self_le (Nat.ne_of_gt positive)
  have denCeil : (den : ℚ) < 2 ^ ((den.log2 : Int) + 1) := by
    exact_mod_cast (Nat.lt_log2_self : den < 2 ^ (den.log2 + 1))
  have two : (2 : ℚ) ≠ 0 := by norm_num
  have numPos : (0 : ℚ) < num := by exact_mod_cast filled
  have denPos : (0 : ℚ) < den := by exact_mod_cast positive
  have valuePos : (0 : ℚ) < num / den := div_pos numPos denPos
  -- The lengths tell the exponent but for one.
  have least : (num.log2 : Int) - den.log2 - 1 ≤ Int.log 2 ((num : ℚ) / den) := by
    refine (Int.zpow_le_iff_le_log (by decide) valuePos).mp ?_
    rw [Nat.cast_ofNat, le_div_iff₀ denPos]
    calc (2 : ℚ) ^ ((num.log2 : Int) - den.log2 - 1) * den
        ≤ 2 ^ ((num.log2 : Int) - den.log2 - 1) * 2 ^ ((den.log2 : Int) + 1) := by gcongr
      _ = 2 ^ (num.log2 : Int) := by rw [← zpow_add₀ two]; congr 1; ring
      _ ≤ num := numFloor
  have most : Int.log 2 ((num : ℚ) / den) < (num.log2 : Int) - den.log2 + 1 := by
    refine (Int.lt_zpow_iff_log_lt (by decide) valuePos).mp ?_
    rw [Nat.cast_ofNat, div_lt_iff₀ denPos]
    calc (num : ℚ) < 2 ^ ((num.log2 : Int) + 1) := numCeil
      _ = 2 ^ ((num.log2 : Int) - den.log2 + 1) * 2 ^ (den.log2 : Int) := by
          rw [← zpow_add₀ two]; congr 1; ring
      _ ≤ 2 ^ ((num.log2 : Int) - den.log2 + 1) * den := by gcongr
  -- The comparison of the units decides which of the two it is.
  have decides : ∀ guess : Int,
      (inUnitsOf guess num den).1 < (inUnitsOf guess num den).2 * Nat.pow 2 52 ↔
        Int.log 2 ((num : ℚ) / den) < guess + 52 := by
    intro guess
    have unitPos : (0 : ℚ) < (inUnitsOf guess num den).2 := by
      exact_mod_cast inUnitsOf_den_pos guess num positive
    have power : (0 : ℚ) < 2 ^ guess := by positivity
    rw [← Int.lt_zpow_iff_log_lt (by decide) valuePos, Nat.cast_ofNat, add_comm, zpow_add₀ two,
      ← div_lt_iff₀ power, ← ratio_inUnitsOf, div_lt_iff₀ unitPos, mul_comm, Nat.pow_eq]
    exact_mod_cast Iff.rfl
  unfold exponentOf
  simp only [decides]
  split <;> omega

end Units

/-! ## Nearest natural numbers -/

section Nearest

variable {num den : Nat}

theorem roundDiv_mul_left {factor : Nat} (positive : 0 < factor) :
    roundDiv (factor * num) (factor * den) = roundDiv num den := by
  have greater : 2 * (factor * (num % den)) > factor * den ↔ 2 * (num % den) > den := by
    rw [gt_iff_lt, gt_iff_lt, Nat.mul_left_comm]
    exact Nat.mul_lt_mul_left positive
  have tied : 2 * (factor * (num % den)) = factor * den ↔ 2 * (num % den) = den := by
    rw [Nat.mul_left_comm]
    exact Nat.mul_right_inj (Nat.ne_of_gt positive)
  simp only [roundDiv, Nat.mul_div_mul_left _ _ positive, Nat.mul_mod_mul_left, greater, tied]

/-- The nearest natural number is told by the value of the quotient. -/
theorem roundDiv_congr {otherNum otherDen : Nat} (positive : 0 < den) (other : 0 < otherDen)
    (same : (num : ℚ) / den = otherNum / otherDen) :
    roundDiv num den = roundDiv otherNum otherDen := by
  have one : (den : ℚ) ≠ 0 := by exact_mod_cast Nat.ne_of_gt positive
  have two : (otherDen : ℚ) ≠ 0 := by exact_mod_cast Nat.ne_of_gt other
  have cross : num * otherDen = otherNum * den := by
    exact_mod_cast (div_eq_div_iff one two).mp same
  calc roundDiv num den = roundDiv (otherDen * num) (otherDen * den) :=
        (roundDiv_mul_left other).symm
    _ = roundDiv (den * otherNum) (den * otherDen) := by
        rw [Nat.mul_comm otherDen num, cross, Nat.mul_comm otherNum, Nat.mul_comm otherDen]
    _ = roundDiv otherNum otherDen := roundDiv_mul_left positive

/-- A quotient that is less than a half away from a natural number is rounded to it. -/
theorem roundDiv_of_near {nearest : Nat} (positive : 0 < den)
    (above : (nearest : ℚ) - 1 / 2 < num / den) (below : (num : ℚ) / den < nearest + 1 / 2) :
    roundDiv num den = nearest := by
  have denPos : (0 : ℚ) < den := by exact_mod_cast positive
  have least : 2 * (den * nearest) < 2 * num + den := by
    rw [lt_div_iff₀ denPos] at above
    have scaled : (2 * (den * nearest) : ℚ) < 2 * num + den := by linarith
    exact_mod_cast scaled
  have most : 2 * num < 2 * (den * nearest) + den := by
    rw [div_lt_iff₀ denPos] at below
    have scaled : (2 * num : ℚ) < 2 * (den * nearest) + den := by linarith
    exact_mod_cast scaled
  have split := Nat.div_add_mod num den
  have rest := Nat.mod_lt num positive
  -- The quotient is the number itself or the one before it.
  have notAbove : num / den ≤ nearest := by
    refine Nat.le_of_lt_succ (Nat.lt_of_mul_lt_mul_left (a := den) ?_)
    rw [Nat.mul_succ]
    omega
  have notBelow : nearest ≤ num / den + 1 := by
    refine Nat.le_of_lt_succ (Nat.lt_of_mul_lt_mul_left (a := den) ?_)
    rw [Nat.mul_succ, Nat.mul_succ]
    omega
  simp only [roundDiv]
  rcases Nat.eq_or_lt_of_le notBelow with rfl | less
  · rw [Nat.mul_succ] at least
    rw [if_pos (.inl (by omega))]
  · obtain rfl : num / den = nearest := by omega
    refine if_neg ?_
    omega

end Nearest

/-! ## Ratios -/

/-- A rounded significand at an exponent. One that is rounded up to a power of two takes the next
    exponent. -/
def carried (negative : Bool) (significand : Nat) (exponent : Int) : Binary64 :=
  if significand = Nat.pow 2 53 then ofParts negative (Nat.pow 2 52) (exponent + 1)
  else ofParts negative significand exponent

section Ratios

variable {negative : Bool} {num den : Nat}

theorem ofRatio_of_pos (filled : 0 < num) :
    ofRatio negative num den =
      carried negative (roundDiv (inUnitsOf (exponentOf num den) num den).1
        (inUnitsOf (exponentOf num den) num den).2) (exponentOf num den) := by
  unfold ofRatio carried
  refine (if_neg (Nat.ne_of_gt filled)).trans ?_
  extract_lets exponent
  generalize inUnitsOf exponent num den = units
  obtain ⟨n, d⟩ := units
  rfl

/-- A ratio is rounded by its value. -/
theorem ofRatio_congr {otherNum otherDen : Nat} (positive : 0 < den) (other : 0 < otherDen)
    (same : (num : ℚ) / den = otherNum / otherDen) :
    ofRatio negative num den = ofRatio negative otherNum otherDen := by
  have one : (den : ℚ) ≠ 0 := by exact_mod_cast Nat.ne_of_gt positive
  have two : (otherDen : ℚ) ≠ 0 := by exact_mod_cast Nat.ne_of_gt other
  rcases Nat.eq_zero_or_pos num with rfl | filled
  · have nothing : (otherNum : ℚ) / otherDen = 0 := by rw [← same, Nat.cast_zero, zero_div]
    have zero : otherNum = 0 := by
      exact_mod_cast (div_eq_zero_iff.mp nothing).resolve_right two
    rw [zero, ofRatio, ofRatio, if_pos rfl, if_pos rfl]
  · have otherFilled : 0 < otherNum := by
      rcases Nat.eq_zero_or_pos otherNum with rfl | otherFilled
      · rw [Nat.cast_zero, zero_div, div_eq_zero_iff] at same
        have zero : num = 0 := by exact_mod_cast same.resolve_right one
        omega
      · exact otherFilled
    have exponents : exponentOf num den = exponentOf otherNum otherDen := by
      rw [exponentOf_eq filled positive, exponentOf_eq otherFilled other, same]
    rw [ofRatio_of_pos filled, ofRatio_of_pos otherFilled, exponents]
    refine congrArg (carried negative · _) ?_
    refine roundDiv_congr (inUnitsOf_den_pos _ _ positive) (inUnitsOf_den_pos _ _ other) ?_
    rw [ratio_inUnitsOf, ratio_inUnitsOf, same]

theorem ofParts_of_canonical {significand : Nat} {exponent : Int}
    (canonical : Canonical significand exponent) :
    ofParts negative significand exponent = .finite negative significand exponent canonical :=
  dif_pos canonical

/-- A positive ratio is rounded to a natural number of units, if its exponent is that of the units
    and it is less than half a unit away. -/
theorem ofRatio_of_units {exponent : Int} {significand : Nat} (filled : 0 < num)
    (positive : 0 < den) (own : exponentOf num den = exponent)
    (above : (significand : ℚ) - 1 / 2 < num / den / 2 ^ exponent)
    (below : (num : ℚ) / den / 2 ^ exponent < significand + 1 / 2) (negative : Bool) :
    ofRatio negative num den = carried negative significand exponent := by
  rw [ofRatio_of_pos filled, own]
  refine congrArg (carried negative · exponent) ?_
  refine roundDiv_of_near (inUnitsOf_den_pos _ _ positive) ?_ ?_
  · rw [ratio_inUnitsOf]
    exact above
  · rw [ratio_inUnitsOf]
    exact below

/-- A ratio less than a quarter of a unit below a power of two is rounded to the power. Its own
    units are half as large, and it is still less than half of one of them away. -/
theorem ofRatio_below_power {exponent : Int} (filled : 0 < num) (positive : 0 < den)
    (least : -1074 < exponent) (above : ((2 : ℚ) ^ 52 - 1 / 4) * 2 ^ exponent < num / den)
    (below : (num : ℚ) / den < 2 ^ 52 * 2 ^ exponent) :
    ofRatio negative num den = ofParts negative (Nat.pow 2 52) exponent := by
  have two : (2 : ℚ) ≠ 0 := by norm_num
  have unit : (0 : ℚ) < 2 ^ exponent := by positivity
  have valuePos : (0 : ℚ) < num / den :=
    div_pos (by exact_mod_cast filled) (by exact_mod_cast positive)
  have same : exponentOf num den = exponent - 1 := by
    have most : Int.log 2 ((num : ℚ) / den) < exponent + 52 := by
      refine (Int.lt_zpow_iff_log_lt (by decide) valuePos).mp ?_
      rw [Nat.cast_ofNat, zpow_add₀ two, mul_comm]
      exact_mod_cast below
    have fewest : exponent + 51 ≤ Int.log 2 ((num : ℚ) / den) := by
      refine (Int.zpow_le_iff_le_log (by decide) valuePos).mp ?_
      rw [Nat.cast_ofNat, zpow_add₀ two]
      refine le_trans (le_of_eq (mul_comm _ _)) (le_trans ?_ (le_of_lt above))
      exact mul_le_mul_of_nonneg_right (by norm_num) (le_of_lt unit)
    rw [exponentOf_eq filled positive]
    omega
  have halved : (num : ℚ) / den / 2 ^ (exponent - 1) = num / den / 2 ^ exponent * 2 := by
    rw [zpow_sub_one₀ two]
    field_simp
  have twice : ((Nat.pow 2 53 : Nat) : ℚ) = 2 * 2 ^ 52 := by norm_num
  have scaledAbove := (lt_div_iff₀ unit).mpr above
  have scaledBelow := (div_lt_iff₀ unit).mpr below
  have halfAbove : ((Nat.pow 2 53 : Nat) : ℚ) - 1 / 2 < num / den / 2 ^ (exponent - 1) := by
    rw [halved, twice]
    linarith
  have halfBelow : (num : ℚ) / den / 2 ^ (exponent - 1) < (Nat.pow 2 53 : Nat) + 1 / 2 := by
    rw [halved, twice]
    linarith
  rw [ofRatio_of_units filled positive same halfAbove halfBelow negative, carried, if_pos rfl,
    Int.sub_add_cancel]

/-- A ratio is rounded to a positive number of the format, if it is that number or less than a
    quarter of a unit below it. -/
theorem ofRatio_of_near {significand : Nat} {exponent : Int}
    (canonical : Canonical significand exponent) (filled : 0 < significand) (positive : 0 < den)
    (above : ((significand : ℚ) - 1 / 4) * 2 ^ exponent < num / den)
    (most : (num : ℚ) / den ≤ significand * 2 ^ exponent) :
    ofRatio negative num den = .finite negative significand exponent canonical := by
  have two : (2 : ℚ) ≠ 0 := by norm_num
  have unit : (0 : ℚ) < 2 ^ exponent := by positivity
  have one : (1 : ℚ) ≤ significand := by exact_mod_cast filled
  have valuePos : (0 : ℚ) < num / den :=
    lt_trans (mul_pos (by linarith) unit) above
  have numPos : 0 < num := by
    have denPos : (0 : ℚ) < den := by exact_mod_cast positive
    rw [lt_div_iff₀ denPos, zero_mul] at valuePos
    exact_mod_cast valuePos
  by_cases reaches : exponent + 52 ≤ Int.log 2 ((num : ℚ) / den) ∨ exponent = -1074
  · -- The exponent of the ratio is that of the number.
    have same : exponentOf num den = exponent := by
      have least : -1074 ≤ exponent := by
        rcases canonical with ⟨-, rfl⟩ | ⟨-, -, least, -⟩
        · exact Int.le_refl _
        · exact least
      have small : (significand : ℚ) < 2 ^ 53 := by
        have below := canonical.lt
        rw [Nat.pow_eq] at below
        exact_mod_cast below
      have bounded : Int.log 2 ((num : ℚ) / den) < exponent + 53 := by
        refine (Int.lt_zpow_iff_log_lt (by decide) valuePos).mp (lt_of_le_of_lt most ?_)
        rw [Nat.cast_ofNat, zpow_add₀ two, mul_comm]
        exact mul_lt_mul_of_pos_left (by exact_mod_cast small) unit
      rw [exponentOf_eq numPos positive]
      omega
    have halfAbove : (significand : ℚ) - 1 / 2 < num / den / 2 ^ exponent := by
      have scaled := (lt_div_iff₀ unit).mpr above
      linarith
    have halfBelow : (num : ℚ) / den / 2 ^ exponent < significand + 1 / 2 := by
      have scaled := (div_le_iff₀ unit).mpr most
      linarith
    rw [ofRatio_of_units numPos positive same halfAbove halfBelow negative, carried,
      if_neg (Nat.ne_of_lt canonical.lt), ofParts_of_canonical canonical]
  · -- The ratio is below a power of two, which is the number.
    rw [not_or, not_le] at reaches
    obtain ⟨under, least⟩ := reaches
    have normal : Nat.pow 2 52 ≤ significand ∧ -1074 < exponent := by
      rcases canonical with ⟨-, same⟩ | ⟨normal, -, bound, -⟩
      · exact absurd same least
      · exact ⟨normal, lt_of_le_of_ne bound (Ne.symm least)⟩
    have below : (num : ℚ) / den < 2 ^ 52 * 2 ^ exponent := by
      have bound := (Int.lt_zpow_iff_log_lt (by decide) valuePos).mpr under
      rw [Nat.cast_ofNat, zpow_add₀ two, mul_comm] at bound
      exact_mod_cast bound
    have power : significand = Nat.pow 2 52 := by
      refine Nat.le_antisymm (Nat.le_of_lt_succ ?_) normal.1
      have scaledAbove := (lt_div_iff₀ unit).mpr above
      have scaledBelow := (div_lt_iff₀ unit).mpr below
      have scaled : (significand : ℚ) < 2 ^ 52 + 1 := by linarith
      exact_mod_cast scaled
    have value : (significand : ℚ) = 2 ^ 52 := by
      rw [power]
      norm_num
    rw [value] at above
    subst power
    rw [ofRatio_below_power numPos positive normal.2 above below]
    exact ofParts_of_canonical canonical

/-- A ratio below half of the least unit is rounded to zero. -/
theorem ofRatio_of_tiny (positive : 0 < den) (tiny : (num : ℚ) / den < 2 ^ (-1075 : Int)) :
    ofRatio negative num den = zeroOf negative := by
  rcases Nat.eq_zero_or_pos num with rfl | filled
  · rfl
  have numPos : (0 : ℚ) < num := by exact_mod_cast filled
  have denPos : (0 : ℚ) < den := by exact_mod_cast positive
  have valuePos : (0 : ℚ) < num / den := div_pos numPos denPos
  have low : Int.log 2 ((num : ℚ) / den) < -1075 :=
    (Int.lt_zpow_iff_log_lt (by decide) valuePos).mp (by rw [Nat.cast_ofNat]; exact tiny)
  have same : exponentOf num den = -1074 := by
    rw [exponentOf_eq filled positive]
    omega
  have unit : (0 : ℚ) < 2 ^ (-1074 : Int) := by positivity
  have rounded : ofRatio negative num den = carried negative 0 (-1074) := by
    refine ofRatio_of_units filled positive same ?_ ?_ negative
    · have sign := div_pos valuePos unit
      rw [Nat.cast_zero]
      linarith
    · rw [Nat.cast_zero, zero_add, div_lt_iff₀ unit]
      have half : (2 : ℚ) ^ (-1075 : Int) = 1 / 2 * 2 ^ (-1074 : Int) := by
        rw [show (-1075 : Int) = -1074 - 1 by rfl, zpow_sub_one₀ (by norm_num)]
        ring
      linarith
  rw [rounded, carried, if_neg (by decide)]
  exact ofParts_of_canonical _

end Ratios

/-! ## Numerals -/

/-- The ratio of natural numbers that is a power of ten times some digits. -/
def decimalRatio (digits : Nat) (exponent : Int) : Nat × Nat :=
  if 0 ≤ exponent then (digits * Nat.pow 10 exponent.toNat, 1)
  else (digits, Nat.pow 10 (-exponent).toNat)

theorem decimalRatio_den_pos (digits : Nat) (exponent : Int) :
    0 < (decimalRatio digits exponent).2 := by
  unfold decimalRatio
  split
  · exact Nat.one_pos
  · exact Nat.pow_pos (by decide)

theorem ratio_decimalRatio (digits : Nat) (exponent : Int) :
    ((decimalRatio digits exponent).1 : ℚ) / (decimalRatio digits exponent).2 =
      digits * 10 ^ exponent := by
  unfold decimalRatio
  split
  · rename_i whole
    obtain ⟨size, rfl⟩ := Int.eq_ofNat_of_zero_le whole
    simp only [Int.toNat_natCast, Nat.pow_eq, Nat.cast_mul, Nat.cast_pow, Nat.cast_ofNat,
      zpow_natCast, Nat.cast_one, div_one]
  · rename_i part
    obtain ⟨size, rfl⟩ : ∃ size : Nat, exponent = -(size : Int) := ⟨(-exponent).toNat, by omega⟩
    simp only [neg_neg, Int.toNat_natCast, Nat.pow_eq, Nat.cast_pow, Nat.cast_ofNat, zpow_neg,
      zpow_natCast, div_eq_mul_inv]

/-- A numeral is rounded, whatever its size. -/
theorem ofDecimal_eq_ofRatio (negative : Bool) (digits : Nat) (exponent : Int) :
    ofDecimal negative digits exponent =
      ofRatio negative (decimalRatio digits exponent).1 (decimalRatio digits exponent).2 := by
  unfold ofDecimal
  split
  · rename_i nothing
    rw [nothing]
    unfold decimalRatio ofRatio
    split
    · rw [if_pos (Nat.zero_mul _)]
    · rw [if_pos rfl]
  rename_i filled
  split
  · -- The digits are multiplied by more than the format has.
    rename_i great
    rw [decimalRatio, if_pos (by omega)]
    have many : 1025 ≤ 3 * exponent.toNat := by omega
    refine (ofRatio_infinite negative many ?_).symm
    calc Nat.pow 2 (3 * exponent.toNat) = Nat.pow 8 exponent.toNat := Nat.pow_mul 2 3 _
      _ ≤ Nat.pow 10 exponent.toNat := Nat.pow_le_pow_left (by decide) _
      _ ≤ digits * Nat.pow 10 exponent.toNat := Nat.le_mul_of_pos_left _ (by omega)
  split
  · rename_i small
    refine (ofRatio_of_tiny (decimalRatio_den_pos _ _) ?_).symm
    have ceil : (digits : ℚ) < 2 ^ ((digits.log2 : Int) + 1) := by
      exact_mod_cast (Nat.lt_log2_self : digits < 2 ^ (digits.log2 + 1))
    have power : (0 : ℚ) < 10 ^ exponent := by positivity
    rw [ratio_decimalRatio]
    calc (digits : ℚ) * 10 ^ exponent < 2 ^ ((digits.log2 : Int) + 1) * 10 ^ exponent := by
          gcongr
      _ ≤ 10 ^ ((digits.log2 : Int) + 1) * 10 ^ exponent := by
          gcongr
          exact zpow_le_zpow_left₀ (by omega) (by norm_num) (by norm_num)
      _ = 10 ^ ((digits.log2 : Int) + 1 + exponent) := (zpow_add₀ (by norm_num) _ _).symm
      _ ≤ 10 ^ (-400 : Int) := zpow_le_zpow_right₀ (by norm_num) (by omega)
      _ < 2 ^ (-1075 : Int) := by decide +kernel
  · unfold decimalRatio
    split <;> rfl

section Numerals

variable {negative : Bool} {digits : Nat} {exponent : Int}

/-- A numeral is rounded by its value. -/
theorem ofDecimal_congr {otherDigits : Nat} {otherExponent : Int}
    (same : (digits : ℚ) * 10 ^ exponent = otherDigits * 10 ^ otherExponent) :
    ofDecimal negative digits exponent = ofDecimal negative otherDigits otherExponent := by
  rw [ofDecimal_eq_ofRatio, ofDecimal_eq_ofRatio]
  refine ofRatio_congr (decimalRatio_den_pos _ _) (decimalRatio_den_pos _ _) ?_
  rw [ratio_decimalRatio, ratio_decimalRatio, same]

/-- A numeral is rounded to a positive number of the format, if it is that number or less than a
    quarter of a unit below it. -/
theorem ofDecimal_of_near {significand : Nat} {power : Int}
    (canonical : Canonical significand power) (filled : 0 < significand)
    (above : ((significand : ℚ) - 1 / 4) * 2 ^ power < digits * 10 ^ exponent)
    (most : (digits : ℚ) * 10 ^ exponent ≤ significand * 2 ^ power) :
    ofDecimal negative digits exponent = .finite negative significand power canonical := by
  rw [ofDecimal_eq_ofRatio]
  refine ofRatio_of_near canonical filled (decimalRatio_den_pos _ _) ?_ ?_
  · rw [ratio_decimalRatio]
    exact above
  · rw [ratio_decimalRatio]
    exact most

/-- The sign does not matter to the size of a number. -/
theorem ofDecimal_sign {significand : Nat} {power : Int} {canonical : Canonical significand power}
    (same : ofDecimal false digits exponent = .finite false significand power canonical) :
    ofDecimal negative digits exponent = .finite negative significand power canonical := by
  have parts : ∀ {size : Nat} {unit : Int},
      ofParts false size unit = .finite false significand power canonical →
        ofParts negative size unit = .finite negative significand power canonical := by
    intro size unit same
    unfold ofParts at same ⊢
    split at same
    · rename_i own
      cases same
      exact dif_pos own
    · cases same
  rw [ofDecimal_eq_ofRatio] at same ⊢
  generalize decimalRatio digits exponent = ratio at same ⊢
  rcases Nat.eq_zero_or_pos ratio.1 with nothing | some_
  · rw [ofRatio, if_pos nothing] at same ⊢
    cases same
    rfl
  · rw [ofRatio_of_pos some_, carried] at same ⊢
    split at same
    · rename_i carries
      rw [if_pos carries]
      exact parts same
    · rename_i stays
      rw [if_neg stays]
      exact parts same

end Numerals

end Telematics.Binary64
