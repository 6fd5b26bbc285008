import Mathlib.Data.Nat.Cast.Order.Field
import Telematics.Binary64.Shortest
import Telematics.Proofs.Binary64.Rounding

/-!
The shortest numeral of a number. It is looked for on finer and finer grids of powers of ten, and it
is always found: the last grid is so fine that the multiple below the number is rounded to it.

* `onGrid?_eq`: what is looked for on a grid.
* `gridAbove_fine`: how fine the last grid is.
* `shortest?_spec`: there is a shortest numeral, and it is read back as the number.
-/

namespace Telematics.Binary64

/-! ## Grids -/

/-- The ratio of natural numbers that is a power of two times a significand. -/
def binaryRatio (significand : Nat) (exponent : Int) : Nat × Nat :=
  if 0 ≤ exponent then (significand * Nat.pow 2 exponent.toNat, 1)
  else (significand, Nat.pow 2 (-exponent).toNat)

/-- The ratio of natural numbers that is `num / den` in units of a power of ten. -/
def inGrid (grid : Int) (num den : Nat) : Nat × Nat :=
  if 0 ≤ grid then (num, den * Nat.pow 10 grid.toNat)
  else (num * Nat.pow 10 (-grid).toNat, den)

/-- Of the two neighbours of a quotient the nearer one that has a property, or the other one. -/
def pickNear (reads : Nat → Bool) (num den : Nat) : Option Nat :=
  let below := num / den
  let rest := num % den
  if 2 * rest < den ∨ (2 * rest = den ∧ below % 2 = 0) then
    if reads below then some below else if reads (below + 1) then some (below + 1) else none
  else
    if reads (below + 1) then some (below + 1) else if reads below then some below else none

section Grids

variable {significand : Nat} {exponent : Int}

theorem onGrid?_eq (significand : Nat) (exponent grid : Int) :
    onGrid? significand exponent grid =
      pickNear
        (fun digits => digits ≠ 0 && ofDecimal false digits grid =
          ofRatio false (binaryRatio significand exponent).1 (binaryRatio significand exponent).2)
        (inGrid grid (binaryRatio significand exponent).1 (binaryRatio significand exponent).2).1
        (inGrid grid (binaryRatio significand exponent).1
          (binaryRatio significand exponent).2).2 := by
  unfold onGrid? pickNear binaryRatio inGrid
  by_cases whole : 0 ≤ exponent <;> by_cases coarse : 0 ≤ grid
  all_goals simp only [whole, coarse, if_true, if_false]

theorem binaryRatio_den_pos (significand : Nat) (exponent : Int) :
    0 < (binaryRatio significand exponent).2 := by
  unfold binaryRatio
  split
  · exact Nat.one_pos
  · exact Nat.two_pow_pos _

theorem ratio_binaryRatio (significand : Nat) (exponent : Int) :
    ((binaryRatio significand exponent).1 : ℚ) / (binaryRatio significand exponent).2 =
      significand * 2 ^ exponent := by
  unfold binaryRatio
  split
  · rename_i whole
    obtain ⟨size, rfl⟩ := Int.eq_ofNat_of_zero_le whole
    simp only [Int.toNat_natCast, Nat.pow_eq, Nat.cast_mul, Nat.cast_pow, Nat.cast_ofNat,
      zpow_natCast, Nat.cast_one, div_one]
  · rename_i part
    obtain ⟨size, rfl⟩ : ∃ size : Nat, exponent = -(size : Int) := ⟨(-exponent).toNat, by omega⟩
    simp only [neg_neg, Int.toNat_natCast, Nat.pow_eq, Nat.cast_pow, Nat.cast_ofNat, zpow_neg,
      zpow_natCast, div_eq_mul_inv]

theorem inGrid_den_pos {den : Nat} (grid : Int) (num : Nat) (positive : 0 < den) :
    0 < (inGrid grid num den).2 := by
  unfold inGrid
  split
  · exact Nat.mul_pos positive (Nat.pow_pos (by decide))
  · exact positive

theorem ratio_inGrid (grid : Int) (num den : Nat) :
    ((inGrid grid num den).1 : ℚ) / (inGrid grid num den).2 = num / den / 10 ^ grid := by
  unfold inGrid
  split
  · rename_i whole
    obtain ⟨size, rfl⟩ := Int.eq_ofNat_of_zero_le whole
    simp only [Int.toNat_natCast, Nat.pow_eq, Nat.cast_mul, Nat.cast_pow, Nat.cast_ofNat,
      zpow_natCast, div_div]
  · rename_i part
    obtain ⟨size, rfl⟩ : ∃ size : Nat, grid = -(size : Int) := ⟨(-grid).toNat, by omega⟩
    simp only [neg_neg, Int.toNat_natCast, Nat.pow_eq, Nat.cast_mul, Nat.cast_pow, Nat.cast_ofNat,
      zpow_neg, zpow_natCast, div_inv_eq_mul]
    ring

/-- A number of the format is the number nearest to its own ratio. -/
theorem ofRatio_binaryRatio (canonical : Canonical significand exponent)
    (filled : 0 < significand) (negative : Bool) :
    ofRatio negative (binaryRatio significand exponent).1 (binaryRatio significand exponent).2 =
      .finite negative significand exponent canonical := by
  have unit : (0 : ℚ) < 2 ^ exponent := by positivity
  refine ofRatio_of_near canonical filled (binaryRatio_den_pos _ _) ?_ ?_
  · rw [ratio_binaryRatio]
    exact mul_lt_mul_of_pos_right (by linarith) unit
  · rw [ratio_binaryRatio]

theorem reads_of_pickNear {reads : Nat → Bool} {num den digits : Nat}
    (picked : pickNear reads num den = some digits) : reads digits = true := by
  unfold pickNear at picked
  dsimp only at picked
  -- Each of the two neighbours is picked only where it has the property.
  split at picked <;> split at picked
  · rename_i reads
    cases picked
    exact reads
  · split at picked
    · rename_i reads
      cases picked
      exact reads
    · cases picked
  · rename_i reads
    cases picked
    exact reads
  · split at picked
    · rename_i reads
      cases picked
      exact reads
    · cases picked

theorem pickNear_isSome {reads : Nat → Bool} {num den : Nat} (below : reads (num / den) = true) :
    (pickNear reads num den).isSome = true := by
  unfold pickNear
  dsimp only
  rw [below, if_pos rfl, if_pos rfl]
  split
  · rfl
  · split <;> rfl

/-- What is found on a grid is read back as the number. -/
theorem reads_of_onGrid? (canonical : Canonical significand exponent) (filled : 0 < significand)
    {grid : Int} {digits : Nat} (found : onGrid? significand exponent grid = some digits) :
    0 < digits ∧ ofDecimal false digits grid = .finite false significand exponent canonical := by
  rw [onGrid?_eq] at found
  have reads := reads_of_pickNear found
  rw [Bool.and_eq_true, decide_eq_true_eq, decide_eq_true_eq,
    ofRatio_binaryRatio canonical filled] at reads
  exact ⟨Nat.pos_of_ne_zero reads.1, reads.2⟩

/-- On a grid that is finer than a quarter of a unit there is a numeral of the number. -/
theorem onGrid?_isSome (canonical : Canonical significand exponent) (filled : 0 < significand)
    {grid : Int} (fine : (10 : ℚ) ^ grid ≤ 2 ^ (exponent - 2)) :
    (onGrid? significand exponent grid).isSome = true := by
  rw [onGrid?_eq]
  refine pickNear_isSome ?_
  have positive := inGrid_den_pos grid (binaryRatio significand exponent).1
    (binaryRatio_den_pos significand exponent)
  have value := ratio_inGrid grid (binaryRatio significand exponent).1
    (binaryRatio significand exponent).2
  rw [ratio_binaryRatio] at value
  rw [ofRatio_binaryRatio canonical filled]
  generalize inGrid grid (binaryRatio significand exponent).1
    (binaryRatio significand exponent).2 = units at positive value ⊢
  obtain ⟨num, den⟩ := units
  have denPos : (0 : ℚ) < den := by exact_mod_cast positive
  have mesh : (0 : ℚ) < 10 ^ grid := by positivity
  have unit : (0 : ℚ) < 2 ^ exponent := by positivity
  have one : (1 : ℚ) ≤ significand := by exact_mod_cast filled
  have quarter : (2 : ℚ) ^ (exponent - 2) = 1 / 4 * 2 ^ exponent := by
    rw [zpow_sub₀ (by norm_num)]
    norm_num
    ring
  -- The multiple below the number is less than one mesh away from it.
  have floor : ((num / den : Nat) : ℚ) * 10 ^ grid ≤ significand * 2 ^ exponent := by
    have below : ((num / den : Nat) : ℚ) ≤ num / den := Nat.cast_div_le
    rwa [value, le_div_iff₀ mesh] at below
  have ceil : (significand : ℚ) * 2 ^ exponent <
      ((num / den : Nat) : ℚ) * 10 ^ grid + 10 ^ grid := by
    have above : (num : ℚ) / den < (num / den : Nat) + 1 := by
      rw [div_lt_iff₀ denPos]
      have step : num < (num / den + 1) * den := by
        rw [Nat.mul_comm]
        exact Nat.lt_mul_div_succ num positive
      exact_mod_cast step
    rw [value, div_lt_iff₀ mesh] at above
    linarith
  have near : ((significand : ℚ) - 1 / 4) * 2 ^ exponent < (num / den : Nat) * 10 ^ grid := by
    rw [sub_mul]
    linarith
  have some_ : num / den ≠ 0 := by
    intro nothing
    rw [nothing, Nat.cast_zero, zero_mul] at near
    have sign : 0 < ((significand : ℚ) - 1 / 4) * 2 ^ exponent := mul_pos (by linarith) unit
    linarith
  show (decide (num / den ≠ 0) && decide (ofDecimal false (num / den) grid = _)) = true
  rw [Bool.and_eq_true, decide_eq_true_eq, decide_eq_true_eq]
  exact ⟨some_, ofDecimal_of_near canonical filled near floor⟩

end Grids

/-! ## The last grid -/

/-- Ten to the third is not much less than two to the tenth. -/
theorem ten_zpow_le_of_nonneg {power size : Int} (sign : 0 ≤ power)
    (bound : 10 * power ≤ 3 * size) : (10 : ℚ) ^ power ≤ 2 ^ size := by
  refine le_of_pow_le_pow_left₀ (n := 3) (by decide) (by positivity) ?_
  calc ((10 : ℚ) ^ power) ^ 3 = (10 ^ 3) ^ power := by
        rw [← zpow_natCast, ← zpow_natCast, ← zpow_mul, ← zpow_mul, mul_comm]
    _ ≤ (2 ^ 10) ^ power := zpow_le_zpow_left₀ sign (by norm_num) (by norm_num)
    _ = 2 ^ (10 * power) := by rw [zpow_mul]; norm_num
    _ ≤ 2 ^ (3 * size) := zpow_le_zpow_right₀ (by norm_num) bound
    _ = (2 ^ size) ^ 3 := by rw [mul_comm, zpow_mul]; norm_cast

/-- Ten to the fourth is not much more than two to the thirteenth. -/
theorem ten_zpow_le_of_nonpos {power size : Int} (sign : power ≤ 0)
    (bound : 13 * power ≤ 4 * size) : (10 : ℚ) ^ power ≤ 2 ^ size := by
  obtain ⟨count, rfl⟩ : ∃ count : Nat, power = -(count : Int) := ⟨(-power).toNat, by omega⟩
  refine le_of_pow_le_pow_left₀ (n := 4) (by decide) (by positivity) ?_
  calc ((10 : ℚ) ^ (-(count : Int))) ^ 4 = ((10 ^ 4) ^ count)⁻¹ := by
        rw [zpow_neg, zpow_natCast, inv_pow, ← pow_mul, ← pow_mul, mul_comm]
    _ ≤ ((2 ^ 13) ^ count)⁻¹ := by gcongr; norm_num
    _ = 2 ^ (13 * -(count : Int)) := by
        rw [← pow_mul, mul_neg, zpow_neg]
        norm_cast
    _ ≤ 2 ^ (4 * size) := zpow_le_zpow_right₀ (by norm_num) bound
    _ = (2 ^ size) ^ 4 := by rw [mul_comm, zpow_mul]; norm_cast

/-- The last grid is finer than a quarter of a unit. -/
theorem gridAbove_fine {significand : Nat} {exponent : Int}
    (canonical : Canonical significand exponent) (filled : 0 < significand) :
    (10 : ℚ) ^ (gridAbove significand exponent - 29) ≤ 2 ^ (exponent - 2) := by
  have short : significand.log2 < 53 :=
    (Nat.log2_lt (Nat.ne_of_gt filled)).mpr canonical.lt
  have range : -1074 ≤ exponent ∧ exponent ≤ 971 := by
    refine ⟨?_, canonical.exponent_le⟩
    rcases canonical with ⟨-, rfl⟩ | ⟨-, -, least, -⟩
    · exact Int.le_refl _
    · exact least
  unfold gridAbove
  rcases Int.le_total 0 (((significand.log2 : Int) + exponent + 1) * 30103 / 100000 + 1 - 29) with
    sign | sign
  · exact ten_zpow_le_of_nonneg sign (by omega)
  · exact ten_zpow_le_of_nonpos sign (by omega)

/-! ## Shortest numerals -/

/-- There is a shortest numeral, and it is read back as the number. -/
theorem shortest?_spec {significand : Nat} {exponent : Int}
    (canonical : Canonical significand exponent) (filled : 0 < significand) :
    ∃ digits grid, shortest? significand exponent = some (digits, grid) ∧ 0 < digits ∧
      ofDecimal false digits grid = .finite false significand exponent canonical := by
  have found : (shortest? significand exponent).isSome = true := by
    unfold shortest?
    rw [List.isSome_findSome?, List.any_eq_true]
    refine ⟨29, List.mem_range.mpr (by decide), ?_⟩
    rw [Option.isSome_map]
    exact onGrid?_isSome canonical filled (gridAbove_fine canonical filled)
  obtain ⟨⟨digits, grid⟩, same⟩ := Option.isSome_iff_exists.mp found
  obtain ⟨step, -, one⟩ := List.exists_of_findSome?_eq_some same
  obtain ⟨_, onGrid, pair⟩ := Option.map_eq_some_iff.mp one
  cases pair
  exact ⟨_, _, same, reads_of_onGrid? canonical filled onGrid⟩

end Telematics.Binary64
