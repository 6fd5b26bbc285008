import Mathlib.Data.List.TakeWhile
import Telematics.Json.Printer
import Telematics.Proofs.Binary64.Shortest
import Telematics.Proofs.Json.Decimal

/-!
The numeral that a double-precision number is written as. Its digits are those of the shortest
numeral without the zeros at their end, and the point stands among them or beside them, or an
exponent follows. Wherever the point stands, the value is the same, and it is never an integer that
is written.

* `digitsValue_append`: the value of digits, from both ends.
* `Lays`: a numeral has the digits and the point of a layout. `exists_lays`: there is always one.
* `exists_numeral_toText`: a finite number is written as a numeral, which is read back as it.
-/

namespace Telematics.Json

open Binary64 (digitsValue layout)
open Number (decimalDigits padded)

/-! ## Digits -/

section Digits

theorem AreDigits.append {front back : List Char} (one : AreDigits front) (two : AreDigits back) :
    AreDigits (front ++ back) := by
  intro c among
  rcases List.mem_append.mp among with first | second
  · exact one c first
  · exact two c second

theorem areDigits_zeros (count : Nat) : AreDigits (List.replicate count '0') := by
  intro c among
  rw [List.eq_of_mem_replicate among]
  rfl

/-- The digits in front count by the length of those behind them. -/
theorem digitsValue_append (front back : List Char) :
    digitsValue (front ++ back) = digitsValue front * 10 ^ back.length + digitsValue back := by
  induction front with
  | nil =>
    show digitsValue back = 0 * 10 ^ back.length + digitsValue back
    rw [Nat.zero_mul, Nat.zero_add]
  | cons c rest ih =>
    rw [List.cons_append, Numeral.digitsValue_cons, Numeral.digitsValue_cons, ih,
      List.length_append]
    ring

theorem digitsValue_zeros (count : Nat) : digitsValue (List.replicate count '0') = 0 := by
  induction count with
  | zero => rfl
  | succ count ih =>
    rw [List.replicate_succ, Numeral.digitsValue_cons, ih]
    exact Nat.zero_mul _

/-- Zeros in front do not count. -/
theorem digitsValue_zeros_append (count : Nat) (digits : List Char) :
    digitsValue (List.replicate count '0' ++ digits) = digitsValue digits := by
  rw [digitsValue_append, digitsValue_zeros, Nat.zero_mul, Nat.zero_add]

/-- Digits without the zeros at their end, and how many those are. -/
theorem exists_zeros (digits : List Char) :
    ∃ count, digits = (digits.reverse.dropWhile (· = '0')).reverse ++ List.replicate count '0' := by
  refine ⟨(digits.reverse.takeWhile (· = '0')).length, ?_⟩
  have zeros : digits.reverse.takeWhile (· = '0') =
      List.replicate (digits.reverse.takeWhile (· = '0')).length '0' :=
    List.eq_replicate_of_mem fun c among => by simpa using List.mem_takeWhile_imp among
  calc digits = (digits.reverse.takeWhile (· = '0') ++
        digits.reverse.dropWhile (· = '0')).reverse := by
        rw [List.takeWhile_append_dropWhile, List.reverse_reverse]
    _ = _ := by rw [List.reverse_append, zeros, List.reverse_replicate, List.length_replicate]

end Digits

/-! ## Exponents -/

namespace Exponent

theorem filled_padded (width n : Nat) : padded width n ≠ [] :=
  List.append_ne_nil_of_right_ne_nil _ (decimalDigits_ne_nil n)

/-- The exponent of an integer, with its sign and at least two digits. -/
def ofInt (n : Int) : Exponent where
  upper := false
  sign := some (decide (n < 0))
  digits := padded 2 n.natAbs
  areDigits := (areDigits_zeros _).append (areDigits_decimalDigits _)
  filled := filled_padded _ _

theorem chars_ofInt (n : Int) : (ofInt n).chars = Binary64.exponentText n := by
  show 'e' :: (signChars (some (decide (n < 0))) ++ padded 2 n.natAbs) = _
  unfold Binary64.exponentText
  by_cases negative : n < 0
  · rw [if_pos negative, decide_eq_true negative]
    rfl
  · rw [if_neg negative, decide_eq_false negative]
    rfl

theorem value_ofInt (n : Int) : (ofInt n).value = n := by
  have size : digitsValue (ofInt n).digits = n.natAbs :=
    (digitsValue_zeros_append _ _).trans (digitsValue_decimalDigits _)
  have sign : (ofInt n).sign = some true ↔ n < 0 := by
    show some (decide (n < 0)) = some true ↔ n < 0
    simp
  unfold value
  dsimp only
  rw [size]
  by_cases negative : n < 0
  · rw [if_pos (sign.mpr negative)]
    omega
  · rw [if_neg (mt sign.mp negative)]
    omega

end Exponent

/-! ## Layouts -/

/-- The power of ten at the last digit of a numeral. -/
def Numeral.power (n : Numeral) : Int :=
  (n.exponent.map Exponent.value).getD 0 - n.fraction.length

/-- A numeral has the digits and the point of a layout, and their value. -/
structure Lays (n : Numeral) (digits : List Char) (point : Int) : Prop where
  unsigned : n.unsigned = layout digits point
  pointed : n.isIntegral = false
  value : (digitsValue (n.whole ++ n.fraction) : ℚ) * 10 ^ n.power =
    digitsValue digits * 10 ^ (point - digits.length)

section Layouts

variable {digits : List Char} {point : Int}

theorem isIntegral_of_fraction {n : Numeral} (filled : n.fraction ≠ []) :
    n.isIntegral = false :=
  Bool.eq_false_iff.mpr fun integral => filled (n.isIntegral_iff.mp integral).1

theorem unsigned_of_fraction {n : Numeral} (filled : n.fraction ≠ []) (none : n.exponent = none) :
    n.unsigned = n.whole ++ '.' :: n.fraction := by
  rw [Numeral.unsigned, Numeral.fractionChars, if_neg filled, Numeral.exponentChars, none]
  exact congrArg (n.whole ++ ·) (List.append_nil _)

theorem power_of_none {n : Numeral} (none : n.exponent = none) :
    n.power = -(n.fraction.length : Int) := by
  rw [Numeral.power, none]
  exact Int.zero_sub _

/-- One digit before the point, and an exponent. -/
theorem exists_lays_scientific (negative : Bool) {first : Char} {others : List Char}
    (all : AreDigits (first :: others)) (far : point - 1 < -4 ∨ 16 ≤ point - 1) :
    ∃ n : Numeral, n.negative = negative ∧ Lays n (first :: others) point := by
  obtain ⟨digit, rest⟩ := List.forall_mem_cons.mp all
  refine ⟨{
    negative
    whole := [first]
    fraction := others
    exponent := some (.ofInt (point - 1))
    wholeDigits := fun c among => List.mem_singleton.mp among ▸ digit
    fractionDigits := rest
    filled := List.cons_ne_nil _ _
    leading := fun zero => by rw [Option.some.inj zero] }, rfl, ?_, ?_, ?_⟩
  · unfold Numeral.unsigned Numeral.fractionChars Numeral.exponentChars layout
    dsimp only
    rw [if_pos far, Option.map_some, Exponent.chars_ofInt]
    cases others with
    | nil => rfl
    | cons second others => rfl
  · unfold Numeral.isIntegral
    exact Bool.and_false _
  · have power : ((Exponent.ofInt (point - 1)).value : Int) - others.length =
        point - (first :: others).length := by
      rw [Exponent.value_ofInt, List.length_cons]
      omega
    show (digitsValue ([first] ++ others) : ℚ) * 10 ^ ((Exponent.ofInt (point - 1)).value -
      (others.length : Int)) = _
    rw [power]
    rfl

/-- A zero before the point, and zeros before the digits. -/
theorem exists_lays_small (negative : Bool) (all : AreDigits digits) (filled : digits ≠ [])
    (near : ¬ (point - 1 < -4 ∨ 16 ≤ point - 1)) (small : point ≤ 0) :
    ∃ n : Numeral, n.negative = negative ∧ Lays n digits point := by
  have behind : List.replicate (-point).toNat '0' ++ digits ≠ [] :=
    List.append_ne_nil_of_right_ne_nil _ filled
  refine ⟨{
    negative
    whole := ['0']
    fraction := List.replicate (-point).toNat '0' ++ digits
    exponent := none
    wholeDigits := areDigits_zeros 1
    fractionDigits := (areDigits_zeros _).append all
    filled := List.cons_ne_nil _ _
    leading := fun _ => rfl }, rfl, ?_, isIntegral_of_fraction behind, ?_⟩
  · rw [unsigned_of_fraction behind rfl]
    unfold layout
    rw [if_neg near, if_pos small]
    rfl
  · rw [power_of_none rfl]
    have power : -((List.replicate (-point).toNat '0' ++ digits).length : Int) =
        point - digits.length := by
      rw [List.length_append, List.length_replicate]
      omega
    have value : digitsValue (['0'] ++ (List.replicate (-point).toNat '0' ++ digits)) =
        digitsValue digits :=
      (digitsValue_zeros_append 1 _).trans (digitsValue_zeros_append _ _)
    dsimp only
    rw [power, value]

/-- Zeros behind the digits, and a zero behind the point. -/
theorem exists_lays_great (negative : Bool) (all : AreDigits digits) (filled : digits ≠ [])
    (leading : digits.head? ≠ some '0') (near : ¬ (point - 1 < -4 ∨ 16 ≤ point - 1))
    (positive : ¬ point ≤ 0) (great : digits.length ≤ point.toNat) :
    ∃ n : Numeral, n.negative = negative ∧ Lays n digits point := by
  refine ⟨{
    negative
    whole := digits ++ List.replicate (point.toNat - digits.length) '0'
    fraction := ['0']
    exponent := none
    wholeDigits := all.append (areDigits_zeros _)
    fractionDigits := areDigits_zeros 1
    filled := List.append_ne_nil_of_left_ne_nil filled _
    leading := fun zero => absurd (List.head?_append_of_ne_nil _ filled ▸ zero) leading }, rfl, ?_,
      isIntegral_of_fraction (List.cons_ne_nil _ _), ?_⟩
  · rw [unsigned_of_fraction (List.cons_ne_nil _ _) rfl]
    unfold layout
    rw [if_neg near, if_neg positive, if_pos great]
  · rw [power_of_none rfl]
    show (digitsValue (digits ++ List.replicate (point.toNat - digits.length) '0' ++ ['0']) : ℚ) *
      10 ^ (-1 : Int) = _
    have power : point - digits.length = ((point.toNat - digits.length : Nat) : Int) := by omega
    rw [digitsValue_append, digitsValue_append, digitsValue_zeros, List.length_replicate, power,
      zpow_natCast, show digitsValue ['0'] = 0 from rfl]
    push_cast
    rw [zpow_neg_one]
    simp

/-- The point among the digits. -/
theorem exists_lays_among (negative : Bool) (all : AreDigits digits) (filled : digits ≠ [])
    (leading : digits.head? ≠ some '0') (near : ¬ (point - 1 < -4 ∨ 16 ≤ point - 1))
    (positive : ¬ point ≤ 0) (among : ¬ digits.length ≤ point.toNat) :
    ∃ n : Numeral, n.negative = negative ∧ Lays n digits point := by
  have behind : digits.drop point.toNat ≠ [] := fun none =>
    among (List.drop_eq_nil_iff.mp none)
  have front : (digits.take point.toNat).head? = digits.head? := by
    rw [List.head?_take, if_neg (by omega)]
  refine ⟨{
    negative
    whole := digits.take point.toNat
    fraction := digits.drop point.toNat
    exponent := none
    wholeDigits := fun c among => all c (List.mem_of_mem_take among)
    fractionDigits := fun c among => all c (List.mem_of_mem_drop among)
    filled := fun none => by
      rcases List.take_eq_nil_iff.mp none with zero | empty
      · omega
      · exact filled empty
    leading := fun zero => absurd (front ▸ zero) leading }, rfl, ?_,
      isIntegral_of_fraction behind, ?_⟩
  · rw [unsigned_of_fraction behind rfl]
    unfold layout
    rw [if_neg near, if_neg positive, if_neg among]
  · rw [power_of_none rfl]
    have power : -((digits.drop point.toNat).length : Int) = point - digits.length := by
      rw [List.length_drop]
      omega
    dsimp only
    rw [power, List.take_append_drop]

/-- There is a numeral for every layout of digits that do not begin with zero. -/
theorem exists_lays (negative : Bool) (all : AreDigits digits) (filled : digits ≠ [])
    (leading : digits.head? ≠ some '0') (point : Int) :
    ∃ n : Numeral, n.negative = negative ∧ Lays n digits point := by
  by_cases far : point - 1 < -4 ∨ 16 ≤ point - 1
  · obtain ⟨first, others, rfl⟩ := List.exists_cons_of_ne_nil filled
    exact exists_lays_scientific negative all far
  by_cases small : point ≤ 0
  · exact exists_lays_small negative all filled far small
  by_cases great : digits.length ≤ point.toNat
  · exact exists_lays_great negative all filled leading far small great
  · exact exists_lays_among negative all filled leading far small great

end Layouts

/-! ## Numbers -/

/-- A positive number is written as a numeral, which is read back as it. -/
theorem exists_numeral_positiveText {significand : Nat} {exponent : Int}
    (canonical : Binary64.Canonical significand exponent) (some_ : 0 < significand)
    (negative : Bool) :
    ∃ n : Numeral, n.negative = negative ∧ n.unsigned = Binary64.positiveText significand exponent ∧
      n.isIntegral = false ∧ n.value = .finite negative significand exponent canonical := by
  obtain ⟨size, grid, found, positive, reads⟩ := Binary64.shortest?_spec canonical some_
  obtain ⟨count, zeros⟩ := exists_zeros (decimalDigits size)
  have text : Binary64.positiveText significand exponent =
      layout ((decimalDigits size).reverse.dropWhile (· = '0')).reverse
        ((decimalDigits size).length + grid) := by
    unfold Binary64.positiveText
    rw [found]
  generalize ((decimalDigits size).reverse.dropWhile (· = '0')).reverse = kept at zeros text
  have value := digitsValue_decimalDigits size
  have noZero : (decimalDigits size).head? ≠ some '0' := by
    intro zero
    rw [decimalDigits_leading size zero] at value
    exact Nat.ne_of_lt positive value
  have all := areDigits_decimalDigits size
  rw [zeros] at value noZero all text
  have filled : kept ≠ [] := by
    rintro rfl
    rw [List.nil_append, digitsValue_zeros] at value
    omega
  rw [List.head?_append_of_ne_nil _ filled] at noZero
  obtain ⟨n, sign, lays⟩ := exists_lays negative
    (fun c among => all c (List.mem_append_left _ among)) filled noZero
    ((kept ++ List.replicate count '0').length + grid)
  refine ⟨n, sign, lays.unsigned.trans text.symm, lays.pointed, ?_⟩
  -- The zeros that are not written are in the power of ten.
  have same : (digitsValue (n.whole ++ n.fraction) : ℚ) * 10 ^ n.power = size * 10 ^ grid := by
    have power : ((kept ++ List.replicate count '0').length : Int) + grid - kept.length =
        count + grid := by
      rw [List.length_append, List.length_replicate]
      omega
    rw [digitsValue_append, digitsValue_zeros, List.length_replicate, Nat.add_zero] at value
    rw [lays.value, power, zpow_add₀ (by norm_num), zpow_natCast, ← value]
    push_cast
    ring
  have number : n.value = .ofDecimal n.negative (digitsValue (n.whole ++ n.fraction)) n.power := rfl
  rw [number, sign, Binary64.ofDecimal_congr same]
  exact Binary64.ofDecimal_sign reads

/-- A zero is written with a point, so it is no integer and keeps its sign. -/
theorem exists_numeral_zero (negative : Bool) :
    ∃ n : Numeral, n.negative = negative ∧ n.unsigned = ['0', '.', '0'] ∧ n.isIntegral = false ∧
      n.value = .zeroOf negative :=
  ⟨{
    negative
    whole := ['0']
    fraction := ['0']
    exponent := none
    wholeDigits := areDigits_zeros 1
    fractionDigits := areDigits_zeros 1
    filled := List.cons_ne_nil _ _
    leading := fun _ => rfl }, rfl, rfl, rfl, rfl⟩

/-- A finite number is written as a numeral, which is no integer and is read back as the number. -/
theorem exists_numeral_toText {number : Binary64} (finite : number.isFinite = true) :
    ∃ n : Numeral, n.chars = number.toText.toList ∧ n.isIntegral = false ∧ n.value = number := by
  cases number with
  | nan => cases finite
  | infinite => cases finite
  | finite negative significand exponent canonical =>
    obtain ⟨n, sign, unsigned, pointed, value⟩ : ∃ n : Numeral, n.negative = negative ∧
        n.unsigned = (if significand = 0 then ['0', '.', '0']
          else Binary64.positiveText significand exponent) ∧
        n.isIntegral = false ∧ n.value = .finite negative significand exponent canonical := by
      rcases Nat.eq_zero_or_pos significand with rfl | positive
      · have least : exponent = -1074 := by
          rcases canonical with ⟨-, least⟩ | ⟨normal, -⟩
          · exact least
          · exact absurd normal (by decide)
        subst least
        exact exists_numeral_zero negative
      · rw [if_neg (Nat.ne_of_gt positive)]
        exact exists_numeral_positiveText canonical positive negative
    refine ⟨n, ?_, pointed, value⟩
    unfold Binary64.toText Numeral.chars
    rw [sign, unsigned, String.toList_ofList]

end Telematics.Json
