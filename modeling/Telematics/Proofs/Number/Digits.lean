import Mathlib.Data.Nat.Digits.Lemmas
import Telematics.Number.Integer
import Telematics.Proofs.Binary64.Range

/-!
How many digits integers have. Whatever is read as an integer, and the integer part of whatever
double-precision number, has no more digits than the reader of integers takes.

* `IsShort`: an integer keeps the limit of digits.
* `isShort_of_readInteger`: an integer that is read keeps it.
* `isShort_of_truncate?`: so does the integer part of a number.
-/

namespace Telematics

namespace Number

/-- An integer has no more digits than a numeral may have. -/
def IsShort (n : Int) : Prop := (decimalDigits n.natAbs).length ≤ digitLimit

instance (n : Int) : Decidable (IsShort n) := by
  unfold IsShort; infer_instance

theorem isShort_of_lt {n : Int} {count : Nat} (bounded : n.natAbs < 10 ^ count)
    (few : count ≤ digitLimit) : IsShort n := by
  rcases Nat.eq_zero_or_pos count with rfl | some_
  · have zero : n.natAbs = 0 := Nat.lt_one_iff.mp bounded
    unfold IsShort
    rw [zero]
    decide
  · exact Nat.le_trans ((Nat.length_toDigits_le_iff (by decide) some_).mpr bounded) few

theorem isShort_of_lt_two_pow {n : Int} {bits : Nat} (bounded : n.natAbs < 2 ^ bits)
    (few : bits ≤ digitLimit) : IsShort n :=
  isShort_of_lt (Nat.lt_of_lt_of_le bounded (Nat.pow_le_pow_left (by decide) bits)) few

/-- Every digit of a run is one of ten. -/
theorem lt_of_mem_runFrom {text : List Char} {read : List Nat} {afterDigit : Bool}
    (all : ∀ digit ∈ read, digit < 10) :
    ∀ digit ∈ (runFrom read afterDigit text).digits, digit < 10 := by
  induction text generalizing read afterDigit with
  | nil => exact fun digit among => all digit (List.mem_reverse.mp among)
  | cons c rest ih =>
    unfold runFrom
    split
    · rename_i digit value
      exact ih (List.forall_mem_cons.mpr ⟨Text.decimal?_lt_ten value, all⟩)
    · split
      · split
        · exact ih all
        · exact fun digit among => all digit (List.mem_reverse.mp among)
      · exact fun digit among => all digit (List.mem_reverse.mp among)

/-- The value of digits is bounded by their number. -/
theorem ofDigits_lt {digits : List Nat} (all : ∀ digit ∈ digits, digit < 10) :
    ofDigits digits < 10 ^ digits.length := by
  induction digits using List.reverseRecOn with
  | nil => exact Nat.one_pos
  | append_singleton front digit ih =>
    have value := ih fun other among => all other (List.mem_append_left _ among)
    have last := all digit (List.mem_append_right _ List.mem_cons_self)
    rw [ofDigits_append_singleton, List.length_append, List.length_singleton, Nat.pow_succ]
    omega

/-- An integer that is read keeps the limit of digits. -/
theorem isShort_of_readInteger {text : String} {value : Int}
    (read : readInteger text = .ok value) : IsShort value := by
  unfold readInteger at read
  dsimp only at read
  generalize takeSign (Text.trimPadding text.toList) = signed at read
  have all : ∀ digit ∈ (run signed.2).digits, digit < 10 :=
    lt_of_mem_runFrom fun _ absent => nomatch absent
  generalize run signed.2 = found at read all
  split at read
  · cases read
  split at read
  · cases read
  rename_i few
  split at read
  · cases read
  have bounded := ofDigits_lt all
  have size : value.natAbs = ofDigits found.digits := by
    cases read
    split
    · exact Int.natAbs_neg _
    · rfl
  rw [← size] at bounded
  exact isShort_of_lt bounded (Nat.not_lt.mp few)

end Number

namespace Binary64

/-- The integer part of a number is within the range of the format. -/
theorem exists_bits_of_truncate? {number : Binary64} {whole : Int}
    (same : number.truncate? = some whole) : ∃ bits ≤ 1024, whole.natAbs < 2 ^ bits := by
  cases number with
  | nan => cases same
  | infinite => cases same
  | finite negative significand exponent canonical =>
    have small : significand < 2 ^ 53 := canonical.lt
    have great := canonical.exponent_le
    refine ⟨53 + exponent.toNat, by omega, ?_⟩
    have size : (if 0 ≤ exponent then significand * Nat.pow 2 exponent.toNat
        else significand / Nat.pow 2 (-exponent).toNat) < 2 ^ (53 + exponent.toNat) := by
      split
      · rw [Nat.pow_add]
        exact Nat.mul_lt_mul_of_pos_right small (Nat.two_pow_pos _)
      · calc significand / Nat.pow 2 (-exponent).toNat ≤ significand := Nat.div_le_self _ _
          _ < 2 ^ 53 := small
          _ ≤ 2 ^ (53 + exponent.toNat) := Nat.pow_le_pow_right (by decide) (Nat.le_add_right _ _)
    have magnitude : whole.natAbs = if 0 ≤ exponent then significand * Nat.pow 2 exponent.toNat
        else significand / Nat.pow 2 (-exponent).toNat := by
      unfold truncate? at same
      cases same
      cases negative
      · rfl
      · exact Int.natAbs_neg _
    rwa [magnitude]

/-- The integer part of a number keeps the limit of digits. -/
theorem isShort_of_truncate? {number : Binary64} {whole : Int}
    (same : number.truncate? = some whole) : Number.IsShort whole := by
  obtain ⟨bits, few, bounded⟩ := exists_bits_of_truncate? same
  exact Number.isShort_of_lt_two_pow bounded (Nat.le_trans few (by decide))

end Binary64

end Telematics
