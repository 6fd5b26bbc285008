import Telematics.Proofs.Json.Numeral

/-!
The numeral that an integer is written as. It has no needless zeros, and tells the integer.

* `Numeral.ofInt`: the numeral of an integer.
* `chars_ofInt`, `integer_ofInt`: it is written as the integer is, and stands for it.
* `decimal_injective`: integers that are written alike are equal.
-/

namespace Telematics.Json

open Number (decimal decimalDigits)

theorem areDigits_decimalDigits (n : Nat) : AreDigits (decimalDigits n) :=
  fun _ among => Nat.isDigit_of_mem_toDigits (by decide) (by decide) among

theorem decimalDigits_ne_nil (n : Nat) : decimalDigits n ≠ [] := Nat.toDigits_ne_nil

/-- The digits of a number have its value. -/
theorem digitsValue_decimalDigits (n : Nat) : Binary64.digitsValue (decimalDigits n) = n := by
  have folded : ∀ (digits : List Char) (value : Nat),
      (digits.map (·.toNat - 48)).foldl (fun value digit => value * 10 + digit) value =
        Nat.ofDigitChars 10 digits value := by
    intro digits
    induction digits with
    | nil => exact fun _ => rfl
    | cons c rest ih =>
      intro value
      rw [List.map_cons, List.foldl_cons, ih, Nat.ofDigitChars_cons, Nat.mul_comm]
      rfl
  exact (folded _ 0).trans (Nat.ofDigitChars_toDigits (by decide) (by decide))

/-- There is no zero in front of other digits. -/
theorem decimalDigits_leading (n : Nat) :
    (decimalDigits n).head? = some '0' → decimalDigits n = ['0'] := by
  induction n using Nat.strongRecOn with
  | ind n ih =>
    unfold decimalDigits at ih ⊢
    rw [Nat.toDigits_eq_if (by decide)]
    split
    · intro zero
      rw [Option.some.inj zero]
    · rename_i great
      obtain ⟨c, rest, same⟩ := List.exists_cons_of_ne_nil
        (Nat.toDigits_ne_nil : Nat.toDigits 10 (n / 10) ≠ [])
      intro zero
      -- The first digit is that of a tenth of the number, which would be zero.
      have alone := ih (n / 10) (by omega) (by rw [same] at zero ⊢; exact zero)
      have none := digitsValue_decimalDigits (n / 10)
      rw [decimalDigits, alone] at none
      have nothing : n / 10 = 0 := none.symm
      omega

/-- The numeral of an integer. -/
def Numeral.ofInt (n : Int) : Numeral where
  negative := decide (n < 0)
  whole := decimalDigits n.natAbs
  fraction := []
  exponent := none
  wholeDigits := areDigits_decimalDigits _
  fractionDigits := fun _ absent => nomatch absent
  filled := decimalDigits_ne_nil _
  leading := decimalDigits_leading _

theorem Numeral.chars_ofInt (n : Int) : (Numeral.ofInt n).chars = (decimal n).toList := by
  have unsigned : (Numeral.ofInt n).unsigned = decimalDigits n.natAbs := List.append_nil _
  rw [Numeral.chars, unsigned]
  unfold decimal
  by_cases negative : n < 0
  · rw [if_pos negative, String.toList_ofList]
    exact if_pos (decide_eq_true negative)
  · rw [if_neg negative, String.toList_ofList]
    exact if_neg (by simpa [Numeral.ofInt] using negative)

theorem Numeral.isIntegral_ofInt (n : Int) : (Numeral.ofInt n).isIntegral = true := rfl

theorem Numeral.integer_ofInt (n : Int) : (Numeral.ofInt n).integer = n := by
  unfold Numeral.integer
  show (if decide (n < 0) = true then -((Binary64.digitsValue (decimalDigits n.natAbs) : Nat) : Int)
    else ((Binary64.digitsValue (decimalDigits n.natAbs) : Nat) : Int)) = n
  rw [digitsValue_decimalDigits]
  by_cases negative : n < 0
  · rw [if_pos (decide_eq_true negative)]
    omega
  · rw [if_neg (by simpa using negative)]
    omega

/-- The characters of a written integer are those of numerals. -/
theorem decimal_chars (n : Int) : ∀ c ∈ (decimal n).toList, c.isDigit = true ∨ c = '-' := by
  intro c among
  unfold decimal at among
  split at among <;> rw [String.toList_ofList] at among
  · rcases List.mem_cons.mp among with rfl | digit
    · exact .inr rfl
    · exact .inl (areDigits_decimalDigits _ c digit)
  · exact .inl (areDigits_decimalDigits _ c among)

/-- Integers that are written alike are equal. -/
theorem decimal_injective {n m : Int} (same : decimal n = decimal m) : n = m := by
  have chars : (Numeral.ofInt n).chars = (Numeral.ofInt m).chars := by
    rw [Numeral.chars_ofInt, Numeral.chars_ofInt, same]
  have parts := (Numeral.ofInt n).takeSign_chars
  rw [chars, (Numeral.ofInt m).takeSign_chars] at parts
  obtain ⟨sign, digits⟩ := Prod.mk.inj parts
  have unsigned : ∀ k, (Numeral.ofInt k).unsigned = (Numeral.ofInt k).whole :=
    fun _ => List.append_nil _
  rw [unsigned, unsigned] at digits
  rw [← Numeral.integer_ofInt n, ← Numeral.integer_ofInt m, Numeral.integer, Numeral.integer, sign,
    digits]

end Telematics.Json
