import Telematics.Proofs.Json.Decimal
import Telematics.Proofs.Number.Digits

/-!
Written numbers. An integer with a sign or without one, and without needless zeros, is read back,
unless it has too many digits. In a fixed width, a number has zeros in front.

* `signed`: how an integer is written. `decimal_eq_signed`: numerals are written so.
* `readInteger_signed`: what is read. `readInteger_decimal`: numerals within the limit are read
  back.
* `areDigits_padded`, `length_padded`: the digits of a number in a fixed width.
* `digitsValue_padded`: they have the value of the number.
* `padded_two`, `padded_four`: the digits of numbers of two and of four digits.
-/

namespace Telematics.Number

open Json (AreDigits areDigits_decimalDigits decimalDigits_ne_nil digitsValue_decimalDigits
  signChars)

/-! ## Signs -/

/-- A number with a sign in front of it, if there is one; true is a minus. -/
def signed (sign : Option Bool) (size : Nat) : String :=
  String.ofList (signChars sign ++ decimalDigits size)

/-- The integer of a sign and a size. -/
def signedValue (sign : Option Bool) (size : Nat) : Int := if sign = some true then -size else size

variable {sign : Option Bool} {size : Nat}

/-- Neither a sign nor a digit is padding. -/
theorem trimPadding_signed (sign : Option Bool) (size : Nat) :
    Text.trimPadding (signChars sign ++ decimalDigits size) =
      signChars sign ++ decimalDigits size := by
  refine Text.trimPadding_of_forall fun c among => ?_
  rcases List.mem_append.mp among with mark | digit
  · rcases sign with _ | _ | _
    · cases mark
    · exact List.mem_singleton.mp mark ▸ by decide
    · exact List.mem_singleton.mp mark ▸ by decide
  · exact Json.isPadding_eq_false
      (Json.IsNumeralChar.visible (.inl (areDigits_decimalDigits size c digit)))

theorem takeSign_signed (sign : Option Bool) (size : Nat) :
    takeSign (signChars sign ++ decimalDigits size) = (sign == some true, decimalDigits size) := by
  rcases sign with _ | _ | _
  · obtain ⟨c, rest, same⟩ := List.exists_cons_of_ne_nil (decimalDigits_ne_nil size)
    have digit := areDigits_decimalDigits size c (same ▸ List.mem_cons_self)
    show takeSign (decimalDigits size) = _
    rw [same]
    exact Json.takeSign_of_isDigit digit rest
  · rfl
  · rfl

theorem run_decimalDigits (size : Nat) :
    run (decimalDigits size) = ⟨values (decimalDigits size), true, []⟩ :=
  run_decimals (decimalDigits_ne_nil size) fun c among =>
    Option.isSome_of_eq_some (Json.decimal?_of_isDigit (areDigits_decimalDigits size c among))

theorem length_values_decimalDigits (size : Nat) :
    (values (decimalDigits size)).length = (decimalDigits size).length := by
  rw [Json.Numeral.values_of_digits (areDigits_decimalDigits size), List.length_map]

theorem ofDigits_values_decimalDigits (size : Nat) :
    ofDigits (values (decimalDigits size)) = size := by
  rw [Json.Numeral.values_of_digits (areDigits_decimalDigits size)]
  exact Json.digitsValue_decimalDigits size

/-- A signed integer is read back, unless it has too many digits. -/
theorem readInteger_signed (sign : Option Bool) (size : Nat) :
    readInteger (signed sign size) =
      if digitLimit < (decimalDigits size).length then
        .error (.tooManyDigits (decimalDigits size).length)
      else .ok (signedValue sign size) := by
  unfold readInteger
  rw [signed, String.toList_ofList, trimPadding_signed, takeSign_signed]
  dsimp only
  rw [run_decimalDigits]
  dsimp only
  rw [length_values_decimalDigits, ofDigits_values_decimalDigits, if_neg (by decide),
    if_neg (by decide : ¬ ([] : List Char) ≠ [])]
  refine if_congr Iff.rfl rfl (congrArg Except.ok ?_)
  rw [signedValue]
  simp

/-- A numeral is a signed integer. -/
theorem decimal_eq_signed (n : Int) :
    ∃ sign, decimal n = signed sign n.natAbs ∧ signedValue sign n.natAbs = n := by
  unfold decimal
  by_cases negative : n < 0
  · refine ⟨some true, if_pos negative, ?_⟩
    rw [signedValue, if_pos rfl]
    omega
  · refine ⟨none, if_neg negative, ?_⟩
    rw [signedValue, if_neg (by decide)]
    omega

/-- A numeral within the limit of digits is read back. -/
theorem readInteger_decimal {n : Int} (short : IsShort n) : readInteger (decimal n) = .ok n := by
  obtain ⟨sign, same, value⟩ := decimal_eq_signed n
  rw [same, readInteger_signed, if_neg (Nat.not_lt.mpr short), value]

/-! ## Widths -/

variable {width n : Nat}

theorem areDigits_padded (width n : Nat) : AreDigits (padded width n) := by
  intro c among
  rcases List.mem_append.mp among with zero | digit
  · rw [(List.mem_replicate.mp zero).2]
    rfl
  · exact areDigits_decimalDigits n c digit

theorem length_padded (positive : 0 < width) (fits : n < 10 ^ width) :
    (padded width n).length = width := by
  have few : (decimalDigits n).length ≤ width :=
    (Nat.length_toDigits_le_iff (by decide) positive).mpr fits
  rw [padded, List.length_append, List.length_replicate]
  exact Nat.sub_add_cancel few

/-- The digits have the value of the number. -/
theorem digitsValue_padded (width n : Nat) : Binary64.digitsValue (padded width n) = n := by
  have zeros : ∀ (count : Nat) (digits : List Char),
      Binary64.digitsValue (List.replicate count '0' ++ digits) = Binary64.digitsValue digits := by
    intro count digits
    induction count with
    | zero => rfl
    | succ count ih =>
      rw [List.replicate_succ, List.cons_append, Json.Numeral.digitsValue_cons, ih]
      exact (congrArg (· + _) (Nat.zero_mul _)).trans (Nat.zero_add _)
  exact (zeros _ _).trans (digitsValue_decimalDigits n)

/-- The last digit stands behind the number without it. -/
theorem padded_append_singleton (positive : 0 < width) (n : Nat) :
    padded (width + 1) n = padded width (n / 10) ++ [(n % 10).digitChar] := by
  obtain ⟨fewer, rfl⟩ := Nat.exists_eq_succ_of_ne_zero positive.ne'
  unfold padded decimalDigits
  dsimp only
  rw [Nat.toDigits_eq_if (by decide)]
  split
  · rename_i small
    rw [Nat.div_eq_of_lt small, Nat.mod_eq_of_lt small]
    show List.replicate (fewer + 1) '0' ++ _ = List.replicate fewer '0' ++ ['0'] ++ _
    rw [← List.replicate_succ']
  · rw [List.length_append, List.length_singleton, Nat.add_sub_add_right, List.append_assoc]

theorem padded_one (small : n < 10) : padded 1 n = [n.digitChar] := by
  unfold padded decimalDigits
  rw [Nat.toDigits_of_lt_base small]
  rfl

/-- A number of two digits. -/
theorem padded_two (fits : n < 100) : padded 2 n = [(n / 10).digitChar, (n % 10).digitChar] := by
  rw [padded_append_singleton (by decide), padded_one (by omega)]
  rfl

/-- A number of four digits is two numbers of two digits. -/
theorem padded_four (n : Nat) : padded 4 n = padded 2 (n / 100) ++ padded 2 (n % 100) := by
  rw [padded_append_singleton (by decide), padded_append_singleton (by decide),
    Nat.div_div_eq_div_mul, padded_two (Nat.mod_lt n (by decide)), List.append_assoc]
  have tens : n / 10 % 10 = n % 100 / 10 := by omega
  have ones : n % 10 = n % 100 % 10 := by omega
  rw [tens, ones]
  rfl

/-- The first digit of a number in a fixed width. -/
theorem exists_padded (positive : 0 < width) (fits : n < 10 ^ width) :
    ∃ c rest, padded width n = c :: rest ∧ c.isDigit = true := by
  have filled : padded width n ≠ [] := by
    rw [← List.length_pos_iff, length_padded positive fits]
    exact positive
  obtain ⟨c, rest, same⟩ := List.exists_cons_of_ne_nil filled
  exact ⟨c, rest, same, areDigits_padded width n c (same ▸ List.mem_cons_self)⟩

end Telematics.Number
