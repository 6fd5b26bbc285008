/-!
Hexadecimal digits. They are written in lower case and read in either case.

* `hexValue?_hexDigit`: a written digit is read back.
* `hexNumber?_hexDigits`: written digits are read back, up to the digits that were left out.
-/

namespace Telematics.Text

/-- One hexadecimal digit, in lower case. -/
def hexDigit (n : Nat) : Char :=
  if n < 10 then Char.ofNat (48 + n) else Char.ofNat (87 + n)

/-- The last `width` hexadecimal digits of a number. -/
def hexDigits : Nat → Nat → List Char
  | 0, _ => []
  | width + 1, n => hexDigits width (n / 16) ++ [hexDigit (n % 16)]

/-- The value of a hexadecimal digit in either case. -/
def hexValue? (c : Char) : Option Nat :=
  if '0' ≤ c ∧ c ≤ '9' then some (c.toNat - 48)
  else if 'a' ≤ c ∧ c ≤ 'f' then some (c.toNat - 87)
  else if 'A' ≤ c ∧ c ≤ 'F' then some (c.toNat - 55)
  else none

/-- The value of hexadecimal digits, if all of them are digits. -/
def hexNumber? (digits : List Char) : Option Nat :=
  digits.foldl (fun value c => do return (← value) * 16 + (← hexValue? c)) (some 0)

theorem hexValue?_hexDigit : ∀ n, n < 16 → hexValue? (hexDigit n) = some n := by decide

@[simp] theorem length_hexDigits (width n : Nat) : (hexDigits width n).length = width := by
  induction width generalizing n with
  | zero => rfl
  | succ width ih => simp [hexDigits, ih]

theorem hexNumber?_append_singleton (digits : List Char) (c : Char) :
    hexNumber? (digits ++ [c]) = do return (← hexNumber? digits) * 16 + (← hexValue? c) := by
  simp [hexNumber?, List.foldl_append]

theorem hexNumber?_hexDigits (width n : Nat) :
    hexNumber? (hexDigits width n) = some (n % Nat.pow 16 width) := by
  induction width generalizing n with
  | zero => simp [hexDigits, hexNumber?, Nat.mod_one]
  | succ width ih =>
    have digit : hexValue? (hexDigit (n % 16)) = some (n % 16) :=
      hexValue?_hexDigit _ (Nat.mod_lt n (by decide))
    have split : n % Nat.pow 16 (width + 1) = n / 16 % Nat.pow 16 width * 16 + n % 16 := by
      have next : Nat.pow 16 (width + 1) = 16 * Nat.pow 16 width := Nat.mul_comm ..
      rw [next, Nat.mod_mul]
      omega
    rw [hexDigits, hexNumber?_append_singleton, ih, digit, split]
    rfl

end Telematics.Text
