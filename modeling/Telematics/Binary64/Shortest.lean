import Telematics.Binary64.Decimal

/-!
The shortest numeral of a number: the fewest digits that read back as the number, and of those the
nearest. Numbers are written with a point and at least one digit on each side of it, or, when the
decimal exponent is below -4 or above 15, with an exponent of at least two digits.

* `shortest?`: digits and exponent of the shortest numeral.
* `toText`: the written form.
-/

namespace Telematics.Binary64

/-- The multiple of `10 ^ exponent` that reads back as a finite number: of the two neighbours of
    the number the nearer one that does. -/
def onGrid? (significand : Nat) (exponent : Int) (grid : Int) : Option Nat :=
  let (num, den) := if 0 ≤ exponent then (significand * Nat.pow 2 exponent.toNat, 1)
    else (significand, Nat.pow 2 (-exponent).toNat)
  let (n, d) := if 0 ≤ grid then (num, den * Nat.pow 10 grid.toNat)
    else (num * Nat.pow 10 (-grid).toNat, den)
  let below := n / d
  let rest := n % d
  let value := ofRatio false num den
  let reads (digits : Nat) : Bool := digits ≠ 0 && ofDecimal false digits grid = value
  let nearBelow := 2 * rest < d ∨ (2 * rest = d ∧ below % 2 = 0)
  if nearBelow then
    if reads below then some below else if reads (below + 1) then some (below + 1) else none
  else
    if reads (below + 1) then some (below + 1) else if reads below then some below else none

/-- An exponent of ten that is greater than a finite number. -/
def gridAbove (significand : Nat) (exponent : Int) : Int :=
  ((significand.log2 : Int) + exponent + 1) * 30103 / 100000 + 1

/-- The digits and the decimal exponent of the shortest numeral of a positive number: the coarsest
    grid with a multiple that reads back. -/
def shortest? (significand : Nat) (exponent : Int) : Option (Nat × Int) :=
  (List.range 30).findSome? fun (step : Nat) =>
    let grid := gridAbove significand exponent - (step : Int)
    (onGrid? significand exponent grid).map (·, grid)

/-- An exponent of at least two digits, with its sign. -/
def exponentText (exponent : Int) : List Char :=
  'e' :: (if exponent < 0 then '-' else '+') :: Number.padded 2 exponent.natAbs

/-- The written form of digits with the point after the first `point` of them. -/
def layout (digits : List Char) (point : Int) : List Char :=
  let exponent := point - 1
  if exponent < -4 ∨ 16 ≤ exponent then
    match digits with
    | [] => []
    | [only] => only :: exponentText exponent
    | first :: others => first :: '.' :: others ++ exponentText exponent
  else if point ≤ 0 then
    '0' :: '.' :: List.replicate (-point).toNat '0' ++ digits
  else if digits.length ≤ point.toNat then
    digits ++ List.replicate (point.toNat - digits.length) '0' ++ ['.', '0']
  else digits.take point.toNat ++ '.' :: digits.drop point.toNat

/-- The written form of a positive number of the format. -/
def positiveText (significand : Nat) (exponent : Int) : List Char :=
  match shortest? significand exponent with
  | some (value, grid) =>
    let digits := Number.decimalDigits value
    let kept := (digits.reverse.dropWhile (· = '0')).reverse
    layout kept (digits.length + grid)
  | none => []

/-- The text of a number. -/
def toText : Binary64 → String
  | .nan => "nan"
  | .infinite negative => if negative then "-inf" else "inf"
  | .finite negative significand exponent _ =>
    let unsigned := if significand = 0 then ['0', '.', '0'] else positiveText significand exponent
    String.ofList (if negative then '-' :: unsigned else unsigned)

end Telematics.Binary64
