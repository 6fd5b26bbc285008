import Telematics.Binary64.Decimal

/-!
Units of speed. Speeds are kept in knots; a report may give them in another unit.

* `SpeedUnit.named?_symbol`: a unit is found by its symbol.
-/

namespace Telematics

/-- A unit of speed. -/
inductive SpeedUnit where
  | knots
  | kilometresPerHour
  | milesPerHour
  | metresPerSecond
deriving DecidableEq, Repr

namespace SpeedUnit

/-- The symbol of a unit. -/
def symbol : SpeedUnit → String
  | .knots => "kn"
  | .kilometresPerHour => "kmh"
  | .milesPerHour => "mph"
  | .metresPerSecond => "mps"

/-- The unit of a symbol. -/
def named? : String → Option SpeedUnit
  | "kn" => some .knots
  | "kmh" => some .kilometresPerHour
  | "mph" => some .milesPerHour
  | "mps" => some .metresPerSecond
  | _ => none

/-- The speed in knots of one unit of another speed. -/
def inKnots : SpeedUnit → Binary64
  | .knots => .ofDecimal false 1 0
  | .kilometresPerHour => .ofDecimal false 539957 (-6)
  | .milesPerHour => .ofDecimal false 868976 (-6)
  | .metresPerSecond => .ofDecimal false 194384 (-5)

/-- A speed in knots. A speed that is in knots already stays as it is. -/
def toKnots (unit : SpeedUnit) (value : Binary64) : Binary64 :=
  match unit with
  | .knots => value
  | unit => value * unit.inKnots

/-- The wording for a symbol of no unit. -/
def unknownMessage (symbol : String) : String := "Unknown speed unit: " ++ symbol

theorem named?_symbol (unit : SpeedUnit) : named? unit.symbol = some unit := by
  cases unit <;> rfl

end SpeedUnit

end Telematics
