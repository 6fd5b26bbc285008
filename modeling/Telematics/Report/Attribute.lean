import Telematics.Binary64.Decimal
import Telematics.Json.Basic
import Telematics.Text.Blank

/-!
Typing of attribute texts. A text that is a number becomes one, the words true and false become
booleans, and any other text stays a text.

* `guess_eq_text_iff`: which texts stay texts.
-/

namespace Telematics.Report

/-- The word true in any case; every other text is false. -/
def readBoolean (text : String) : Bool := Text.lowerAscii text = "true"

/-- The value of an attribute text. -/
def guess (text : String) : Json :=
  match Binary64.read? text with
  | some value => .float value
  | none => if text = "true" then .bool true else if text = "false" then .bool false else .text text

theorem guess_eq_text_iff {text stays : String} :
    guess text = .text stays ↔
      Binary64.read? text = none ∧ text ≠ "true" ∧ text ≠ "false" ∧ text = stays := by
  unfold guess
  cases Binary64.read? text with
  | some value => simp
  | none =>
    by_cases yes : text = "true"
    · simp [yes]
    · by_cases no : text = "false"
      · simp [no]
      · simp [yes, no]

/-- A value always comes out of a text. -/
theorem guess_ne_null (text : String) : guess text ≠ .null := by
  unfold guess
  split
  · simp
  · split
    · simp
    · split <;> simp

end Telematics.Report
