/-!
Character classes given as ranges of code points. The classes of a written standard are long, so
each is kept as a list of closed ranges, and membership is one linear scan.
-/

namespace Telematics.Text

/-- A character class: closed ranges of code points, in ascending order. -/
abbrev CodeRanges := List (Nat × Nat)

/-- The code point lies in one of the ranges. -/
def CodeRanges.hasCode (ranges : CodeRanges) (code : Nat) : Bool :=
  ranges.any fun range => range.1 ≤ code && code ≤ range.2

/-- The character lies in one of the ranges. -/
def CodeRanges.has (ranges : CodeRanges) (c : Char) : Bool := ranges.hasCode c.toNat

theorem CodeRanges.has_iff {ranges : CodeRanges} {c : Char} :
    ranges.has c = true ↔ ∃ range ∈ ranges, range.1 ≤ c.toNat ∧ c.toNat ≤ range.2 := by
  simp [CodeRanges.has, CodeRanges.hasCode]

end Telematics.Text
