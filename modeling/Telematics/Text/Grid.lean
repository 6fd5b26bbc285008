import Telematics.Text.CodePage

/-!
Character sets of two bytes. The first byte of a character tells its row, the second one its column.
A set is kept as stretches of rows, in which columns without a character have the mark of an
unmapped byte.

* `Grid.char?`: the character of a row and a column.
* `Grid.char?_append`: the first of two sets that has a character counts.
-/

namespace Telematics.Text

/-- A stretch of a row: the row, its first column, and the characters from there on. -/
structure Stretch where
  row : Nat
  column : Nat
  chars : String
deriving DecidableEq, Repr

/-- A character set. -/
abbrev Grid := List Stretch

/-- The character of a column in a stretch. -/
def Stretch.char? (stretch : Stretch) (column : Nat) : Option Char :=
  if column < stretch.column then none
  else match stretch.chars.toList[column - stretch.column]? with
    | some c => if c = unmapped then none else some c
    | none => none

/-- The character of a row and a column. -/
def Grid.char? (grid : Grid) (row column : Nat) : Option Char :=
  grid.findSome? fun stretch => if stretch.row = row then stretch.char? column else none

theorem Grid.char?_append (first second : Grid) (row column : Nat) :
    Grid.char? (first ++ second) row column =
      (Grid.char? first row column).or (Grid.char? second row column) := by
  simp [Grid.char?, List.findSome?_append]

end Telematics.Text
