import Telematics.Calendar.Moment
import Telematics.Text.Blank
import Telematics.Text.Digit

/-!
The fixed date-time pattern: a year of four digits, month and day after hyphens, blanks, then hour,
minute and second with colons between them. Each part but the year has one or two digits, two being
tried first, and only digits that can begin such a part are taken as its first. What follows the
pattern is not part of it.
-/

namespace Telematics.Calendar

/-- The parts of the fixed pattern. The second may be 60 or 61. -/
structure PatternParts where
  year : Nat
  month : Nat
  day : Nat
  hour : Nat
  minute : Nat
  second : Nat
deriving DecidableEq, Repr

/-- A way to read a part at the front of a text. -/
abbrev PartReader := List Char → Option (Nat × List Char)

/-- Two digits of given classes. -/
def twoDigits (first second : Char → Bool) : PartReader
  | a :: b :: rest =>
    if first a && second b then
      match Text.decimal? a, Text.decimal? b with
      | some x, some y => some (x * 10 + y, rest)
      | _, _ => none
    else none
  | _ => none

/-- One digit of a given class. -/
def oneDigit (accepts : Char → Bool) : PartReader
  | c :: rest => if accepts c then (Text.decimal? c).map (·, rest) else none
  | [] => none

/-- An ASCII character of a range. -/
def between (low high : Char) (c : Char) : Bool := low ≤ c && c ≤ high

/-- The readers of a month. -/
def monthReaders : List PartReader :=
  [twoDigits (· = '1') (between '0' '2'), twoDigits (· = '0') (between '1' '9'),
    oneDigit (between '1' '9')]

/-- The readers of a day; a blank may stand for a leading zero. -/
def dayReaders : List PartReader :=
  [twoDigits (· = '3') (between '0' '1'), twoDigits (between '1' '2') Text.isDecimal,
    twoDigits (· = '0') (between '1' '9'), oneDigit (between '1' '9'),
    fun
      | ' ' :: rest => oneDigit (between '1' '9') rest
      | _ => none]

/-- The readers of an hour. -/
def hourReaders : List PartReader :=
  [twoDigits (· = '2') (between '0' '3'), twoDigits (between '0' '1') Text.isDecimal,
    oneDigit Text.isDecimal]

/-- The readers of a minute. -/
def minuteReaders : List PartReader :=
  [twoDigits (between '0' '5') Text.isDecimal, oneDigit Text.isDecimal]

/-- The readers of a second. -/
def secondReaders : List PartReader :=
  [twoDigits (· = '6') (between '0' '1'), twoDigits (between '0' '5') Text.isDecimal,
    oneDigit Text.isDecimal]

/-- A reader of a year: four digits. -/
def readYear? (text : List Char) : Option (Nat × List Char) := do
  let (century, rest) ← twoDigits Text.isDecimal Text.isDecimal text
  let (year, rest) ← twoDigits Text.isDecimal Text.isDecimal rest
  some (century * 100 + year, rest)

/-- A separator in front of a text. -/
def skip? (separator : Char) : List Char → Option (List Char)
  | c :: rest => if c = separator then some rest else none
  | [] => none

/-- At least one blank in front of a text. -/
def skipBlanks? : List Char → Option (List Char)
  | c :: rest => if Text.isBlank c then some (rest.dropWhile Text.isBlank) else none
  | [] => none

/-- Reads a part and goes on, taking the first reader with which the rest can be read too. -/
def tryEach {α : Type} (readers : List PartReader) (text : List Char)
    (next : Nat → List Char → Option α) : Option α :=
  readers.findSome? fun reader => (reader text).bind fun (value, rest) => next value rest

/-- The parts of the pattern at the front of a text, and the rest. -/
def readPattern? (text : List Char) : Option (PatternParts × List Char) :=
  (readYear? text).bind fun (year, rest) =>
  (skip? '-' rest).bind fun rest =>
  tryEach monthReaders rest fun month rest =>
  (skip? '-' rest).bind fun rest =>
  tryEach dayReaders rest fun day rest =>
  (skipBlanks? rest).bind fun rest =>
  tryEach hourReaders rest fun hour rest =>
  (skip? ':' rest).bind fun rest =>
  tryEach minuteReaders rest fun minute rest =>
  (skip? ':' rest).bind fun rest =>
  tryEach secondReaders rest fun second rest =>
  some (⟨year, month, day, hour, minute, second⟩, rest)

/-- The wall clock of the parts. -/
def PatternParts.check (parts : PatternParts) : Except Fault WallClock := do
  let date ← Date.of parts.year parts.month parts.day
  let time ← TimeOfDay.of parts.hour parts.minute parts.second 0
  pure ⟨date, time⟩

/-- The written form of a wall clock in the fixed pattern, without fraction. -/
def WallClock.toPattern (clock : WallClock) : String :=
  String.ofList (clock.date.toText ++ ' ' :: Number.padded 2 clock.time.hour ++ ':' ::
    Number.padded 2 clock.time.minute ++ ':' :: Number.padded 2 clock.time.second)

end Telematics.Calendar
