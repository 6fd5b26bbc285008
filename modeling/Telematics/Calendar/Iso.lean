import Telematics.Calendar.Moment
import Telematics.Text.Blank
import Telematics.Text.Digit

/-!
Reading ISO 8601 date-times, with or without an offset.

The strict form has a date in one of its calendar or week spellings, then any one character, then a
time whose parts are two digits each, with colons or without, and an offset of the same shape. What
stands between the time and the offset is passed over in places where the form ends a part; a NUL
ends the text. A text that is not of the strict form may be of the loose form, in which month, day,
hour, minute and second may have one digit and digits of any script count.

* `readStrict?`: the strict form, with all values in range.
* `readLoose?`: the parts of the loose form, whose values are checked afterwards.
* `readIso`: the strict form or else the loose one.
* `readLooseDate?`: a loose date alone.
-/

namespace Telematics.Calendar

/-- A date-time as it is written: a wall clock, and an offset if one is given. -/
structure Written where
  clock : WallClock
  offset : Option Offset
deriving DecidableEq, Repr

/-- A number of exactly so many ASCII digits at the front of a text, behind those read already. -/
def takeDigits? : Nat → Nat → List Char → Option (Nat × List Char)
  | 0, value, text => some (value, text)
  | count + 1, value, c :: rest =>
    if c.isDigit then takeDigits? count (value * 10 + (c.toNat - 48)) rest else none
  | _ + 1, _, [] => none

/-- The weekday that follows an extended week, if one does. A hyphen with two digits behind it
    separates the time instead. -/
def takeExtendedWeekday? : List Char → Option (Nat × List Char)
  | ['-'] => none
  | '-' :: d :: rest =>
    match rest with
    | next :: _ =>
      if next.isDigit then some (1, '-' :: d :: rest)
      else takeDigits? 1 0 (d :: rest)
    | [] => takeDigits? 1 0 [d]
  | rest => some (1, rest)

/-- The weekday that follows a basic week, if one does: it is there if one digit or an even number
    of digits follows. -/
def takeBasicWeekday? (rest : List Char) : Option (Nat × List Char) :=
  let run := (rest.takeWhile Char.isDigit).length
  if run = 0 then some (1, rest)
  else if run = 1 ∨ run % 2 = 0 then takeDigits? 1 0 rest
  else some (1, rest)

/-- A date at the front of a text, with its values checked. -/
def takeDate? (text : List Char) : Option (Date × List Char) := do
  let (year, rest) ← takeDigits? 4 0 text
  match rest with
  | '-' :: 'W' :: rest => do
    let (week, rest) ← takeDigits? 2 0 rest
    let (weekday, rest) ← takeExtendedWeekday? rest
    let date ← Date.ofWeek? year week weekday
    some (date, rest)
  | 'W' :: rest => do
    let (week, rest) ← takeDigits? 2 0 rest
    let (weekday, rest) ← takeBasicWeekday? rest
    let date ← Date.ofWeek? year week weekday
    some (date, rest)
  | '-' :: rest => do
    let (month, rest) ← takeDigits? 2 0 rest
    match rest with
    | '-' :: rest => do
      let (day, rest) ← takeDigits? 2 0 rest
      let date ← (Date.of year month day).toOption
      some (date, rest)
    | _ => none
  | rest => do
    let (month, rest) ← takeDigits? 2 0 rest
    let (day, rest) ← takeDigits? 2 0 rest
    let date ← (Date.of year month day).toOption
    some (date, rest)

/-- Hours, minutes, seconds and microseconds as written, and whether something is left over. -/
structure ClockParts where
  hour : Nat
  minute : Nat
  second : Nat
  micro : Nat
  leftover : Bool
deriving DecidableEq, Repr

/-- The fraction of a second at the front of a text: its first six digits in microseconds, further
    digits being passed over, and whether something is left over. -/
def takeFraction? (text : List Char) : Option (Nat × Bool) := do
  let count := min 6 text.length
  let (value, rest) ← takeDigits? count 0 text
  let leftover := match rest.dropWhile Char.isDigit with
    | [] => false
    | c :: _ => c ≠ '\x00'
  some (value * Nat.pow 10 (6 - count), leftover)

/-- The parts of a clock from the front of a text. `left` parts of two digits may still come,
    `colons` says whether colons separate them, and `read` has the parts so far in reverse. -/
def takeClockFrom? (first colons : Bool) :
    (left : Nat) → List Nat → List Char → Option (List Nat × Nat × Bool)
  | 0, read, text => (takeFraction? text).map fun (micro, leftover) => (read, micro, leftover)
  | left + 1, read, text =>
    match takeDigits? 2 0 text with
    | none => none
    | some (value, []) => some (value :: read, 0, false)
    | some (value, [c]) =>
      if c.toNat < 128 then some (value :: read, 0, c ≠ '\x00')
      else none
    | some (value, c :: rest) =>
      let colons := if first then c = ':' else colons
      if colons ∧ c = ':' then takeClockFrom? false colons left (value :: read) rest
      else if c = '.' ∨ c = ',' then
        (takeFraction? rest).map fun (micro, leftover) => (value :: read, micro, leftover)
      else if colons then none
      else takeClockFrom? false colons left (value :: read) (c :: rest)

/-- The parts of a clock: hours, then minutes, seconds and a fraction where they are written. -/
def takeClock? (text : List Char) : Option ClockParts :=
  match takeClockFrom? true false 3 [] text with
  | some ([hour], micro, leftover) => some ⟨hour, 0, 0, micro, leftover⟩
  | some ([minute, hour], micro, leftover) => some ⟨hour, minute, 0, micro, leftover⟩
  | some ([second, minute, hour], micro, leftover) =>
    some ⟨hour, minute, second, micro, leftover⟩
  | _ => none

/-- The offset of a sign and a clock. An offset without a whole second is none at all, whatever the
    fraction says. -/
def ClockParts.offset? (negative : Bool) (parts : ClockParts) : Option Offset :=
  let seconds := (parts.hour * 60 + parts.minute) * 60 + parts.second
  if seconds = 0 then some .zero
  else
    let size : Int := seconds * 1000000 + parts.micro
    Offset.of? (if negative then -size else size)

/-- An offset of the strict form: nothing, the letter Z, or a sign and a clock. -/
def readOffset? : List Char → Option (Option Offset)
  | [] => some none
  | 'Z' :: rest =>
    match rest with
    | [] => some (some .zero)
    | c :: _ => if c = '\x00' then some (some .zero) else none
  | sign :: rest => do
    let parts ← takeClock? rest
    if parts.leftover then none else some (some (← parts.offset? (sign = '-')))

/-- A character that begins an offset. -/
def beginsOffset (c : Char) : Bool := c = '+' || c = '-' || c = 'Z'

/-- The strict form. -/
def readStrict? (text : List Char) : Option Written := do
  let (date, rest) ← takeDate? text
  match rest with
  | [] => some ⟨⟨date, .midnight⟩, none⟩
  | _ :: rest => do
    let clock := rest.takeWhile (!beginsOffset ·)
    let tail := rest.dropWhile (!beginsOffset ·)
    let parts ← takeClock? clock
    if parts.leftover ∧ tail.isEmpty then none
    else
      let time ← (TimeOfDay.of parts.hour parts.minute parts.second parts.micro).toOption
      let offset ← readOffset? tail
      some ⟨⟨date, time⟩, offset⟩

/-- A date-time of the loose form: its values as written, and its offset in minutes. -/
structure LooseParts where
  year : Nat
  month : Nat
  day : Nat
  hour : Nat
  minute : Nat
  second : Nat
  micro : Nat
  offset : Option Int
deriving DecidableEq, Repr

/-- Up to so many decimal digits of any script at the front of a text, after those in `read`. -/
def takeDecimals : Nat → List Nat → List Char → List Nat × List Char
  | 0, read, text => (read.reverse, text)
  | _ + 1, read, [] => (read.reverse, [])
  | count + 1, read, c :: rest =>
    match Text.decimal? c with
    | some digit => takeDecimals count (digit :: read) rest
    | none => (read.reverse, c :: rest)

/-- A number of one or two decimal digits at the front of a text. -/
def takeShort? (text : List Char) : Option (Nat × List Char) :=
  match takeDecimals 2 [] text with
  | ([], _) => none
  | (digits, rest) => some (Number.ofDigits digits, rest)

/-- One character out of a class at the front of a text. -/
def takeOne? (accepts : Char → Bool) : List Char → Option (List Char)
  | c :: rest => if accepts c then some rest else none
  | [] => none

/-- Digits of a fraction of a second, in microseconds. -/
def microsOfFraction (digits : List Nat) : Nat :=
  Number.ofDigits (digits.take 6) * Nat.pow 10 (6 - min 6 digits.length)

/-- The seconds of the loose form, with the colon in front and the fraction behind, if they are
    there. -/
def takeLooseSeconds? : List Char → Option (Nat × Nat × List Char)
  | ':' :: rest => do
    let (second, rest) ← takeShort? rest
    match rest with
    | mark :: after =>
      if mark = '.' ∨ mark = ',' then
        match takeDecimals 12 [] after with
        | ([], _) => none
        | (digits, rest) => some (second, microsOfFraction digits, rest)
      else some (second, 0, rest)
    | [] => some (second, 0, [])
  | rest => some (0, 0, rest)

/-- Nothing, or one line feed: the end of a text. -/
def isEnd (text : List Char) : Bool := text.isEmpty || text = ['\n']

/-- The offset at the end of the loose form: blanks, then nothing, the letter Z, or a sign, two
    digits of hours and perhaps two of minutes. -/
def readLooseOffset? (text : List Char) : Option (Option Int) :=
  match text.dropWhile Text.isBlank with
  | [] => some none
  | 'Z' :: rest => if isEnd rest then some (some 0) else none
  | sign :: rest =>
    if sign = '+' ∨ sign = '-' then
      match takeDecimals 2 [] rest with
      | ([h₁, h₂], rest) =>
        let hours := Number.ofDigits [h₁, h₂]
        let value (minutes : Nat) : Int :=
          if sign = '-' then -((60 * hours + minutes : Nat) : Int) else (60 * hours + minutes : Nat)
        if isEnd rest then some (some (value 0))
        else
          let digits := match rest with
            | ':' :: rest => rest
            | rest => rest
          match takeDecimals 2 [] digits with
          | ([m₁, m₂], rest) =>
            if isEnd rest then some (some (value (Number.ofDigits [m₁, m₂]))) else none
          | _ => none
      | _ => none
    else none

/-- The parts of the loose form. -/
def readLoose? (text : List Char) : Option LooseParts := do
  let (yearDigits, rest) := takeDecimals 4 [] text
  if yearDigits.length ≠ 4 then none
  else
    let rest ← takeOne? (· = '-') rest
    let (month, rest) ← takeShort? rest
    let rest ← takeOne? (· = '-') rest
    let (day, rest) ← takeShort? rest
    let rest ← takeOne? (fun c => c = 'T' || c = ' ') rest
    let (hour, rest) ← takeShort? rest
    let rest ← takeOne? (· = ':') rest
    let (minute, rest) ← takeShort? rest
    let (second, micro, rest) ← takeLooseSeconds? rest
    let offset ← readLooseOffset? rest
    some ⟨Number.ofDigits yearDigits, month, day, hour, minute, second, micro, offset⟩

/-- The date of a text that is a loose one: its month and its day may have one digit. -/
def readLooseDate? (text : List Char) : Option (Except Fault Date) := do
  let (yearDigits, rest) := takeDecimals 4 [] text
  if yearDigits.length ≠ 4 then none
  else
    let rest ← takeOne? (· = '-') rest
    let (month, rest) ← takeShort? rest
    let rest ← takeOne? (· = '-') rest
    let (day, rest) ← takeShort? rest
    if isEnd rest then some (Date.of (Number.ofDigits yearDigits) month day) else none

/-- The offset of a number of minutes. -/
def offsetOfMinutes (minutes : Int) : Except Fault Offset :=
  match Offset.of? (minutes * 60000000) with
  | some offset => .ok offset
  | none => .error (.offset minutes)

/-- The date-time of loose parts. The offset is checked first, then the parts in order of size. -/
def LooseParts.check (parts : LooseParts) : Except Fault Written := do
  let offset ← match parts.offset with
    | none => pure none
    | some minutes => some <$> offsetOfMinutes minutes
  let date ← Date.of parts.year parts.month parts.day
  let time ← TimeOfDay.of parts.hour parts.minute parts.second parts.micro
  pure ⟨⟨date, time⟩, offset⟩

/-- The date-time of a text, if it has one of the two forms. A text of the loose form may have
    values out of range. -/
def readIso (text : List Char) : Option (Except Fault Written) :=
  match readStrict? text with
  | some written => some (.ok written)
  | none => (readLoose? text).map LooseParts.check

end Telematics.Calendar
