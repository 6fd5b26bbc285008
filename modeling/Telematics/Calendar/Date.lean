/-!
The civil calendar of the years 1 to 9999, in which every fourth year is a leap year except the
centuries that 400 does not divide. Dates, times of day and offsets carry their validity, so a
value of these types is always a real one.

* `Date.of`: the date of a year, month and day, the first part out of range being the fault.
* `Date.dayNumber`: days since the first day of year 1, which was a Monday.
* `Date.ofDayNumber?`: the date of a day number.
-/

namespace Telematics.Calendar

/-- What is wrong with the parts of a date-time. -/
inductive Fault where
  | year (year : Nat)
  | month
  | day
  | hour
  | minute
  | second
  /-- An offset of a day or more, in minutes. -/
  | offset (minutes : Int)
deriving DecidableEq, Repr

/-- A signed number of days and a number of seconds below a day, as a duration is shown. A part
    that is zero is left out. -/
def durationText (seconds : Int) : String :=
  let days := seconds / 86400
  let rest := seconds % 86400
  let dayPart := if days = 0 then [] else ["days=" ++ toString days]
  let restPart := if rest = 0 then [] else ["seconds=" ++ toString rest]
  ", ".intercalate (dayPart ++ restPart)

/-- The wording of a fault. -/
def Fault.message : Fault → String
  | .year number => "year " ++ toString number ++ " is out of range"
  | .month => "month must be in 1..12"
  | .day => "day is out of range for month"
  | .hour => "hour must be in 0..23"
  | .minute => "minute must be in 0..59"
  | .second => "second must be in 0..59"
  | .offset count =>
    "offset must be a timedelta strictly between -timedelta(hours=24) and timedelta(hours=24), " ++
      "not datetime.timedelta(" ++ durationText (count * 60) ++ ")."

/-- Every fourth year has a day more, except the centuries that 400 does not divide. -/
def isLeap (year : Nat) : Bool := year % 4 = 0 && (year % 100 ≠ 0 || year % 400 = 0)

/-- The number of days of a month. -/
def daysInMonth (year month : Nat) : Nat :=
  if month = 2 then (if isLeap year then 29 else 28)
  else if month = 4 ∨ month = 6 ∨ month = 9 ∨ month = 11 then 30
  else 31

/-- The year, month and day are those of a date. -/
def ValidDate (year month day : Nat) : Prop :=
  (1 ≤ year ∧ year ≤ 9999) ∧ (1 ≤ month ∧ month ≤ 12) ∧ (1 ≤ day ∧ day ≤ daysInMonth year month)

instance (year month day : Nat) : Decidable (ValidDate year month day) := by
  unfold ValidDate; infer_instance

/-- A date of the years 1 to 9999. -/
structure Date where
  year : Nat
  month : Nat
  day : Nat
  valid : ValidDate year month day
deriving DecidableEq, Repr

/-- The hour, minute, second and microsecond are those of a time of day. -/
def ValidTime (hour minute second micro : Nat) : Prop :=
  hour < 24 ∧ minute < 60 ∧ second < 60 ∧ micro < 1000000

instance (hour minute second micro : Nat) : Decidable (ValidTime hour minute second micro) := by
  unfold ValidTime; infer_instance

/-- A time of day, to the microsecond. -/
structure TimeOfDay where
  hour : Nat
  minute : Nat
  second : Nat
  micro : Nat
  valid : ValidTime hour minute second micro
deriving DecidableEq, Repr

/-- The microseconds of a day. -/
def microsPerDay : Nat := 86400000000

/-- An offset from UTC: less than a day in either direction, in microseconds. -/
structure Offset where
  micros : Int
  valid : -(microsPerDay : Int) < micros ∧ micros < microsPerDay
deriving DecidableEq, Repr

/-- The offset of UTC itself. -/
def Offset.zero : Offset := ⟨0, by decide⟩

/-- The offset of a number of microseconds, if it is less than a day. -/
def Offset.of? (micros : Int) : Option Offset :=
  if valid : -(microsPerDay : Int) < micros ∧ micros < microsPerDay then some ⟨micros, valid⟩
  else none

/-- The date of a year, month and day. -/
def Date.of (year month day : Nat) : Except Fault Date :=
  if years : 1 ≤ year ∧ year ≤ 9999 then
    if months : 1 ≤ month ∧ month ≤ 12 then
      if days : 1 ≤ day ∧ day ≤ daysInMonth year month then
        .ok ⟨year, month, day, years, months, days⟩
      else .error .day
    else .error .month
  else .error (.year year)

/-- The time of an hour, minute, second and microsecond below a million. -/
def TimeOfDay.of (hour minute second micro : Nat) : Except Fault TimeOfDay :=
  if hours : hour < 24 then
    if minutes : minute < 60 then
      if seconds : second < 60 then
        .ok ⟨hour, minute, second, micro % 1000000, hours, minutes, seconds,
          Nat.mod_lt _ (by decide)⟩
      else .error .second
    else .error .minute
  else .error .hour

/-- The first moment of a day. -/
def TimeOfDay.midnight : TimeOfDay := ⟨0, 0, 0, 0, by decide⟩

/-- The days of the years before a year, counted from year 1. -/
def daysBeforeYear (year : Nat) : Nat :=
  let years := year - 1
  years * 365 + years / 4 - years / 100 + years / 400

/-- The days of the months before a month of a year. -/
def daysBeforeMonth (year month : Nat) : Nat :=
  ((List.range (month - 1)).map fun earlier => daysInMonth year (earlier + 1)).foldr (· + ·) 0

/-- The days since the first day of year 1. -/
def Date.dayNumber (date : Date) : Nat :=
  daysBeforeYear date.year + daysBeforeMonth date.year date.month + (date.day - 1)

/-- The day of the week, Monday being 0. -/
def Date.weekday (date : Date) : Nat := date.dayNumber % 7

/-- The month and the day of a number of days into a year; the months still to come are given. -/
def monthAndDay (year : Nat) (days : Nat) : List Nat → Nat × Nat
  | [] => (12, days + 1)
  | month :: later =>
    if days < daysInMonth year month then (month, days + 1)
    else monthAndDay year (days - daysInMonth year month) later

/-- The year of a day number, and the days into that year. Cycles of 400, 100, 4 and 1 years are
    taken off in turn; the last century and the last year of a cycle are a day longer. -/
def yearAndDays (dayNumber : Nat) : Nat × Nat :=
  let cycles := dayNumber / 146097
  let inCycle := dayNumber % 146097
  let centuries := min (inCycle / 36524) 3
  let inCentury := inCycle - centuries * 36524
  let olympiads := inCentury / 1461
  let inOlympiad := inCentury % 1461
  let years := min (inOlympiad / 365) 3
  (cycles * 400 + centuries * 100 + olympiads * 4 + years + 1, inOlympiad - years * 365)

/-- The date of a day number, if it is in the calendar. -/
def Date.ofDayNumber? (dayNumber : Nat) : Option Date :=
  let (year, days) := yearAndDays dayNumber
  let (month, day) := monthAndDay year days [1, 2, 3, 4, 5, 6, 7, 8, 9, 10, 11, 12]
  (Date.of year month day).toOption

/-- The last week of a year is the 53rd if the year begins on a Thursday, or is a leap year that
    begins on a Wednesday. -/
def hasLongYear (year firstWeekday : Nat) : Bool :=
  firstWeekday = 3 || (firstWeekday = 2 && isLeap year)

/-- The date of a weekday, 1 to 7, in a week of a year. The first week of a year is the one with
    its first Thursday. -/
def Date.ofWeek? (year week weekday : Nat) : Option Date :=
  if 1 ≤ year ∧ year ≤ 9999 then
    let first := daysBeforeYear year
    let firstWeekday := first % 7
    let monday := if firstWeekday > 3 then first + 7 - firstWeekday else first - firstWeekday
    if 1 ≤ week ∧ (week ≤ 52 ∨ (week = 53 ∧ hasLongYear year firstWeekday)) ∧
        1 ≤ weekday ∧ weekday ≤ 7 then
      Date.ofDayNumber? (monday + (week - 1) * 7 + (weekday - 1))
    else none
  else none

end Telematics.Calendar
