import Telematics.Calendar.Date
import Telematics.Number.Integer

/-!
Moments: a wall clock together with its offset from UTC. Two moments may be the same instant on
different clocks; the clock and the offset a moment was made with are kept.

* `Moment.instant`: microseconds since the beginning of year 1 in UTC.
* `Moment.utc?`: the same instant on the UTC clock, if the calendar has it there.
* `Moment.toText`: date, letter T, time, and the offset.
-/

namespace Telematics.Calendar

/-- What a clock on the wall shows. -/
structure WallClock where
  date : Date
  time : TimeOfDay
deriving DecidableEq, Repr

/-- A wall clock and its offset from UTC. -/
structure Moment where
  clock : WallClock
  offset : Offset
deriving DecidableEq, Repr

/-- The microseconds since midnight. -/
def TimeOfDay.micros (time : TimeOfDay) : Nat :=
  ((time.hour * 60 + time.minute) * 60 + time.second) * 1000000 + time.micro

/-- The time a number of microseconds after midnight, whole days being dropped. -/
def TimeOfDay.ofMicros (micros : Nat) : TimeOfDay :=
  ⟨micros / 3600000000 % 24, micros / 60000000 % 60, micros / 1000000 % 60, micros % 1000000,
    by unfold ValidTime; omega⟩

/-- The microseconds that the clock shows since the beginning of year 1. -/
def WallClock.micros (clock : WallClock) : Int :=
  clock.date.dayNumber * microsPerDay + clock.time.micros

/-- The wall clock of a number of microseconds, if it is in the calendar. -/
def WallClock.ofMicros? (micros : Int) : Option WallClock :=
  if micros < 0 then none
  else
    (Date.ofDayNumber? (micros.toNat / microsPerDay)).map fun date =>
      ⟨date, TimeOfDay.ofMicros (micros.toNat % microsPerDay)⟩

/-- The microseconds since the beginning of year 1 in UTC. -/
def Moment.instant (moment : Moment) : Int := moment.clock.micros - moment.offset.micros

/-- The moment of an instant on the clock of an offset, if the calendar has it there. -/
def Moment.ofInstant? (instant : Int) (offset : Offset) : Option Moment :=
  (WallClock.ofMicros? (instant + offset.micros)).map (⟨·, offset⟩)

/-- The same instant on the UTC clock. -/
def Moment.utc? (moment : Moment) : Option Moment := Moment.ofInstant? moment.instant .zero

/-- The beginning of 1970 in UTC, in microseconds since the beginning of year 1. -/
def epoch : Int := 719162 * microsPerDay

/-- The UTC moment a number of milliseconds after the beginning of 1970. -/
def Moment.ofMillis? (millis : Int) : Option Moment :=
  Moment.ofInstant? (epoch + millis * 1000) .zero

/-- A fraction of a second in six digits, absent if it is zero. -/
def fractionText (micro : Nat) : List Char :=
  if micro = 0 then [] else '.' :: Number.padded 6 micro

/-- The written form of a date. -/
def Date.toText (date : Date) : List Char :=
  Number.padded 4 date.year ++ '-' :: Number.padded 2 date.month ++ '-' ::
    Number.padded 2 date.day

/-- The written form of a time of day. -/
def TimeOfDay.toText (time : TimeOfDay) : List Char :=
  Number.padded 2 time.hour ++ ':' :: Number.padded 2 time.minute ++ ':' ::
    Number.padded 2 time.second ++ fractionText time.micro

/-- The written form of an offset: sign, hours and minutes, and seconds where there are any. -/
def Offset.toText (offset : Offset) : List Char :=
  let size := offset.micros.natAbs
  let second := size / 1000000 % 60
  let micro := size % 1000000
  let seconds := if second = 0 ∧ micro = 0 then []
    else ':' :: Number.padded 2 second ++ fractionText micro
  (if offset.micros < 0 then '-' else '+') :: Number.padded 2 (size / 3600000000) ++
    ':' :: Number.padded 2 (size / 60000000 % 60) ++ seconds

/-- The written form of a moment. -/
def Moment.toText (moment : Moment) : String :=
  String.ofList (moment.clock.date.toText ++ 'T' :: moment.clock.time.toText ++
    moment.offset.toText)

end Telematics.Calendar
