import Mathlib.Data.List.Range
import Telematics.Calendar.Moment

/-!
Days and instants are those of their dates and moments. Counting days from a date and finding the
date of a number of days are inverse, and so a moment that is put on the UTC clock is the same
instant as before. Days have dates from the first day of year 1 to the last day of year 9999, and
instants have wall clocks on these days.

* `dayNumber_of_ofDayNumber?`: the date of a day number has that day number.
* `instant_of_ofInstant?`: the moment of an instant is that instant.
* `Moment.IsOnUtc`: a moment is the same instant on the UTC clock. `isOnUtc_of_utc?`: so is what the
  UTC calendar has.
* `Moment.utc?_idem`: what is on the UTC clock stays as it is.
* `exists_ofDayNumber?_iff`: which day numbers have a date.
* `exists_ofMicros?_iff`, `ofInstant?_zero_iff`: which instants have a wall clock.
-/

namespace Telematics.Calendar

/-- The number of days of a year. -/
def daysInYear (year : Nat) : Nat := if isLeap year then 366 else 365

/-- A day number in cycles of 400, 100, 4 and 1 years, and the days that are left. Only the last of
    four years has a day more, unless it ends a century that does not end a cycle. -/
structure Split (dayNumber : Nat) where
  cycles : Nat
  centuries : Nat
  olympiads : Nat
  years : Nat
  days : Nat
  fewCenturies : centuries ≤ 3
  fewOlympiads : olympiads ≤ 24
  fewYears : years ≤ 3
  fewDays : days ≤ 365
  longest : days = 365 → years = 3 ∧ (olympiads = 24 → centuries = 3)
  total : dayNumber = cycles * 146097 + centuries * 36524 + olympiads * 1461 + years * 365 + days

namespace Split

variable {dayNumber : Nat}

/-- The year of a day number, counted from 1. -/
def year (split : Split dayNumber) : Nat :=
  split.cycles * 400 + split.centuries * 100 + split.olympiads * 4 + split.years + 1

/-- Cycles of years are taken off a day number. -/
theorem exists_yearAndDays (dayNumber : Nat) :
    ∃ split : Split dayNumber, yearAndDays dayNumber = (split.year, split.days) := by
  refine ⟨⟨_, _, _, _, _, ?_, ?_, ?_, ?_, ?_, ?_⟩, rfl⟩ <;> omega

/-- The year begins as many days before a day as it is into the year. -/
theorem daysBeforeYear_year (split : Split dayNumber) :
    daysBeforeYear split.year + split.days = dayNumber := by
  obtain ⟨cycles, centuries, olympiads, years, days, few, some, rest, -, -, total⟩ := split
  have fours : (cycles * 400 + centuries * 100 + olympiads * 4 + years) / 4 =
      cycles * 100 + centuries * 25 + olympiads := by omega
  have hundreds : (cycles * 400 + centuries * 100 + olympiads * 4 + years) / 100 =
      cycles * 4 + centuries := by omega
  have all : (cycles * 400 + centuries * 100 + olympiads * 4 + years) / 400 = cycles := by omega
  simp only [daysBeforeYear, year, Nat.add_sub_cancel, fours, hundreds, all]
  omega

/-- The days into a year are fewer than those of the year. -/
theorem days_lt_daysInYear (split : Split dayNumber) : split.days < daysInYear split.year := by
  obtain ⟨cycles, centuries, olympiads, years, days, few, some, rest, within, longest, -⟩ := split
  dsimp only [year, daysInYear]
  split
  · omega
  · rename_i common
    by_contra full
    obtain ⟨last, final⟩ := longest (by omega)
    simp only [isLeap, Bool.and_eq_true, Bool.or_eq_true, decide_eq_true_eq] at common
    omega

end Split

theorem daysBeforeMonth_succ (year : Nat) {month : Nat} (first : 1 ≤ month) :
    daysBeforeMonth year (month + 1) = daysBeforeMonth year month + daysInMonth year month := by
  obtain ⟨earlier, rfl⟩ : ∃ earlier, month = earlier + 1 := ⟨month - 1, by omega⟩
  have append : ∀ days more : List Nat, (days ++ more).foldr (· + ·) 0 =
      days.foldr (· + ·) 0 + more.foldr (· + ·) 0 := by
    intro days more
    induction days with
    | nil => simp
    | cons day rest ih => simp [ih, Nat.add_assoc]
  simp [daysBeforeMonth, List.range_succ, append]

theorem daysBeforeMonth_thirteen (year : Nat) : daysBeforeMonth year 13 = daysInYear year := by
  unfold daysInYear daysBeforeMonth
  cases leap : isLeap year <;> simp [List.range_succ, daysInMonth, leap]

/-- The month of a number of days into the rest of a year begins as many days before as the day of
    the month tells. -/
theorem daysBeforeMonth_monthAndDay (year count : Nat) {first days : Nat} (one : 1 ≤ first)
    (within : daysBeforeMonth year first + days < daysBeforeMonth year (first + count)) :
    daysBeforeMonth year (monthAndDay year days (List.range' first count)).1 +
        ((monthAndDay year days (List.range' first count)).2 - 1) =
      daysBeforeMonth year first + days := by
  induction count generalizing first days with
  | zero =>
    rw [Nat.add_zero] at within
    omega
  | succ count ih =>
    rw [List.range'_succ, monthAndDay]
    split
    · simp
    · rename_i later
      have next := daysBeforeMonth_succ year one
      have begun : daysBeforeMonth year (first + 1) + (days - daysInMonth year first) =
          daysBeforeMonth year first + days := by omega
      rw [ih (by omega) (by rw [begun, Nat.add_right_comm]; exact within), begun]

/-- The days that are left of a day number are within the twelve months of its year. -/
theorem Split.days_before {dayNumber : Nat} (split : Split dayNumber) :
    daysBeforeMonth split.year 1 + split.days < daysBeforeMonth split.year (1 + 12) := by
  have begun : daysBeforeMonth split.year 1 = 0 := rfl
  rw [daysBeforeMonth_thirteen, begun, Nat.zero_add]
  exact split.days_lt_daysInYear

/-- The date of a day number is that of its year, and of the month of the days that are left. -/
theorem Date.ofDayNumber?_eq {dayNumber year days : Nat}
    (shown : yearAndDays dayNumber = (year, days)) :
    Date.ofDayNumber? dayNumber =
      let place := monthAndDay year days (List.range' 1 12)
      (Date.of year place.1 place.2).toOption := by
  rw [Date.ofDayNumber?, shown]
  rfl

/-- The date of a day number has that day number. -/
theorem dayNumber_of_ofDayNumber? {dayNumber : Nat} {date : Date}
    (found : Date.ofDayNumber? dayNumber = some date) : date.dayNumber = dayNumber := by
  obtain ⟨split, shown⟩ := Split.exists_yearAndDays dayNumber
  have years := split.daysBeforeYear_year
  have months := daysBeforeMonth_monthAndDay split.year 12 (Nat.le_refl 1) split.days_before
  rw [Date.ofDayNumber?_eq shown] at found
  dsimp only at found
  generalize split.year = year at found years months
  generalize split.days = days at found years months
  generalize monthAndDay year days (List.range' 1 12) = place at found months
  obtain ⟨month, day⟩ := place
  -- The date has the parts that were found, if they are those of a date.
  have parts : date.year = year ∧ date.month = month ∧ date.day = day := by
    unfold Date.of at found
    split at found
    · split at found
      · split at found
        · cases found
          exact ⟨rfl, rfl, rfl⟩
        · cases found
      · cases found
    · cases found
  have begun : daysBeforeMonth year 1 = 0 := rfl
  dsimp only at months
  rw [Date.dayNumber, parts.1, parts.2.1, parts.2.2]
  omega

/-- The wall clock of a number of microseconds shows that number. -/
theorem micros_of_ofMicros? {micros : Int} {clock : WallClock}
    (found : WallClock.ofMicros? micros = some clock) : clock.micros = micros := by
  unfold WallClock.ofMicros? at found
  split at found
  · cases found
  rename_i later
  obtain ⟨date, dated, rfl⟩ := Option.map_eq_some_iff.mp found
  have day := dayNumber_of_ofDayNumber? dated
  simp only [WallClock.micros, day, TimeOfDay.micros, TimeOfDay.ofMicros, microsPerDay]
  omega

/-! ## The UTC clock -/

/-- The moment of an instant on the clock of an offset is that instant on that clock. -/
theorem instant_of_ofInstant? {instant : Int} {offset : Offset} {moment : Moment}
    (found : Moment.ofInstant? instant offset = some moment) :
    moment.instant = instant ∧ moment.offset = offset := by
  obtain ⟨clock, shown, rfl⟩ := Option.map_eq_some_iff.mp found
  refine ⟨?_, rfl⟩
  rw [Moment.instant, micros_of_ofMicros? shown]
  exact Int.add_sub_cancel _ _

/-- A moment is the same instant as another one, on the UTC clock. -/
structure Moment.IsOnUtc (kept moment : Moment) : Prop where
  instant : kept.instant = moment.instant
  offset : kept.offset = .zero

variable {moment kept : Moment}

/-- What the UTC calendar has of a moment is the same instant on the UTC clock. -/
theorem isOnUtc_of_utc? (found : moment.utc? = some kept) : kept.IsOnUtc moment :=
  ⟨(instant_of_ofInstant? found).1, (instant_of_ofInstant? found).2⟩

/-- What is on the UTC clock stays as it is. -/
theorem Moment.utc?_idem (found : moment.utc? = some kept) : kept.utc? = some kept := by
  have same := (isOnUtc_of_utc? found).instant
  rw [Moment.utc?] at found ⊢
  rw [same, found]

/-! ## Days of the calendar -/

/-- The number of days in the calendar. -/
def calendarDays : Nat := 3652059

/-- Days are in the years up to 9999 as long as the calendar has days. -/
theorem Split.year_le_iff {dayNumber : Nat} (split : Split dayNumber) :
    split.year ≤ 9999 ↔ dayNumber < calendarDays := by
  obtain ⟨cycles, centuries, olympiads, years, days, few, some_, rest, within, longest, total⟩ :=
    split
  dsimp only [year, calendarDays]
  -- The last year is the last of its olympiad, its century and its cycle.
  rcases Nat.lt_or_ge cycles 24 with early | late
  · omega
  rcases Nat.lt_or_ge 24 cycles with beyond | last
  · omega
  obtain rfl : cycles = 24 := Nat.le_antisymm last late
  rcases Nat.lt_or_ge centuries 3 with early | late
  · omega
  rcases Nat.lt_or_ge olympiads 24 with early | late
  · omega
  · omega

/-- The day of a month is one that the month has, and the month is one of some. -/
structure IsMonth (year : Nat) (first count : Nat) (place : Nat × Nat) : Prop where
  least : first ≤ place.1
  most : place.1 < first + count
  one : 1 ≤ place.2
  has : place.2 ≤ daysInMonth year place.1

/-- The month of a number of days into the rest of a year is one of those to come. -/
theorem isMonth_monthAndDay (year count : Nat) {first days : Nat} (one : 1 ≤ first)
    (within : daysBeforeMonth year first + days < daysBeforeMonth year (first + count)) :
    IsMonth year first count (monthAndDay year days (List.range' first count)) := by
  induction count generalizing first days with
  | zero =>
    rw [Nat.add_zero] at within
    omega
  | succ count ih =>
    rw [List.range'_succ, monthAndDay]
    split
    · rename_i inside
      exact ⟨Nat.le_refl _, by dsimp only; omega, Nat.succ_pos _, inside⟩
    · rename_i later
      have next := daysBeforeMonth_succ year one
      have begun : daysBeforeMonth year (first + 1) + (days - daysInMonth year first) =
          daysBeforeMonth year first + days := by omega
      obtain ⟨least, most, positive, has⟩ :=
        @ih (first + 1) (days - daysInMonth year first) (by omega)
          (by rw [begun, Nat.add_right_comm]; exact within)
      exact ⟨by omega, by omega, positive, has⟩

/-- The parts of a date are those of that date. -/
theorem Date.of_parts (date : Date) : Date.of date.year date.month date.day = .ok date := by
  obtain ⟨year, month, day, years, months, days⟩ := date
  rw [Date.of, dif_pos years, dif_pos months, dif_pos days]

/-- A time of day is that of its parts. -/
theorem TimeOfDay.of_parts (time : TimeOfDay) :
    TimeOfDay.of time.hour time.minute time.second time.micro = .ok time := by
  obtain ⟨hour, minute, second, micro, hours, minutes, seconds, short⟩ := time
  unfold TimeOfDay.of
  rw [dif_pos hours, dif_pos minutes, dif_pos seconds]
  congr
  exact Nat.mod_eq_of_lt short

/-- No month is longer than 31 days. -/
theorem daysInMonth_le (year month : Nat) : daysInMonth year month ≤ 31 := by
  unfold daysInMonth
  split
  · split <;> omega
  · split <;> omega

/-- Day numbers have dates as long as the calendar has days. -/
theorem exists_ofDayNumber?_iff {dayNumber : Nat} :
    (∃ date, Date.ofDayNumber? dayNumber = some date) ↔ dayNumber < calendarDays := by
  obtain ⟨split, shown⟩ := Split.exists_yearAndDays dayNumber
  have first : 1 ≤ split.year := Nat.succ_pos _
  have month := isMonth_monthAndDay split.year 12 (Nat.le_refl 1) split.days_before
  rw [← split.year_le_iff, Date.ofDayNumber?_eq shown]
  dsimp only
  generalize split.year = year at first month ⊢
  generalize monthAndDay year split.days (List.range' 1 12) = place at month ⊢
  obtain ⟨least, most, one, has⟩ := month
  constructor
  · rintro ⟨date, found⟩
    by_contra beyond
    rw [Date.of, dif_neg (by omega)] at found
    cases found
  · intro within
    exact ⟨_, congrArg Except.toOption
      (Date.of_parts ⟨year, place.1, place.2, ⟨first, within⟩, ⟨least, by omega⟩, one, has⟩)⟩

/-! ## Instants of the calendar -/

/-- The microseconds of a number of days have a wall clock as long as the calendar has days. -/
theorem exists_ofMicros?_iff {micros : Int} :
    (∃ clock, WallClock.ofMicros? micros = some clock) ↔
      0 ≤ micros ∧ micros < calendarDays * microsPerDay := by
  unfold WallClock.ofMicros?
  split
  · rename_i negative
    exact iff_of_false nofun fun within => absurd within.1 (Int.not_le.mpr negative)
  · rename_i later
    have dated := @exists_ofDayNumber?_iff (micros.toNat / microsPerDay)
    have days : micros.toNat / microsPerDay < calendarDays ↔
        micros < calendarDays * microsPerDay := by
      unfold microsPerDay calendarDays
      omega
    rw [← days, ← dated]
    constructor
    · rintro ⟨_, found⟩
      obtain ⟨date, dated, -⟩ := Option.map_eq_some_iff.mp found
      exact ⟨Int.not_lt.mp later, date, dated⟩
    · rintro ⟨-, date, dated⟩
      exact ⟨_, Option.map_eq_some_iff.mpr ⟨date, dated, rfl⟩⟩

/-- The UTC calendar has an instant as long as it has days. -/
theorem ofInstant?_zero_iff {instant : Int} :
    (∃ moment, Moment.ofInstant? instant .zero = some moment) ↔
      0 ≤ instant ∧ instant < calendarDays * microsPerDay := by
  have same : instant + Offset.zero.micros = instant := Int.add_zero _
  rw [← exists_ofMicros?_iff, Moment.ofInstant?, same]
  constructor
  · rintro ⟨_, found⟩
    obtain ⟨clock, shown, -⟩ := Option.map_eq_some_iff.mp found
    exact ⟨clock, shown⟩
  · rintro ⟨clock, shown⟩
    exact ⟨_, Option.map_eq_some_iff.mpr ⟨clock, shown, rfl⟩⟩

end Telematics.Calendar
