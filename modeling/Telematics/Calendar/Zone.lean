import Telematics.Calendar.Moment

/-!
Time zones.

A zone is what it makes of clocks: the offset of every clock that is read in it, and the offset it
has while UTC clocks show a given time. The program can be set to any.

Some zones have a standard offset and a summer offset between two instants of every year. A clock
that is shown twice in autumn is taken as the first, the summer one. A clock that is skipped in
spring takes the offset from before the change. Both are one rule: a clock is on summer time
exactly if it would be within the summer when read with the summer offset.

* `Zone.place`: the moment of a wall clock in a zone.
* `Zone.at?`: the moment of an instant in a zone.
* `Seasons.zone`: the zone that keeps the same seasons in all years.
-/

namespace Telematics.Calendar

/-- How clocks are set somewhere: the offset of every wall clock. -/
abbrev ClockRule := WallClock → Offset

/-- The moment of a wall clock where clocks are set by a rule. -/
def ClockRule.place (rule : ClockRule) (clock : WallClock) : Moment := ⟨clock, rule clock⟩

/-- A time zone. -/
structure Zone where
  /-- How clocks are set in the zone. -/
  rule : ClockRule
  /-- The offset of the zone by the clock on UTC. -/
  offsetAt : WallClock → Offset

/-- The moment of a wall clock in a zone. -/
def Zone.place (zone : Zone) (clock : WallClock) : Moment := zone.rule.place clock

/-- The same instant on the clock of a zone, if the calendar has it there. -/
def Zone.at? (zone : Zone) (moment : Moment) : Option Moment :=
  moment.utc?.bind fun utc => Moment.ofInstant? utc.instant (zone.offsetAt utc.clock)

/-- What time it is, and the zone of times that come without an offset. -/
structure Clock where
  now : Moment
  zone : Zone

theorem Zone.place_clock (zone : Zone) (clock : WallClock) : (zone.place clock).clock = clock :=
  rfl

/-- The microseconds of a number of minutes. -/
def microsOfMinutes (count : Int) : Int := count * 60000000

/-- The day number of the last Sunday of a month of 31 days. -/
def lastSunday (year month : Nat) : Nat :=
  let last := daysBeforeYear year + daysBeforeMonth year month + 30
  last - (last + 1) % 7

/-- The day number of the Sunday that is the `count`-th of a month. -/
def nthSunday (count year month : Nat) : Nat :=
  let first := daysBeforeYear year + daysBeforeMonth year month
  first + (6 - first % 7) + (count - 1) * 7

/-- Standard time, and summer time from an instant of every year to another one. -/
structure Seasons where
  standard : Offset
  summer : Offset
  bounds : Nat → Int × Int

namespace Seasons

/-- The offset at an instant of a year. -/
def offset (seasons : Seasons) (year : Nat) (instant : Int) : Offset :=
  let (start, stop) := seasons.bounds year
  if start ≤ instant ∧ instant < stop then seasons.summer else seasons.standard

/-- The zone that keeps its seasons in all years. -/
def zone (seasons : Seasons) : Zone where
  rule clock := seasons.offset clock.date.year (clock.micros - seasons.summer.micros)
  offsetAt utc := seasons.offset utc.date.year utc.micros

end Seasons

namespace Zone

/-- The zone with one offset. -/
def fixed (offset : Offset) : Zone := ⟨fun _ => offset, fun _ => offset⟩

def utc : Zone := fixed .zero

/-- Berlin, by the seasons it has kept since 1996. -/
def berlin : Zone :=
  Seasons.zone ⟨⟨microsOfMinutes 60, by decide⟩, ⟨microsOfMinutes 120, by decide⟩,
    fun year => ((lastSunday year 3 : Int) * microsPerDay + microsOfMinutes 60,
      (lastSunday year 10 : Int) * microsPerDay + microsOfMinutes 60)⟩

/-- New York, by the seasons it has kept since 2007. -/
def newYork : Zone :=
  Seasons.zone ⟨⟨microsOfMinutes (-300), by decide⟩, ⟨microsOfMinutes (-240), by decide⟩,
    fun year => ((nthSunday 2 year 3 : Int) * microsPerDay + microsOfMinutes 420,
      (nthSunday 1 year 11 : Int) * microsPerDay + microsOfMinutes 360)⟩

/-- Kolkata, by the offset it has kept since 1945. -/
def kolkata : Zone := fixed ⟨microsOfMinutes 330, by decide⟩

/-- Some zones by their names. Of each the rule that it keeps now stands for all years. -/
def named? : String → Option Zone
  | "UTC" => some utc
  | "Europe/Berlin" => some berlin
  | "America/New_York" => some newYork
  | "Asia/Kolkata" => some kolkata
  | _ => none

end Zone

end Telematics.Calendar
