import Telematics.Proofs.Calendar.Pattern
import Telematics.Timestamp

/-!
Timestamps that are integers. They count seconds, or milliseconds from a bound on, and are exactly
as far from the beginning of 1970, if the calendar goes so far. All others are refused, those with
more digits than an integer may have included.

* `readBy_eq_readIsoBy`: a text with a letter T is not taken as an integer.
* `InCalendar`: the instants that the calendar has in whole milliseconds. `exists_ofMillis_iff`:
  these are the moments of milliseconds.
* `readBy_signed_iff`: an integer is read as the moment that it counts, or is refused.
-/

namespace Telematics

/-! ## The calendar in milliseconds -/

namespace Calendar

/-- The beginning of 1970 in UTC. -/
def unixEpoch : Moment := ⟨⟨⟨1970, 1, 1, by decide⟩, .midnight⟩, .zero⟩

/-- The first moment of the calendar in UTC. -/
def firstMoment : Moment := ⟨⟨⟨1, 1, 1, by decide⟩, .midnight⟩, .zero⟩

/-- The last millisecond of the calendar in UTC. -/
def lastMoment : Moment := ⟨⟨⟨9999, 12, 31, by decide⟩, ⟨23, 59, 59, 999000, by decide⟩⟩, .zero⟩

theorem instant_unixEpoch : unixEpoch.instant = epoch := by decide +kernel

theorem instant_firstMoment : firstMoment.instant = 0 := by decide +kernel

theorem instant_lastMoment : lastMoment.instant = calendarDays * microsPerDay - 1000 := by
  decide +kernel

/-- An instant lies between the first moment and the last millisecond of the calendar. -/
def InCalendar (instant : Int) : Prop :=
  firstMoment.instant ≤ instant ∧ instant ≤ lastMoment.instant

theorem inCalendar_iff {instant : Int} :
    InCalendar instant ↔ 0 ≤ instant ∧ instant ≤ calendarDays * microsPerDay - 1000 := by
  rw [InCalendar, instant_firstMoment, instant_lastMoment]

end Calendar

namespace Timestamp

open Calendar (ClockRule InCalendar Moment unixEpoch)
open Number (decimalDigits digitLimit readInteger_signed signed signedValue)

variable {rule : ClockRule}

/-! ## Milliseconds -/

/-- The moments of milliseconds are those that the calendar has. -/
theorem exists_ofMillis_iff {millis : Int} :
    (∃ moment, ofMillis millis = .ok moment ∧
        moment.instant = unixEpoch.instant + millis * 1000 ∧ moment.offset = .zero) ↔
      InCalendar (unixEpoch.instant + millis * 1000) := by
  have days : InCalendar (unixEpoch.instant + millis * 1000) ↔
      0 ≤ Calendar.epoch + millis * 1000 ∧
        Calendar.epoch + millis * 1000 < Calendar.calendarDays * Calendar.microsPerDay := by
    rw [Calendar.inCalendar_iff, Calendar.instant_unixEpoch]
    unfold Calendar.epoch Calendar.calendarDays Calendar.microsPerDay
    omega
  rw [days, ← Calendar.ofInstant?_zero_iff, Calendar.instant_unixEpoch]
  unfold ofMillis Moment.ofMillis?
  constructor
  · rintro ⟨moment, read, -⟩
    split at read
    · rename_i found
      exact ⟨_, found⟩
    · cases read
  · rintro ⟨moment, found⟩
    rw [found]
    exact ⟨moment, rfl, Calendar.instant_of_ofInstant? found⟩

/-- Milliseconds are refused only as out of range. -/
theorem ofMillis_cases (millis : Int) :
    (∃ moment, ofMillis millis = .ok moment ∧
        moment.instant = unixEpoch.instant + millis * 1000 ∧ moment.offset = .zero) ∨
      ofMillis millis = .error (.outOfRange millis) := by
  unfold ofMillis
  split
  · rename_i moment found
    rw [Calendar.instant_unixEpoch]
    exact .inl ⟨moment, rfl, Calendar.instant_of_ofInstant? found⟩
  · exact .inr rfl

/-! ## Texts -/

theorem isForeign_letter : Number.IsForeign 'T' :=
  ⟨by decide, by decide, by decide, by decide, by decide +kernel⟩

/-- A timestamp with a letter T is read as ISO 8601. -/
theorem readBy_eq_readIsoBy {text : String} (letter : 'T' ∈ text.toList) (rule : ClockRule) :
    readBy rule text = readIsoBy rule text := by
  obtain ⟨fault, refused⟩ := Number.readInteger_of_foreign isForeign_letter letter
  rw [readBy, refused]
  exact if_pos (List.contains_iff_mem.mpr letter)

/-- A timestamp without a letter T that is no integer is read by the pattern. -/
theorem readBy_eq_readPattern {text : String} {fault : Number.Fault}
    (refused : Number.readInteger text = .error fault) (noLetter : 'T' ∉ text.toList)
    (rule : ClockRule) : readBy rule text = readPattern rule text := by
  rw [readBy, refused]
  exact if_neg (mt List.contains_iff_mem.mp noLetter)

theorem letter_notMem_signed (sign : Option Bool) (size : Nat) :
    'T' ∉ (signed sign size).toList := by
  rw [signed, String.toList_ofList, List.mem_append, not_or]
  refine ⟨by rcases sign with _ | _ | _ <;> decide, fun among => ?_⟩
  exact absurd (Json.areDigits_decimalDigits size _ among) (by decide)

/-- An integer with too many digits is no text of the pattern either. -/
theorem readBy_signed_of_long {sign : Option Bool} {size : Nat}
    (long : digitLimit < (decimalDigits size).length) :
    readBy rule (signed sign size) = .error (.notPattern (signed sign size)) := by
  have refused := readInteger_signed sign size
  rw [if_pos long] at refused
  rw [readBy_eq_readPattern refused (letter_notMem_signed sign size), readPattern, signed,
    String.toList_ofList, Calendar.readPattern?_of_signed]

/-- The milliseconds that an integer counts. -/
def countedMillis (count : Int) : Int := if count < millisFrom then count * 1000 else count

/-- An integer within the limit of digits counts milliseconds. -/
theorem readBy_signed_of_short {sign : Option Bool} {size : Nat}
    (short : (decimalDigits size).length ≤ digitLimit) :
    readBy rule (signed sign size) = ofMillis (countedMillis (signedValue sign size)) := by
  have found := readInteger_signed sign size
  rw [if_neg (Nat.not_lt.mpr short)] at found
  rw [readBy, found]
  rfl

/-! ## Integers -/

/-- The microseconds that an integer counts: seconds below a bound, and milliseconds from there
    on. -/
def countedMicros (count : Int) : Int :=
  if count < 2147483647 then count * 1000000 else count * 1000

theorem countedMicros_eq (count : Int) : countedMicros count = countedMillis count * 1000 := by
  unfold countedMicros countedMillis millisFrom
  split <;> omega

/-- An integer with too many digits is beyond the calendar. -/
theorem not_inCalendar_of_long {sign : Option Bool} {size : Nat}
    (long : digitLimit < (decimalDigits size).length) :
    ¬ InCalendar (unixEpoch.instant + countedMicros (signedValue sign size)) := by
  have large : 10 ^ 20 ≤ size := by
    by_contra small
    have few := (Nat.length_toDigits_le_iff (by decide) (by decide)).mpr (Nat.not_le.mp small)
    exact absurd (Nat.le_trans few (by decide)) (Nat.not_le.mpr long)
  rw [Calendar.inCalendar_iff, Calendar.instant_unixEpoch]
  unfold countedMicros signedValue Calendar.epoch Calendar.calendarDays Calendar.microsPerDay
  split <;> split <;> omega

/-- Why an integer beyond the calendar is no timestamp. One with more digits than are read has not
    the fixed pattern, and any other is out of range. -/
def refusal (sign : Option Bool) (size : Nat) : Fault :=
  if digitLimit < (decimalDigits size).length then .notPattern (signed sign size)
  else .outOfRange (countedMillis (signedValue sign size))

/-- An integer of any size, with a sign or without, is read as the moment in UTC that is exactly so
    many seconds after the beginning of 1970, or so many milliseconds from 2147483647 on, if this is
    between the first moment and the last millisecond of the calendar, and only then. Otherwise it
    is refused. -/
theorem readBy_signed_iff (rule : ClockRule) (sign : Option Bool) (size : Nat) :
    let instant := unixEpoch.instant + countedMicros (signedValue sign size)
    ((∃ moment, readBy rule (signed sign size) = .ok moment ∧
        moment.instant = instant ∧ moment.offset = .zero) ↔ InCalendar instant) ∧
      (readBy rule (signed sign size) = .error (refusal sign size) ↔ ¬ InCalendar instant) := by
  intro instant
  by_cases long : digitLimit < (decimalDigits size).length
  · have beyond : ¬ InCalendar instant := not_inCalendar_of_long long
    have refused : readBy rule (signed sign size) = .error (refusal sign size) := by
      rw [readBy_signed_of_long long, refusal, if_pos long]
    refine ⟨iff_of_false ?_ beyond, iff_of_true refused beyond⟩
    rintro ⟨moment, read, -⟩
    rw [refused] at read
    cases read
  · have counted : instant = unixEpoch.instant + countedMillis (signedValue sign size) * 1000 := by
      rw [← countedMicros_eq]
    rw [readBy_signed_of_short (Nat.not_lt.mp long), refusal, if_neg long, counted]
    generalize countedMillis (signedValue sign size) = millis
    refine ⟨exists_ofMillis_iff, ?_⟩
    rw [← exists_ofMillis_iff]
    rcases ofMillis_cases millis with found | refused
    · refine iff_of_false ?_ (not_not.mpr found)
      obtain ⟨moment, read, -⟩ := found
      rw [read]
      exact nofun
    · refine iff_of_true refused ?_
      rintro ⟨moment, read, -⟩
      rw [refused] at read
      cases read

end Timestamp

end Telematics
