import Telematics.Calendar.Iso
import Telematics.Proofs.Calendar.Moment
import Telematics.Proofs.Number.Written

/-!
Written dates, times and offsets are read back in the strict form of ISO 8601. Only an offset that
is shorter than a second is taken as none, since it has no whole second.

* `takeDate?_toText`: a date is read back, whatever follows.
* `takeClockFrom?_colon`, `takeClockFrom?_last`: a part of a clock, and the last one with its
  fraction.
* `takeClock?_time`, `takeClock?_offset`: the clocks of a time of day and of an offset.
* `readOffset?_toText`: an offset is taken for `Offset.inSeconds`.
* `readStrict?_written`: a date and a time are read back, with what follows as the offset.
-/

namespace Telematics.Calendar

open Json (AreDigits Stops)
open Number (areDigits_padded digitsValue_padded exists_padded length_padded padded padded_two)

/-! ## Dates -/

/-- As many digits as are asked for are taken, and the rest is left. -/
theorem takeDigits?_append {digits : List Char} (all : AreDigits digits) (value : Nat)
    (rest : List Char) : takeDigits? digits.length value (digits ++ rest) =
      some ((digits.map (·.toNat - 48)).foldl (fun value digit => value * 10 + digit) value,
        rest) := by
  induction digits generalizing value with
  | nil => rfl
  | cons c digits ih =>
    show (if c.isDigit then takeDigits? digits.length _ (digits ++ rest) else none) = _
    rw [if_pos (all c List.mem_cons_self), ih fun d among => all d (List.mem_cons_of_mem c among)]
    rfl

/-- A number in a fixed width is read back. -/
theorem takeDigits?_padded {width n : Nat} (positive : 0 < width) (fits : n < 10 ^ width)
    (rest : List Char) : takeDigits? width 0 (padded width n ++ rest) = some (n, rest) := by
  have taken := takeDigits?_append (areDigits_padded width n) 0 rest
  rw [length_padded positive fits] at taken
  rw [taken]
  exact congrArg (fun value => some (value, rest)) (digitsValue_padded width n)

/-- A date is read back, whatever follows. -/
theorem takeDate?_toText (date : Date) (rest : List Char) :
    takeDate? (date.toText ++ rest) = some (date, rest) := by
  obtain ⟨⟨-, years⟩, ⟨-, months⟩, -, days⟩ := date.valid
  have longest := daysInMonth_le date.year date.month
  have year := takeDigits?_padded (by decide) (by omega : date.year < 10 ^ 4)
  have month := takeDigits?_padded (by decide) (by omega : date.month < 10 ^ 2)
  have day := takeDigits?_padded (by decide) (by omega : date.day < 10 ^ 2)
  -- The month begins with a digit, and so no week is meant.
  obtain ⟨c, behind, begins, digit⟩ := exists_padded (by decide) (by omega : date.month < 10 ^ 2)
  have shown : takeDigits? 4 0 (date.toText ++ rest) =
      some (date.year, '-' :: (padded 2 date.month ++ '-' :: (padded 2 date.day ++ rest))) := by
    rw [← year]
    simp only [Date.toText, List.append_assoc, List.cons_append]
  unfold takeDate?
  rw [shown, Option.bind_eq_bind, Option.bind_some]
  dsimp only
  split
  · rename_i week same
    rw [begins] at same
    obtain ⟨rfl, -⟩ := List.cons.inj (List.cons.inj same).2
    cases digit
  · rename_i same
    cases same
  · rename_i same
    obtain ⟨-, rfl⟩ := List.cons.inj same
    simp only [month, day, Option.bind_eq_bind, Option.bind_some, Date.of_parts]
    rfl
  · rename_i other
    exact absurd rfl (other _)

/-! ## Clocks -/

section Clocks

variable {first colons : Bool} {left n micro : Nat} {read : List Nat}

theorem takeFraction?_padded (fits : micro < 1000000) :
    takeFraction? (padded 6 micro) = some (micro, false) := by
  have length := length_padded (by decide) (by omega : micro < 10 ^ 6)
  have taken := takeDigits?_padded (by decide) (by omega : micro < 10 ^ 6) []
  rw [List.append_nil] at taken
  unfold takeFraction?
  rw [length, Nat.min_self]
  dsimp only
  rw [taken]
  exact congrArg (fun value => some (value, false)) (Nat.mul_one micro)

/-- A part of a clock with a colon behind it, and the next one. -/
theorem takeClockFrom?_colon (fits : n < 100) (spaced : first = true ∨ colons = true)
    {c : Char} (rest : List Char) :
    takeClockFrom? first colons (left + 1) read (padded 2 n ++ ':' :: c :: rest) =
      takeClockFrom? false true left (n :: read) (c :: rest) := by
  rw [takeClockFrom?, takeDigits?_padded (by decide) fits]
  rcases first with _ | _
  · obtain rfl : colons = true := spaced.resolve_left nofun
    rfl
  · rfl

/-- The last part of a clock, with its fraction. -/
theorem takeClockFrom?_last (fits : n < 100) (short : micro < 1000000) :
    takeClockFrom? first colons (left + 1) read (padded 2 n ++ fractionText micro) =
      some (n :: read, micro, false) := by
  rw [takeClockFrom?, takeDigits?_padded (by decide) fits, fractionText]
  by_cases whole : micro = 0
  · rw [if_pos whole, whole]
  · rw [if_neg whole]
    obtain ⟨c, rest, begins, -⟩ := exists_padded (by decide) (by omega : micro < 10 ^ 6)
    have taken := takeFraction?_padded short
    rw [begins] at taken ⊢
    dsimp only
    rw [if_neg fun both => absurd both.2 (by decide), if_pos (.inl rfl), taken]
    rfl

end Clocks

/-- Hours and minutes, and what else there is of a clock. -/
theorem takeClockFrom?_minutes {hour minute : Nat} (hours : hour < 100) (minutes : minute < 100)
    {c : Char} (rest : List Char) :
    takeClockFrom? true false 3 [] (padded 2 hour ++ ':' :: (padded 2 minute ++ ':' :: c :: rest)) =
      takeClockFrom? false true 1 [minute, hour] (c :: rest) := by
  obtain ⟨d, behind, begins, -⟩ := exists_padded (by decide) (by omega : minute < 10 ^ 2)
  have next := @takeClockFrom?_colon false true 1 minute [hour] minutes (.inr rfl) c rest
  rw [begins] at next ⊢
  rw [List.cons_append] at next ⊢
  rw [takeClockFrom?_colon hours (.inl rfl), next]

/-- The clock of hours, minutes and seconds with a fraction. -/
theorem takeClock?_seconds {hour minute second micro : Nat} (hours : hour < 100)
    (minutes : minute < 100) (seconds : second < 100) (short : micro < 1000000) :
    takeClock? (padded 2 hour ++ ':' ::
        (padded 2 minute ++ ':' :: (padded 2 second ++ fractionText micro))) =
      some ⟨hour, minute, second, micro, false⟩ := by
  obtain ⟨c, behind, begins, -⟩ := exists_padded (by decide) (by omega : second < 10 ^ 2)
  have last := @takeClockFrom?_last false true 0 second micro [minute, hour] seconds short
  unfold takeClock?
  rw [begins, List.cons_append] at last ⊢
  rw [takeClockFrom?_minutes hours minutes, last]

/-- The clock of hours and minutes. -/
theorem takeClock?_minutes {hour minute : Nat} (hours : hour < 100) (minutes : minute < 100) :
    takeClock? (padded 2 hour ++ ':' :: padded 2 minute) = some ⟨hour, minute, 0, 0, false⟩ := by
  obtain ⟨c, behind, begins, -⟩ := exists_padded (by decide) (by omega : minute < 10 ^ 2)
  have last := @takeClockFrom?_last false true 1 minute 0 [hour] minutes (by decide)
  rw [fractionText, if_pos rfl, List.append_nil] at last
  unfold takeClock?
  rw [begins] at last ⊢
  rw [takeClockFrom?_colon hours (.inl rfl), last]

/-- The clock of a time of day. -/
theorem takeClock?_time (time : TimeOfDay) : takeClock? time.toText =
    some ⟨time.hour, time.minute, time.second, time.micro, false⟩ := by
  obtain ⟨hours, minutes, seconds, short⟩ := time.valid
  have clock := @takeClock?_seconds time.hour time.minute time.second time.micro (by omega)
    (by omega) (by omega) short
  rw [← clock, TimeOfDay.toText]
  simp only [List.append_assoc, List.cons_append]

/-! ## Offsets -/

/-- What an offset is taken for: one that is shorter than a second is none. -/
def Offset.inSeconds (offset : Offset) : Offset :=
  if offset.micros.natAbs < 1000000 then .zero else offset

/-- The sign of an offset. -/
def Offset.sign (offset : Offset) : Char := if offset.micros < 0 then '-' else '+'

/-- The clock of an offset. -/
def Offset.clockText (offset : Offset) : List Char :=
  let size := offset.micros.natAbs
  let second := size / 1000000 % 60
  let micro := size % 1000000
  padded 2 (size / 3600000000) ++ ':' :: (padded 2 (size / 60000000 % 60) ++
    if second = 0 ∧ micro = 0 then [] else ':' :: (padded 2 second ++ fractionText micro))

theorem Offset.toText_eq (offset : Offset) :
    offset.toText = offset.sign :: offset.clockText := by
  simp only [Offset.toText, Offset.sign, Offset.clockText, List.append_assoc, List.cons_append]

/-- The parts of the clock of an offset. -/
def Offset.parts (offset : Offset) : ClockParts :=
  let size := offset.micros.natAbs
  ⟨size / 3600000000, size / 60000000 % 60, size / 1000000 % 60, size % 1000000, false⟩

theorem takeClock?_offset (offset : Offset) :
    takeClock? offset.clockText = some offset.parts := by
  have valid := offset.valid
  unfold microsPerDay at valid
  unfold Offset.clockText Offset.parts
  dsimp only
  split
  · rename_i none
    rw [none.1, none.2, List.append_nil]
    exact takeClock?_minutes (by omega) (by omega)
  · exact takeClock?_seconds (by omega) (by omega) (by omega) (by omega)

/-- The clock of an offset has as many microseconds as the offset, if it has a whole second. -/
theorem offset?_parts (offset : Offset) :
    offset.parts.offset? (decide (offset.micros < 0)) = some offset.inSeconds := by
  unfold ClockParts.offset? Offset.inSeconds Offset.parts
  dsimp only
  generalize counted : offset.micros.natAbs = size
  have seconds : (size / 3600000000 * 60 + size / 60000000 % 60) * 60 + size / 1000000 % 60 =
      size / 1000000 := by omega
  rw [seconds]
  by_cases short : size < 1000000
  · rw [if_pos (Nat.div_eq_of_lt short), if_pos short]
  · have whole : (if decide (offset.micros < 0) = true then
        -((size / 1000000 : Nat) * 1000000 + (size % 1000000 : Nat))
        else (size / 1000000 : Nat) * 1000000 + (size % 1000000 : Nat) : Int) = offset.micros := by
      split
      · rename_i negative
        have below := of_decide_eq_true negative
        omega
      · rename_i positive
        have above := mt decide_eq_true positive
        omega
    rw [if_neg (by omega), if_neg short, whole, Offset.of?, dif_pos offset.valid]

/-- An offset is read back, unless it is shorter than a second. -/
theorem readOffset?_toText (offset : Offset) :
    readOffset? offset.toText = some (some offset.inSeconds) := by
  have found := offset?_parts offset
  have clock : ∀ sign : Char, sign ≠ 'Z' → decide (sign = '-') = decide (offset.micros < 0) →
      readOffset? (sign :: offset.clockText) = some (some offset.inSeconds) := by
    intro sign other agrees
    unfold readOffset?
    split
    · rename_i same
      cases same
    · rename_i same
      exact absurd (List.cons.inj same).1 other
    · rename_i same
      obtain ⟨rfl, rfl⟩ := List.cons.inj same
      rw [takeClock?_offset, agrees, Option.bind_eq_bind, Option.bind_some, found]
      rfl
  rw [offset.toText_eq, Offset.sign]
  by_cases negative : offset.micros < 0
  · rw [if_pos negative]
    exact clock '-' (by decide) (decide_eq_true negative).symm
  · rw [if_neg negative]
    exact clock '+' (by decide) (decide_eq_false negative).symm

/-! ## Date-times -/

theorem beginsOffset_of_isDigit {c : Char} (digit : c.isDigit = true) : beginsOffset c = false := by
  unfold beginsOffset
  rw [decide_eq_false (by rintro rfl; cases digit), decide_eq_false (by rintro rfl; cases digit),
    decide_eq_false (by rintro rfl; cases digit)]
  rfl

/-- No character of a time of day begins an offset. -/
theorem beginsOffset_of_mem_time {time : TimeOfDay} {c : Char} (among : c ∈ time.toText) :
    beginsOffset c = false := by
  have part : ∀ {width n : Nat}, c ∈ padded width n → beginsOffset c = false :=
    fun {width n} inside => beginsOffset_of_isDigit (areDigits_padded width n c inside)
  have fraction : c ∈ fractionText time.micro → beginsOffset c = false := by
    unfold fractionText
    split
    · exact fun inside => absurd inside List.not_mem_nil
    · intro inside
      rcases List.mem_cons.mp inside with rfl | inside
      · rfl
      · exact part inside
  simp only [TimeOfDay.toText, List.mem_append, List.mem_cons] at among
  rcases among with ((inside | rfl | inside) | rfl | inside) | inside
  · exact part inside
  · rfl
  · exact part inside
  · rfl
  · exact part inside
  · exact fraction inside

theorem stops_offset (offset : Offset) : Stops (!beginsOffset ·) offset.toText := by
  rw [offset.toText_eq, Offset.sign]
  split <;> exact Json.stops_cons (by decide)

/-- A date and a time with a letter between them are read back, with the offset behind them or
    without one. -/
theorem readStrict?_written (date : Date) (time : TimeOfDay) {tail : List Char}
    (stops : Stops (!beginsOffset ·) tail) :
    readStrict? (date.toText ++ 'T' :: (time.toText ++ tail)) =
      (readOffset? tail).map (⟨⟨date, time⟩, ·⟩) := by
  have inside : ∀ c ∈ time.toText, (!beginsOffset c) = true := fun c among => by
    rw [beginsOffset_of_mem_time among]
    rfl
  unfold readStrict?
  rw [takeDate?_toText, Option.bind_eq_bind, Option.bind_some]
  dsimp only
  rw [Json.takeWhile_append_stops inside stops, Json.dropWhile_append_stops inside stops,
    takeClock?_time, Option.bind_eq_bind, Option.bind_some,
    if_neg fun both => absurd both.1 Bool.false_ne_true, TimeOfDay.of_parts]
  cases readOffset? tail <;> rfl

end Telematics.Calendar
