import Telematics.Calendar.Pattern
import Telematics.Proofs.Calendar.Moment
import Telematics.Proofs.Number.Written

/-!
The fixed pattern. A wall clock without a fraction is written so and read back, and a signed integer
is no date-time of the pattern.

* `twoDigits_padded`: two digits are read as their number, if they are of the classes.
* `reads_of_fits`: a part with two digits is read by one of the readers of two digits.
* `readPattern?_toPattern`, `check_parts`: a wall clock is read back.
* `readPattern?_begins`: a text of the pattern begins with four digits and a hyphen.
* `readPattern?_of_signed`: a signed integer does not.
-/

namespace Telematics.Calendar

open Number (padded padded_four padded_two)

/-! ## Parts -/

/-- Two digits are read as their number, if they are of the classes. -/
theorem twoDigits_padded {first second : Char → Bool} {n : Nat} (fits : n < 100)
    (rest : List Char) : twoDigits first second (padded 2 n ++ rest) =
      if first (n / 10).digitChar && second (n % 10).digitChar then some (n, rest) else none := by
  have worth : ∀ digit < 10, Text.decimal? digit.digitChar = some digit := by decide
  rw [padded_two fits]
  unfold twoDigits
  simp only [List.cons_append, List.nil_append]
  rw [worth _ (by omega), worth _ (by omega)]
  dsimp only
  rw [Nat.div_add_mod' n 10]

/-- A number in two digits is read, whatever is read behind it. -/
def Reads (readers : List PartReader) (n : Nat) : Prop :=
  ∀ (α : Type) (rest : List Char) (next : Nat → List Char → Option α) (result : α),
    next n rest = some result → tryEach readers (padded 2 n ++ rest) next = some result

/-- Two digits are of the classes of one of the readers. -/
def Fits (classes : List ((Char → Bool) × (Char → Bool))) (n : Nat) : Prop :=
  ∃ pair ∈ classes, (pair.1 (n / 10).digitChar && pair.2 (n % 10).digitChar) = true

instance (classes : List ((Char → Bool) × (Char → Bool))) (n : Nat) :
    Decidable (Fits classes n) := by
  unfold Fits; infer_instance

/-- The readers of two digits come first, and so a number in two digits is read by one of them. -/
theorem reads_of_fits {classes : List ((Char → Bool) × (Char → Bool))} {n : Nat} (fits : n < 100)
    (among : Fits classes n) (later : List PartReader) :
    Reads (classes.map (fun pair => twoDigits pair.1 pair.2) ++ later) n := by
  intro α rest next result goesOn
  unfold tryEach
  induction classes with
  | nil =>
    obtain ⟨_, inside, -⟩ := among
    cases inside
  | cons pair classes ih =>
    rw [List.map_cons, List.cons_append, List.findSome?_cons, twoDigits_padded fits]
    by_cases fitting : (pair.1 (n / 10).digitChar && pair.2 (n % 10).digitChar) = true
    · rw [if_pos fitting, Option.bind_some]
      dsimp only
      rw [goesOn]
    · rw [if_neg fitting, Option.bind_none]
      obtain ⟨other, inside, shown⟩ := among
      rcases List.mem_cons.mp inside with rfl | inside
      · exact absurd shown fitting
      · exact ih ⟨other, inside, shown⟩

variable {n : Nat}

theorem reads_month (months : 1 ≤ n ∧ n ≤ 12) : Reads monthReaders n := by
  have among : ∀ n < 13, 1 ≤ n → Fits [((· = '1'), between '0' '2'),
      ((· = '0'), between '1' '9')] n := by decide
  exact reads_of_fits (by omega) (among n (by omega) months.1) [_]

theorem reads_day (days : 1 ≤ n ∧ n ≤ 31) : Reads dayReaders n := by
  have among : ∀ n < 32, 1 ≤ n → Fits [((· = '3'), between '0' '1'),
      (between '1' '2', Text.isDecimal), ((· = '0'), between '1' '9')] n := by decide
  exact reads_of_fits (by omega) (among n (by omega) days.1) [_, _]

theorem reads_hour (hours : n < 24) : Reads hourReaders n := by
  have among : ∀ n < 24, Fits [((· = '2'), between '0' '3'),
      (between '0' '1', Text.isDecimal)] n := by decide
  exact reads_of_fits (by omega) (among n hours) [_]

theorem reads_minute (minutes : n < 60) : Reads minuteReaders n := by
  have among : ∀ n < 60, Fits [(between '0' '5', Text.isDecimal)] n := by decide
  exact reads_of_fits (by omega) (among n minutes) [_]

theorem reads_second (seconds : n < 60) : Reads secondReaders n := by
  have among : ∀ n < 60, Fits [((· = '6'), between '0' '1'),
      (between '0' '5', Text.isDecimal)] n := by decide
  exact reads_of_fits (by omega) (among n seconds) [_]

/-- A year is read back. -/
theorem readYear?_padded (fits : n < 10000) (rest : List Char) :
    readYear? (padded 4 n ++ rest) = some (n, rest) := by
  have digits : ∀ digit < 10, Text.isDecimal digit.digitChar = true := by decide
  rw [padded_four, List.append_assoc]
  unfold readYear?
  rw [twoDigits_padded (by omega), digits _ (by omega), digits _ (by omega)]
  simp only [Bool.and_self, if_true, Option.bind_eq_bind, Option.bind_some]
  rw [twoDigits_padded (by omega), digits _ (by omega), digits _ (by omega)]
  simp only [Bool.and_self, if_true, Option.bind_some]
  rw [Nat.div_add_mod' n 100]

theorem skip?_cons (separator : Char) (rest : List Char) :
    skip? separator (separator :: rest) = some rest := if_pos rfl

/-- One blank is skipped in front of digits. -/
theorem skipBlanks?_padded (fits : n < 100) (rest : List Char) :
    skipBlanks? (' ' :: (padded 2 n ++ rest)) = some (padded 2 n ++ rest) := by
  have visible : ∀ digit < 10, Text.isBlank digit.digitChar = false := by decide
  rw [padded_two fits, skipBlanks?, if_pos (by decide)]
  simp only [List.cons_append]
  rw [List.dropWhile_cons_of_neg]
  rw [visible _ (by omega)]
  exact Bool.false_ne_true

/-! ## Wall clocks -/

/-- A wall clock that is written in the pattern is read back part by part. -/
theorem readPattern?_toPattern (clock : WallClock) : readPattern? clock.toPattern.toList =
    some (⟨clock.date.year, clock.date.month, clock.date.day, clock.time.hour, clock.time.minute,
      clock.time.second⟩, []) := by
  obtain ⟨⟨-, years⟩, months, first, last⟩ := clock.date.valid
  obtain ⟨hours, minutes, seconds, -⟩ := clock.time.valid
  have longest := daysInMonth_le clock.date.year clock.date.month
  have text : clock.toPattern.toList = padded 4 clock.date.year ++ ('-' ::
      (padded 2 clock.date.month ++ ('-' :: (padded 2 clock.date.day ++ (' ' ::
        (padded 2 clock.time.hour ++ (':' :: (padded 2 clock.time.minute ++ (':' ::
          (padded 2 clock.time.second ++ [])))))))))) := by
    simp only [WallClock.toPattern, Date.toText, String.toList_ofList, List.append_assoc,
      List.cons_append, List.append_nil]
  unfold readPattern?
  rw [text, readYear?_padded (by omega)]
  simp only [Option.bind_some, skip?_cons]
  refine reads_month months _ _ _ _ ?_
  rw [skip?_cons, Option.bind_some]
  refine reads_day ⟨first, by omega⟩ _ _ _ _ ?_
  rw [skipBlanks?_padded (by omega), Option.bind_some]
  refine reads_hour hours _ _ _ _ ?_
  rw [skip?_cons, Option.bind_some]
  refine reads_minute minutes _ _ _ _ ?_
  rw [skip?_cons, Option.bind_some]
  exact reads_second seconds _ _ _ _ rfl

/-- The parts of a wall clock without a fraction are those of that clock. -/
theorem check_parts {clock : WallClock} (whole : clock.time.micro = 0) :
    PatternParts.check ⟨clock.date.year, clock.date.month, clock.date.day, clock.time.hour,
      clock.time.minute, clock.time.second⟩ = .ok clock := by
  have time := TimeOfDay.of_parts clock.time
  rw [whole] at time
  unfold PatternParts.check
  dsimp only
  rw [Date.of_parts, time]
  rfl

/-! ## Signed integers -/

theorem twoDigits_eq_some {first second : Char → Bool} {text rest : List Char} {value : Nat}
    (read : twoDigits first second text = some (value, rest)) :
    ∃ a b, text = a :: b :: rest ∧ first a = true ∧ second b = true := by
  unfold twoDigits at read
  split at read
  · rename_i a b behind
    split at read
    · rename_i classes
      obtain ⟨one, two⟩ := Bool.and_eq_true_iff.mp classes
      split at read
      · cases read
        exact ⟨a, b, rfl, one, two⟩
      · cases read
    · cases read
  · cases read

/-- A text of the pattern begins with four digits and a hyphen. -/
theorem readPattern?_begins {text rest : List Char} {parts : PatternParts}
    (read : readPattern? text = some (parts, rest)) :
    ∃ a b c d behind, text = a :: b :: c :: d :: '-' :: behind ∧ Text.isDecimal a = true := by
  obtain ⟨⟨year, dated⟩, begun, read⟩ := Option.bind_eq_some_iff.mp read
  obtain ⟨months, skipped, -⟩ := Option.bind_eq_some_iff.mp read
  obtain ⟨behind, rfl⟩ : ∃ behind, dated = '-' :: behind := by
    rcases dated with _ | ⟨mark, behind⟩
    · cases skipped
    · have hyphen : mark = '-' := by
        by_contra other
        rw [skip?, if_neg other] at skipped
        cases skipped
      exact ⟨behind, by rw [hyphen]⟩
  obtain ⟨⟨century, middle⟩, front, begun⟩ := Option.bind_eq_some_iff.mp begun
  obtain ⟨⟨last, back⟩, next, begun⟩ := Option.bind_eq_some_iff.mp begun
  cases begun
  obtain ⟨a, b, rfl, digit, -⟩ := twoDigits_eq_some front
  obtain ⟨c, d, rfl, -, -⟩ := twoDigits_eq_some next
  exact ⟨a, b, c, d, behind, rfl, digit⟩

/-- A signed integer is no date-time of the pattern. -/
theorem readPattern?_of_signed (sign : Option Bool) (size : Nat) :
    readPattern? (Json.signChars sign ++ Number.decimalDigits size) = none := by
  refine Option.eq_none_iff_forall_ne_some.mpr fun ⟨parts, rest⟩ read => ?_
  obtain ⟨a, b, c, d, behind, same, digit⟩ := readPattern?_begins read
  rcases sign with _ | _ | _
  · have among : '-' ∈ Number.decimalDigits size := by
      rw [show Number.decimalDigits size = _ from same]
      simp
    exact absurd (Json.areDigits_decimalDigits size _ among) (by decide)
  · obtain ⟨rfl, -⟩ := List.cons.inj same
    exact absurd digit (by decide)
  · obtain ⟨rfl, -⟩ := List.cons.inj same
    exact absurd digit (by decide)

end Telematics.Calendar
