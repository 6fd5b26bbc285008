import Telematics.Number.Integer

/-!
Numerals in the digits of any script. A text of decimal digits is read as their value, unless they
are too many. A text of digits in the wide sense, such as superscripts, is no numeral if one of them
is no decimal digit.

* `isDigit_of_isDecimal`: decimal digits are digits in the wide sense.
* `readInteger_of_decimals`: what a text of decimal digits is read as.
* `readInteger_of_digits`: a text of digits is not read if one of them is not decimal.
* `readInteger_of_foreign`: nor is a text with a character that has no place in an integer.
-/

namespace Telematics

namespace Text

/-- Decimal digits are digits in the wide sense. -/
theorem isDigit_of_isDecimal {c : Char} (decimal : isDecimal c = true) : isDigit c = true := by
  have wide : ∀ first ∈ zeroDigits, ∃ range ∈ digitRanges,
      range.1 ≤ first ∧ first + 9 ≤ range.2 := by decide +kernel
  obtain ⟨value, read⟩ := Option.isSome_iff_exists.mp decimal
  refine CodeRanges.has_iff.mpr ?_
  unfold decimal? at read
  split at read
  · rename_i ascii
    exact ⟨(0x30, 0x39), by decide, ascii⟩
  · split at read
    · cases read
    · obtain ⟨first, found, -⟩ := Option.map_eq_some_iff.mp read
      obtain ⟨range, listed, low, high⟩ := wide first (List.mem_of_find?_eq_some found)
      have near := List.find?_some found
      simp only [Bool.and_eq_true, decide_eq_true_eq] at near
      exact ⟨range, listed, by omega, by omega⟩

theorem trimPadding_of_forall {text : List Char} (ink : ∀ c ∈ text, isPadding c = false) :
    trimPadding text = text := by
  have kept : ∀ text : List Char, (∀ c ∈ text, isPadding c = false) →
      text.dropWhile isPadding = text := by
    intro text ink
    cases text with
    | nil => rfl
    | cons c rest =>
      exact List.dropWhile_cons_of_neg (by simp [ink c List.mem_cons_self])
  rw [trimPadding, trimBy, kept text ink, trimEnd,
    kept text.reverse fun c among => ink c (List.mem_reverse.mp among), List.reverse_reverse]

/-- A digit is no padding. -/
theorem isPadding_of_isDigit {c : Char} (digit : isDigit c = true) : isPadding c = false := by
  have apart : ∀ blank ∈ blankRanges, ∀ range ∈ digitRanges,
      blank.2 < range.1 ∨ range.2 < blank.1 := by decide +kernel
  rw [Bool.eq_false_iff]
  intro padding
  obtain ⟨blank, inBlanks, low, high⟩ := CodeRanges.has_iff.mp (isBlank_of_isPadding padding)
  obtain ⟨range, inDigits, least, most⟩ := CodeRanges.has_iff.mp digit
  have := apart blank inBlanks range inDigits
  omega

end Text

namespace Number

open Text (decimal? isDecimal isDigit)

variable {text : List Char}

/-- The values of the decimal digits of a text. -/
def values (text : List Char) : List Nat := text.filterMap decimal?

theorem length_values (all : ∀ c ∈ text, isDecimal c = true) :
    (values text).length = text.length :=
  List.filterMap_length_eq_length.mpr all

/-- A text of digits is not trimmed, and has no sign. -/
theorem takeSign_of_digits (all : ∀ c ∈ text, isDigit c = true) :
    takeSign (Text.trimPadding text) = (false, text) := by
  rw [Text.trimPadding_of_forall fun c among => Text.isPadding_of_isDigit (all c among)]
  unfold takeSign
  split
  · exact absurd (all '-' List.mem_cons_self) (by decide)
  · exact absurd (all '+' List.mem_cons_self) (by decide)
  · rfl

/-- Decimal digits are a run of them. -/
theorem runFrom_decimals (all : ∀ c ∈ text, isDecimal c = true) (read : List Nat) :
    runFrom read true text = ⟨read.reverse ++ values text, true, []⟩ := by
  induction text generalizing read with
  | nil => simp [runFrom, values]
  | cons c rest ih =>
    obtain ⟨digit, value⟩ := Option.isSome_iff_exists.mp (all c List.mem_cons_self)
    rw [runFrom, value]
    dsimp only
    rw [ih fun d among => all d (List.mem_cons_of_mem c among), List.reverse_cons,
      List.append_assoc]
    simp [values, value]

theorem run_decimals (filled : text ≠ []) (all : ∀ c ∈ text, isDecimal c = true) :
    run text = ⟨values text, true, []⟩ := by
  obtain ⟨c, rest, rfl⟩ := List.exists_cons_of_ne_nil filled
  obtain ⟨digit, value⟩ := Option.isSome_iff_exists.mp (all c List.mem_cons_self)
  rw [run, runFrom, value]
  dsimp only
  rw [runFrom_decimals fun d among => all d (List.mem_cons_of_mem c among)]
  simp [values, value]

/-- A run goes to the end of a text of decimal digits and underscores alone. -/
theorem isDecimal_of_rest {read : List Nat} {afterDigit : Bool}
    (ended : (runFrom read afterDigit text).rest = []) :
    ∀ c ∈ text, isDecimal c = true ∨ c = '_' := by
  induction text generalizing read afterDigit with
  | nil => exact fun c among => absurd among List.not_mem_nil
  | cons c rest ih =>
    unfold runFrom at ended
    split at ended
    · rename_i digit value
      refine List.forall_mem_cons.mpr ⟨.inl ?_, ih ended⟩
      rw [isDecimal, value]
      rfl
    · split at ended
      · rename_i underscore
        split at ended
        · exact List.forall_mem_cons.mpr ⟨.inr underscore, ih ended⟩
        · cases ended
      · cases ended

/-- Decimal digits are read as their value, unless they are too many. -/
theorem readInteger_of_decimals {text : String} (filled : text ≠ "")
    (all : ∀ c ∈ text.toList, isDecimal c = true) :
    readInteger text =
      if digitLimit < text.toList.length then .error (.tooManyDigits text.toList.length)
      else .ok (ofDigits (values text.toList) : Nat) := by
  have some_ : text.toList ≠ [] := fun none => filled (String.toList_inj.mp none)
  unfold readInteger
  rw [takeSign_of_digits fun c among => Text.isDigit_of_isDecimal (all c among)]
  dsimp only
  rw [run_decimals some_ all]
  dsimp only
  rw [length_values all]
  rfl

/-- A text whose run of digits ends before the text does is not read. -/
theorem readInteger_of_rest {text : String}
    (unread : (run (takeSign (Text.trimPadding text.toList)).2).rest ≠ []) :
    ∃ fault, readInteger text = .error fault := by
  unfold readInteger
  dsimp only
  split
  · exact ⟨_, rfl⟩
  split
  · exact ⟨_, rfl⟩
  · exact ⟨_, rfl⟩

/-- A text of digits is not read if one of them is not decimal. -/
theorem readInteger_of_digits {text : String} (all : ∀ c ∈ text.toList, isDigit c = true)
    {c : Char} (among : c ∈ text.toList) (other : isDecimal c = false) :
    ∃ fault, readInteger text = .error fault := by
  have rest : (run text.toList).rest ≠ [] := by
    intro ended
    rcases isDecimal_of_rest ended c among with decimal | rfl
    · rw [decimal] at other
      cases other
    · exact absurd (all '_' among) (by decide)
  refine readInteger_of_rest ?_
  rw [takeSign_of_digits all]
  exact rest

/-- A character has no place in an integer: it is no digit, no mark of a numeral and no padding. -/
structure IsForeign (c : Char) : Prop where
  decimal : isDecimal c = false
  underscore : c ≠ '_'
  minus : c ≠ '-'
  plus : c ≠ '+'
  padding : Text.isPadding c = false

/-- A text with such a character is no integer. -/
theorem readInteger_of_foreign {text : String} {c : Char} (foreign : IsForeign c)
    (among : c ∈ text.toList) : ∃ fault, readInteger text = .error fault := by
  have kept : ∀ {text : List Char}, c ∈ text → c ∈ text.dropWhile Text.isPadding := by
    intro text among
    rw [← List.takeWhile_append_dropWhile (p := Text.isPadding) (l := text)] at among
    refine (List.mem_append.mp among).resolve_left fun padded => ?_
    have padding := List.all_eq_true.mp List.all_takeWhile _ padded
    rw [foreign.padding] at padding
    cases padding
  have trimmed : c ∈ Text.trimPadding text.toList :=
    List.mem_reverse.mpr (kept (List.mem_reverse.mpr (kept among)))
  have unsigned : c ∈ (takeSign (Text.trimPadding text.toList)).2 := by
    unfold takeSign
    split
    · rename_i same
      rw [same] at trimmed
      exact (List.mem_cons.mp trimmed).resolve_left foreign.minus
    · rename_i same
      rw [same] at trimmed
      exact (List.mem_cons.mp trimmed).resolve_left foreign.plus
    · exact trimmed
  refine readInteger_of_rest fun ended => ?_
  rcases isDecimal_of_rest ended c unsigned with decimal | same
  · rw [foreign.decimal] at decimal
    cases decimal
  · exact foreign.underscore same

end Number

end Telematics
