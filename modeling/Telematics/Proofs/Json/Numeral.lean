import Mathlib.Data.List.TakeDrop
import Mathlib.Tactic.Ring
import Telematics.Json.Parser
import Telematics.Proofs.Binary64.Range
import Telematics.Proofs.Number.Scripts

/-!
Numerals of documents. A numeral is read as a number wherever it stands: as a value of a document,
up to the first character that does not belong to it, and as a text of its own. Both ways lead to
the same number, but that an integer in a document is kept exact, and has only one zero.

* `Numeral`: what a numeral is made of. `Numeral.value`: the number nearest to it.
* `takeNumber_chars`: a numeral in a document is taken as a whole.
* `read?_text`: a numeral alone is read as its value.
* `readInteger_text`: an integral numeral within the limit of digits is an integer.
* `ofInt_integer`: the integer of a numeral is equal to its value.
-/

namespace Telematics.Json

/-! ## Numerals -/

/-- The text has digits only. -/
def AreDigits (text : List Char) : Prop := ∀ c ∈ text, c.isDigit = true

instance (text : List Char) : Decidable (AreDigits text) :=
  List.decidableBAll (fun c : Char => c.isDigit = true) text

/-- The text does not begin with a character of a class. -/
def Stops (mark : Char → Bool) (text : List Char) : Prop :=
  ∀ c rest, text = c :: rest → mark c = false

/-- A sign that may be missing; true is a minus. -/
def signChars : Option Bool → List Char
  | none => []
  | some false => ['+']
  | some true => ['-']

/-- The exponent of a numeral. -/
structure Exponent where
  upper : Bool
  sign : Option Bool
  digits : List Char
  areDigits : AreDigits digits
  filled : digits ≠ []

/-- An exponent as it is written. -/
def Exponent.chars (exponent : Exponent) : List Char :=
  (if exponent.upper then 'E' else 'e') :: (signChars exponent.sign ++ exponent.digits)

/-- The power of ten of an exponent. -/
def Exponent.value (exponent : Exponent) : Int :=
  let size : Int := Binary64.digitsValue exponent.digits
  if exponent.sign = some true then -size else size

/-- A numeral: a sign, a whole part without needless zeros, a fraction and an exponent. A fraction
    without digits is missing. -/
structure Numeral where
  negative : Bool
  whole : List Char
  fraction : List Char
  exponent : Option Exponent
  wholeDigits : AreDigits whole
  fractionDigits : AreDigits fraction
  filled : whole ≠ []
  leading : whole.head? = some '0' → whole = ['0']

namespace Numeral

variable (n : Numeral)

/-- The fraction with its point, if it is there. -/
def fractionChars : List Char := if n.fraction = [] then [] else '.' :: n.fraction

/-- The exponent with its letter, if it is there. -/
def exponentChars : List Char := (n.exponent.map Exponent.chars).getD []

/-- The numeral without its sign. -/
def unsigned : List Char := n.whole ++ (n.fractionChars ++ n.exponentChars)

/-- The numeral as it is written. -/
def chars : List Char := if n.negative then '-' :: n.unsigned else n.unsigned

/-- The numeral as a text. -/
def text : String := String.ofList n.chars

/-- There is neither a fraction nor an exponent. -/
def isIntegral : Bool := n.fraction.isEmpty && n.exponent.isNone

/-- The number nearest to the numeral. -/
def value : Binary64 :=
  .ofDecimal n.negative (Binary64.digitsValue (n.whole ++ n.fraction))
    ((n.exponent.map Exponent.value).getD 0 - n.fraction.length)

/-- The integer of an integral numeral. -/
def integer : Int :=
  let size : Int := Binary64.digitsValue n.whole
  if n.negative then -size else size

/-- What the numeral stands for in a document. -/
def json : Json := if n.isIntegral then .int n.integer else .float n.value

end Numeral

/-! ## Runs of digits -/

section Digits

variable {front rest : List Char}

theorem stops_nil (mark : Char → Bool) : Stops mark [] := by
  rintro _ _ ⟨⟩

theorem stops_cons {mark : Char → Bool} {c : Char} (other : mark c = false) :
    Stops mark (c :: rest) := by
  rintro _ _ ⟨⟩
  exact other

/-- What stops at a wider class stops at a narrower one. -/
theorem Stops.mono {wide narrow : Char → Bool} (stops : Stops wide rest)
    (within : ∀ c, narrow c = true → wide c = true) : Stops narrow rest := by
  intro c tail same
  have other := stops c tail same
  cases marked : narrow c with
  | false => rfl
  | true => rw [within c marked] at other; cases other

theorem takeWhile_append_stops {mark : Char → Bool} (all : ∀ c ∈ front, mark c = true)
    (stops : Stops mark rest) : (front ++ rest).takeWhile mark = front := by
  rw [List.takeWhile_append_of_pos all]
  cases rest with
  | nil => exact List.append_nil _
  | cons c rest =>
    rw [List.takeWhile_cons_of_neg (by rw [stops c rest rfl]; exact Bool.false_ne_true),
      List.append_nil]

theorem dropWhile_append_stops {mark : Char → Bool} (all : ∀ c ∈ front, mark c = true)
    (stops : Stops mark rest) : (front ++ rest).dropWhile mark = rest := by
  rw [List.dropWhile_append_of_pos all]
  cases rest with
  | nil => rfl
  | cons c rest =>
    exact List.dropWhile_cons_of_neg (by rw [stops c rest rfl]; exact Bool.false_ne_true)

end Digits

/-! ## Numerals in documents -/

/-- A character that may go on a numeral. -/
def continues (c : Char) : Bool := c.isDigit || c = '.' || c = 'e' || c = 'E'

theorem continues_of_isDigit {c : Char} (digit : c.isDigit = true) : continues c = true := by
  simp [continues, digit]

/-- A text that does not begin with a digit, when a numeral does not go on in it. -/
theorem Stops.noDigit {rest : List Char} (stops : Stops continues rest) :
    Stops Char.isDigit rest :=
  stops.mono fun _ => continues_of_isDigit

/-- The sign at the front of a text. -/
def leadingSign : List Char → List Char
  | '+' :: _ => ['+']
  | '-' :: _ => ['-']
  | _ => []

/-- Without a sign there is none before digits. -/
theorem leadingSign_of_isDigit {c : Char} (digit : c.isDigit = true) (rest : List Char) :
    leadingSign (c :: rest) = [] := by
  unfold leadingSign
  split
  · rename_i head
    rw [(List.cons.inj head).1] at digit
    cases digit
  · rename_i head
    rw [(List.cons.inj head).1] at digit
    cases digit
  · rfl

theorem exponentPart_cons {e : Char} (letter : e = 'e' ∨ e = 'E') (text : List Char) :
    exponentPart (e :: text) =
      if (leadingDigits (text.drop (leadingSign text).length)).isEmpty then []
      else e :: leadingSign text ++ leadingDigits (text.drop (leadingSign text).length) := by
  unfold exponentPart
  exact if_pos letter

/-- The minus at the front of a text. -/
def leadingMinus : List Char → List Char
  | '-' :: _ => ['-']
  | _ => []

/-- A number is taken as its numeral, which is put together from its parts. -/
def takenNumber (sign whole fraction exponent rest : List Char) :
    Except Stop (Json × List Char) :=
  if fraction.isEmpty && exponent.isEmpty then
    match Number.readInteger (String.ofList (sign ++ whole ++ fraction ++ exponent)) with
    | .ok value => .ok (.int value, rest)
    | .error fault => .error (.number fault)
  else
    match Binary64.read (String.ofList (sign ++ whole ++ fraction ++ exponent)) with
    | .ok value => .ok (.float value, rest)
    | .error fault => .error (.number fault)

theorem takeNumber_append {sign whole fraction exponent rest : List Char}
    (minus : leadingMinus (sign ++ (whole ++ (fraction ++ (exponent ++ rest)))) = sign)
    (filled : whole ≠ []) (one : wholePart (whole ++ (fraction ++ (exponent ++ rest))) = whole)
    (two : fractionPart (fraction ++ (exponent ++ rest)) = fraction)
    (three : exponentPart (exponent ++ rest) = exponent) :
    takeNumber (sign ++ (whole ++ (fraction ++ (exponent ++ rest)))) =
      takenNumber sign whole fraction exponent rest := by
  unfold takeNumber
  extract_lets first unsigned front middle back numeral behind
  have sign_eq : first = sign := minus
  have unsigned_eq : unsigned = whole ++ (fraction ++ (exponent ++ rest)) := by
    simp only [unsigned, sign_eq, List.drop_left]
  have whole_eq : front = whole := by
    simp only [front, unsigned_eq, one]
  have fraction_eq : middle = fraction := by
    simp only [middle, unsigned_eq, whole_eq, List.drop_left, two]
  have exponent_eq : back = exponent := by
    simp only [back, unsigned_eq, whole_eq, fraction_eq, ← List.drop_drop, List.drop_left, three]
  have rest_eq : behind = rest := by
    simp only [behind, unsigned_eq, whole_eq, fraction_eq, exponent_eq, ← List.drop_drop,
      List.drop_left]
  have numeral_eq : numeral = String.ofList (sign ++ whole ++ fraction ++ exponent) := by
    simp only [numeral, sign_eq, whole_eq, fraction_eq, exponent_eq]
  have notEmpty : ¬ whole.isEmpty = true := by
    rwa [List.isEmpty_iff]
  rw [whole_eq, if_neg notEmpty, fraction_eq, exponent_eq, numeral_eq, rest_eq]
  unfold takenNumber
  cases Number.readInteger (String.ofList (sign ++ whole ++ fraction ++ exponent)) <;>
    cases Binary64.read (String.ofList (sign ++ whole ++ fraction ++ exponent)) <;> rfl

namespace Exponent

variable (exponent : Exponent)

/-- Behind an exponent there are its digits or its sign. -/
theorem exists_cons : ∃ c tail, exponent.digits = c :: tail ∧ c.isDigit = true := by
  obtain ⟨c, tail, same⟩ := List.exists_cons_of_ne_nil exponent.filled
  exact ⟨c, tail, same, exponent.areDigits c (same ▸ List.mem_cons_self)⟩

theorem exponentPart_chars {rest : List Char} (stops : Stops Char.isDigit rest) :
    exponentPart (exponent.chars ++ rest) = exponent.chars := by
  obtain ⟨c, tail, same, digit⟩ := exponent.exists_cons
  have letter : (if exponent.upper then 'E' else 'e') = 'e' ∨
      (if exponent.upper then 'E' else 'e') = 'E' := by
    cases exponent.upper
    · exact .inl rfl
    · exact .inr rfl
  have sign : leadingSign (signChars exponent.sign ++ exponent.digits ++ rest) =
      signChars exponent.sign := by
    rcases exponent.sign with _ | _ | _
    · rw [same]
      exact leadingSign_of_isDigit digit _
    · rfl
    · rfl
  have digits : leadingDigits (exponent.digits ++ rest) = exponent.digits :=
    takeWhile_append_stops exponent.areDigits stops
  have notEmpty : exponent.digits.isEmpty = false := by
    rw [same]
    rfl
  rw [chars, List.cons_append, exponentPart_cons letter, sign, List.append_assoc,
    List.drop_left, digits, notEmpty]
  rfl

end Exponent

namespace Numeral

variable (n : Numeral) {rest : List Char}

theorem exists_whole : ∃ c tail, n.whole = c :: tail ∧ c.isDigit = true := by
  obtain ⟨c, tail, same⟩ := List.exists_cons_of_ne_nil n.filled
  exact ⟨c, tail, same, n.wholeDigits c (same ▸ List.mem_cons_self)⟩

/-- An exponent and what follows do not begin with a digit or a point. -/
theorem stops_exponentChars {mark : Char → Bool} (stops : Stops continues rest)
    (within : ∀ c, mark c = true → continues c = true) (lower : mark 'e' = false)
    (upper : mark 'E' = false) : Stops mark (n.exponentChars ++ rest) := by
  unfold exponentChars
  cases n.exponent with
  | none => exact stops.mono within
  | some exponent =>
    show Stops mark (exponent.chars ++ rest)
    rw [Exponent.chars, List.cons_append]
    cases exponent.upper
    · exact stops_cons lower
    · exact stops_cons upper

theorem stops_fractionChars (stops : Stops continues rest) :
    Stops Char.isDigit (n.fractionChars ++ (n.exponentChars ++ rest)) := by
  unfold fractionChars
  split
  · exact n.stops_exponentChars stops (fun _ => continues_of_isDigit) rfl rfl
  · exact stops_cons rfl

theorem wholePart_append (stops : Stops Char.isDigit rest) :
    wholePart (n.whole ++ rest) = n.whole := by
  unfold wholePart
  split
  · rename_i tail same
    obtain ⟨c, front, whole, -⟩ := n.exists_whole
    rw [whole, List.cons_append] at same
    have zero : n.whole.head? = some '0' := by
      rw [whole, (List.cons.inj same).1]
      rfl
    exact (n.leading zero).symm
  · exact takeWhile_append_stops n.wholeDigits stops

theorem fractionPart_append (stops : Stops continues rest) :
    fractionPart (n.fractionChars ++ (n.exponentChars ++ rest)) = n.fractionChars := by
  unfold fractionChars
  split
  · have noPoint : Stops (· = '.') (n.exponentChars ++ rest) := by
      refine n.stops_exponentChars stops (fun c point => ?_) rfl rfl
      simp only [decide_eq_true_eq] at point
      rw [point]
      rfl
    unfold fractionPart
    split
    · rename_i tail same
      have other := noPoint '.' tail same
      simp at other
    · rfl
  · rename_i filled
    have digits : leadingDigits (n.fraction ++ (n.exponentChars ++ rest)) = n.fraction :=
      takeWhile_append_stops n.fractionDigits
        (n.stops_exponentChars stops (fun _ => continues_of_isDigit) rfl rfl)
    have notEmpty : n.fraction.isEmpty = false := by
      cases same : n.fraction with
      | nil => exact absurd same filled
      | cons c tail => rfl
    rw [List.cons_append, fractionPart, digits]
    simp only [notEmpty, Bool.false_eq_true, if_false]

theorem exponentPart_append (stops : Stops continues rest) :
    exponentPart (n.exponentChars ++ rest) = n.exponentChars := by
  unfold exponentChars
  cases n.exponent with
  | none =>
    show exponentPart rest = []
    cases rest with
    | nil => rfl
    | cons c tail =>
      have other := stops c tail rfl
      simp only [continues, Bool.or_eq_false_iff, decide_eq_false_iff_not] at other
      unfold exponentPart
      exact if_neg (not_or.mpr ⟨other.1.2, other.2⟩)
  | some exponent => exact exponent.exponentPart_chars stops.noDigit

/-- The sign of the numeral. -/
def signChars : List Char := if n.negative then ['-'] else []

theorem chars_eq : n.chars = n.signChars ++ (n.whole ++ (n.fractionChars ++ n.exponentChars)) := by
  unfold chars signChars
  split <;> rfl

theorem leadingMinus_append (tail : List Char) :
    leadingMinus (n.signChars ++ (n.whole ++ tail)) = n.signChars := by
  unfold signChars
  split
  · rfl
  · obtain ⟨c, front, same, digit⟩ := n.exists_whole
    rw [same, List.nil_append, List.cons_append]
    unfold leadingMinus
    split
    · rename_i head
      rw [(List.cons.inj head).1] at digit
      cases digit
    · rfl

theorem isIntegral_eq : (n.fractionChars.isEmpty && n.exponentChars.isEmpty) = n.isIntegral := by
  unfold fractionChars exponentChars isIntegral
  congr 1
  · cases n.fraction <;> rfl
  · cases n.exponent <;> rfl

/-- A numeral that a text does not go on with is taken as a whole. -/
theorem takeNumber_chars (stops : Stops continues rest) :
    takeNumber (n.chars ++ rest) =
      if n.isIntegral then
        match Number.readInteger n.text with
        | .ok value => .ok (.int value, rest)
        | .error fault => .error (.number fault)
      else
        match Binary64.read n.text with
        | .ok value => .ok (.float value, rest)
        | .error fault => .error (.number fault) := by
  have behind := n.stops_fractionChars stops
  have split : n.chars ++ rest =
      n.signChars ++ (n.whole ++ (n.fractionChars ++ (n.exponentChars ++ rest))) := by
    simp only [chars_eq, List.append_assoc]
  rw [split, takeNumber_append (n.leadingMinus_append _) n.filled (n.wholePart_append behind)
    (n.fractionPart_append stops) (n.exponentPart_append stops), takenNumber, n.isIntegral_eq,
    text, chars_eq]
  simp only [List.append_assoc]

end Numeral

/-! ## Numerals as texts -/

/-- A character that stands in numerals. -/
def IsNumeralChar (c : Char) : Prop :=
  c.isDigit = true ∨ c = '-' ∨ c = '+' ∨ c = '.' ∨ c = 'e' ∨ c = 'E'

theorem toNat_of_isDigit {c : Char} (digit : c.isDigit = true) : 48 ≤ c.toNat ∧ c.toNat ≤ 57 := by
  simp only [Char.isDigit, Bool.and_eq_true, decide_eq_true_eq] at digit
  exact ⟨digit.1, digit.2⟩

theorem IsNumeralChar.visible {c : Char} (among : IsNumeralChar c) :
    0x20 < c.toNat ∧ c.toNat < 0x7f := by
  rcases among with digit | rfl | rfl | rfl | rfl | rfl
  · have code := toNat_of_isDigit digit
    omega
  all_goals decide

/-- A visible ASCII character is no padding. -/
theorem isPadding_eq_false {c : Char} (visible : 0x20 < c.toNat ∧ c.toNat < 0x7f) :
    Text.isPadding c = false := by
  have ink : Text.isBlank c = false := by
    rw [Bool.eq_false_iff]
    intro blank
    obtain ⟨range, listed, low, high⟩ := Text.CodeRanges.has_iff.mp blank
    simp only [Text.blankRanges, List.mem_cons, List.not_mem_nil, or_false] at listed
    rcases listed with rfl | rfl | rfl | rfl | rfl | rfl | rfl | rfl | rfl | rfl <;>
      simp only at low high <;> omega
  rw [Text.isPadding, ink, Bool.false_and]

theorem decimal?_of_isDigit {c : Char} (digit : c.isDigit = true) :
    Text.decimal? c = some (c.toNat - 48) :=
  if_pos (toNat_of_isDigit digit)

/-- The characters of numerals are plain. -/
theorem IsNumeralChar.plainDigit {c : Char} (among : IsNumeralChar c) :
    Binary64.plainDigit c = c := by
  rcases among with digit | rfl | rfl | rfl | rfl | rfl
  · have code := toNat_of_isDigit digit
    have whole : 48 + (c.toNat - 48) = c.toNat := by omega
    rw [Binary64.plainDigit, decimal?_of_isDigit digit]
    show Char.ofNat (48 + (c.toNat - 48)) = c
    rw [whole, Char.ofNat_toNat]
  all_goals rfl

/-- A text without underscores has none to drop. -/
theorem dropUnderscores?_of_notMem {text : List Char} (none : '_' ∉ text) {previous : Char}
    (before : previous ≠ '_') : Binary64.dropUnderscores? previous text = some text := by
  induction text generalizing previous with
  | nil => exact if_neg before
  | cons c rest ih =>
    rw [List.mem_cons, not_or] at none
    have other : c ≠ '_' := fun same => none.1 same.symm
    rw [Binary64.dropUnderscores?, if_neg other, if_neg fun both => before both.1,
      ih none.2 other]
    rfl

/-- A digit is no sign. -/
theorem takeSign_of_isDigit {c : Char} (digit : c.isDigit = true) (rest : List Char) :
    Number.takeSign (c :: rest) = (false, c :: rest) := by
  unfold Number.takeSign
  split
  · rename_i head
    rw [(List.cons.inj head).1] at digit
    cases digit
  · rename_i head
    rw [(List.cons.inj head).1] at digit
    cases digit
  · rfl

/-- A digit has no other case. -/
theorem toLower_of_isDigit {c : Char} (digit : c.isDigit = true) : c.toLower = c := by
  have code := toNat_of_isDigit digit
  refine dif_neg ?_
  rintro ⟨upper, -⟩
  have least : 65 ≤ c.toNat := upper
  omega

namespace Exponent

variable (exponent : Exponent)

theorem isNumeralChar {c : Char} (among : c ∈ exponent.chars) : IsNumeralChar c := by
  rw [chars, List.mem_cons, List.mem_append] at among
  rcases among with rfl | sign | digit
  · cases exponent.upper
    · exact .inr (.inr (.inr (.inr (.inl rfl))))
    · exact .inr (.inr (.inr (.inr (.inr rfl))))
  · generalize exponent.sign = minus at sign
    rcases minus with _ | _ | _
    · cases sign
    · exact .inr (.inr (.inl (List.mem_singleton.mp sign)))
    · exact .inr (.inl (List.mem_singleton.mp sign))
  · exact .inl (exponent.areDigits c digit)

theorem readExponent?_chars : Binary64.readExponent? exponent.chars = some exponent.value := by
  have letter : (if exponent.upper then 'E' else 'e') = 'e' ∨
      (if exponent.upper then 'E' else 'e') = 'E' := by
    cases exponent.upper
    · exact .inl rfl
    · exact .inr rfl
  have signed : Number.takeSign (signChars exponent.sign ++ exponent.digits) =
      (decide (exponent.sign = some true), exponent.digits) := by
    obtain ⟨c, tail, same, digit⟩ := exponent.exists_cons
    rcases exponent.sign with _ | _ | _
    · rw [same]
      exact takeSign_of_isDigit digit tail
    · rfl
    · rfl
  have readable : ¬ (exponent.digits.isEmpty || !exponent.digits.all Char.isDigit) = true := by
    have all : exponent.digits.all Char.isDigit = true := List.all_eq_true.mpr exponent.areDigits
    rw [all, Bool.not_true, Bool.or_false, List.isEmpty_iff]
    exact exponent.filled
  rw [chars, Binary64.readExponent?, if_pos letter, signed]
  dsimp only
  rw [if_neg readable, value]
  simp only [decide_eq_true_eq]

end Exponent

namespace Numeral

variable (n : Numeral)

theorem isNumeralChar {c : Char} (among : c ∈ n.chars) : IsNumeralChar c := by
  rw [chars_eq, List.mem_append, List.mem_append, List.mem_append] at among
  rcases among with sign | whole | fraction | exponent
  · unfold signChars at sign
    split at sign
    · exact .inr (.inl (List.mem_singleton.mp sign))
    · cases sign
  · exact .inl (n.wholeDigits c whole)
  · unfold fractionChars at fraction
    split at fraction
    · cases fraction
    · rcases List.mem_cons.mp fraction with rfl | digit
      · exact .inr (.inr (.inr (.inl rfl)))
      · exact .inl (n.fractionDigits c digit)
  · unfold exponentChars at exponent
    cases present : n.exponent with
    | none => rw [present] at exponent; cases exponent
    | some part => rw [present] at exponent; exact part.isNumeralChar exponent

theorem readExponent?_exponentChars :
    Binary64.readExponent? n.exponentChars = some ((n.exponent.map Exponent.value).getD 0) := by
  unfold exponentChars
  cases n.exponent with
  | none => rfl
  | some exponent => exact exponent.readExponent?_chars

/-- An unsigned numeral is read by its parts. -/
theorem readUnsigned?_unsigned :
    Binary64.readUnsigned? n.negative n.unsigned = some n.value := by
  have noMark : Stops continues [] := stops_nil _
  have behind : Stops Char.isDigit (n.fractionChars ++ n.exponentChars) := by
    have stops := n.stops_fractionChars noMark
    rwa [List.append_nil] at stops
  have last : Stops Char.isDigit n.exponentChars := by
    have stops := n.stops_exponentChars noMark (fun _ => continues_of_isDigit) rfl rfl
    rwa [List.append_nil] at stops
  have whole : n.unsigned.takeWhile Char.isDigit = n.whole :=
    takeWhile_append_stops n.wholeDigits behind
  have after : n.unsigned.dropWhile Char.isDigit = n.fractionChars ++ n.exponentChars :=
    dropWhile_append_stops n.wholeDigits behind
  have notEmpty : n.whole.isEmpty = false := by
    obtain ⟨c, tail, same, -⟩ := n.exists_whole
    rw [same]
    rfl
  have finish : ∀ {digits tail : List Char}, digits = n.fraction → tail = n.exponentChars →
      (if n.whole.isEmpty && digits.isEmpty then none
        else (Binary64.readExponent? tail).map fun exponent =>
          Binary64.ofDecimal n.negative (Binary64.digitsValue (n.whole ++ digits))
            (exponent - digits.length)) = some n.value := by
    rintro _ _ rfl rfl
    rw [notEmpty, Bool.false_and, if_neg Bool.false_ne_true, n.readExponent?_exponentChars]
    rfl
  unfold Binary64.readUnsigned?
  rw [whole, after]
  dsimp only
  -- The fraction begins with a point if it is there, and otherwise the exponent begins without one.
  split
  · rename_i tail parted
    have pointed : tail = n.fraction ++ n.exponentChars := by
      unfold fractionChars at parted
      split at parted
      · have stops : Stops (· = '.') (n.exponentChars ++ []) :=
          n.stops_exponentChars noMark (by simp +contextual [continues]) rfl rfl
        rw [List.append_nil] at stops
        exact absurd (stops '.' tail parted) (by decide)
      · exact (List.cons.inj parted).2.symm
    rw [pointed]
    exact finish (takeWhile_append_stops n.fractionDigits last)
      (dropWhile_append_stops n.fractionDigits last)
  · rename_i unpointed
    have missing : n.fraction = [] := by
      refine Decidable.byContradiction fun filled => ?_
      refine unpointed (n.fraction ++ n.exponentChars) ?_
      rw [fractionChars, if_neg filled]
      rfl
    have alone : n.fractionChars = [] := if_pos missing
    exact finish missing.symm (by rw [alone]; rfl)

theorem trimPadding_chars : Text.trimPadding n.chars = n.chars :=
  Text.trimPadding_of_forall fun _ among => isPadding_eq_false (n.isNumeralChar among).visible

/-- Behind its sign a numeral begins with a digit. -/
theorem exists_unsigned : ∃ c tail, n.unsigned = c :: tail ∧ c.isDigit = true := by
  obtain ⟨c, tail, same, digit⟩ := n.exists_whole
  exact ⟨c, tail ++ (n.fractionChars ++ n.exponentChars), by rw [unsigned, same]; rfl, digit⟩

theorem takeSign_chars : Number.takeSign n.chars = (n.negative, n.unsigned) := by
  obtain ⟨c, tail, begun, digit⟩ := n.exists_unsigned
  unfold chars
  cases n.negative with
  | true => rfl
  | false =>
    rw [if_neg Bool.false_ne_true, begun]
    exact takeSign_of_isDigit digit tail

/-- A numeral alone is read as its value. -/
theorem read?_text : Binary64.read? n.text = some n.value := by
  have plain : n.chars.map Binary64.plainDigit = n.chars :=
    (List.map_congr_left fun c among => (n.isNumeralChar among).plainDigit).trans (List.map_id _)
  have tidy : '_' ∉ n.chars := by
    intro among
    rcases n.isNumeralChar among with digit | same | same | same | same | same
    · cases digit
    all_goals cases same
  -- A name does not begin with a digit.
  have unnamed : ∀ first rest, first.isDigit = false →
      n.unsigned.map Char.toLower ≠ first :: rest := by
    intro first rest letter same
    obtain ⟨c, tail, begun, digit⟩ := n.exists_unsigned
    rw [begun, List.map_cons, toLower_of_isDigit digit] at same
    rw [(List.cons.inj same).1, letter] at digit
    cases digit
  have readable : Binary64.readPlain? n.chars = some n.value := by
    unfold Binary64.readPlain?
    rw [n.takeSign_chars]
    dsimp only
    rw [if_neg (unnamed _ _ rfl), if_neg (not_or.mpr ⟨unnamed _ _ rfl, unnamed _ _ rfl⟩)]
    exact n.readUnsigned?_unsigned
  unfold Binary64.read?
  rw [text, String.toList_ofList, n.trimPadding_chars, plain]
  dsimp only
  rw [dropUnderscores?_of_notMem tidy (by decide)]
  exact readable

/-! ## Integral numerals -/

/-- The decimal digits of a text of ASCII digits are its characters. -/
theorem values_of_digits {text : List Char} (digits : AreDigits text) :
    Number.values text = text.map (·.toNat - 48) := by
  induction text with
  | nil => rfl
  | cons c rest ih =>
    rw [Number.values, List.filterMap_cons_some (decimal?_of_isDigit (digits c List.mem_cons_self)),
      List.map_cons]
    exact congrArg _ (ih fun d among => digits d (List.mem_cons_of_mem c among))

theorem isIntegral_iff : n.isIntegral = true ↔ n.fraction = [] ∧ n.exponent = none := by
  rw [isIntegral, Bool.and_eq_true, List.isEmpty_iff, Option.isNone_iff_eq_none]

/-- An integral numeral within the limit of digits is read as its integer. -/
theorem readInteger_text (integral : n.isIntegral = true)
    (few : n.whole.length ≤ Number.digitLimit) : Number.readInteger n.text = .ok n.integer := by
  obtain ⟨noFraction, noExponent⟩ := n.isIntegral_iff.mp integral
  have alone : n.unsigned = n.whole := by
    rw [unsigned, fractionChars, if_pos noFraction, exponentChars, noExponent]
    exact List.append_nil _
  have run : Number.run n.whole = ⟨n.whole.map (·.toNat - 48), true, []⟩ := by
    rw [← values_of_digits n.wholeDigits]
    exact Number.run_decimals n.filled fun c among =>
      Option.isSome_of_eq_some (decimal?_of_isDigit (n.wholeDigits c among))
  have short : ¬ (n.whole.map (·.toNat - 48)).length > Number.digitLimit := by
    rw [List.length_map]
    exact Nat.not_lt.mpr few
  unfold Number.readInteger
  rw [text, String.toList_ofList, n.trimPadding_chars, n.takeSign_chars, alone]
  dsimp only
  rw [run]
  dsimp only
  rw [if_neg (by decide), if_neg short, if_neg (by decide)]
  rfl

/-- The value of digits, from the first one on. -/
theorem digitsValue_cons (c : Char) (rest : List Char) :
    Binary64.digitsValue (c :: rest) =
      (c.toNat - 48) * 10 ^ rest.length + Binary64.digitsValue rest := by
  have folded : ∀ (digits : List Nat) (value : Nat),
      digits.foldl (fun value digit => value * 10 + digit) value =
        value * 10 ^ digits.length + Number.ofDigits digits := by
    intro digits
    induction digits with
    | nil => exact fun value => (Nat.mul_one value).symm
    | cons digit rest ih =>
      intro value
      rw [Number.ofDigits, List.foldl_cons, List.foldl_cons, ih, ih, List.length_cons,
        Nat.pow_succ]
      ring
  show (rest.map (·.toNat - 48)).foldl (fun value digit => value * 10 + digit)
    (0 * 10 + (c.toNat - 48)) = _
  rw [folded, List.length_map, Nat.zero_mul, Nat.zero_add]
  rfl

/-- The number of an integral numeral. -/
theorem value_of_isIntegral (integral : n.isIntegral = true) :
    n.value = if Binary64.digitsValue n.whole = 0 then .zeroOf n.negative
      else .ofRatio n.negative (Binary64.digitsValue n.whole) 1 := by
  obtain ⟨noFraction, noExponent⟩ := n.isIntegral_iff.mp integral
  rw [value, noFraction, noExponent, List.append_nil]
  generalize Binary64.digitsValue n.whole = digits
  show Binary64.ofDecimal n.negative digits 0 = _
  unfold Binary64.ofDecimal
  by_cases nothing : digits = 0
  · rw [if_pos nothing, if_pos nothing]
  · have large : ¬ (0 : Int) < -(401 + digits.log2 : Int) := by omega
    rw [if_neg nothing, if_neg nothing, if_neg (by decide), if_neg large,
      if_pos (Int.le_refl 0)]
    show Binary64.ofRatio n.negative (digits * 1) 1 = _
    rw [Nat.mul_one]

/-- A finite integral numeral keeps the limit of digits. -/
theorem length_whole_le (integral : n.isIntegral = true) (finite : n.value.isFinite = true) :
    n.whole.length ≤ Number.digitLimit := by
  refine Decidable.byContradiction fun many => ?_
  obtain ⟨c, tail, same, digit⟩ := n.exists_whole
  have code := toNat_of_isDigit digit
  have long : 4300 ≤ tail.length := by
    rw [same, List.length_cons] at many
    show Number.digitLimit ≤ tail.length
    omega
  have first : c ≠ '0' := by
    rintro rfl
    have alone := n.leading (by rw [same]; rfl)
    rw [alone] at same
    cases same
    exact absurd long (by decide)
  have nonzero : c.toNat ≠ 48 := fun zero => first (Char.toNat_inj.mp zero)
  have great : 10 ^ tail.length ≤ Binary64.digitsValue n.whole := by
    calc 10 ^ tail.length ≤ (c.toNat - 48) * 10 ^ tail.length :=
          Nat.le_mul_of_pos_left _ (by omega)
      _ ≤ Binary64.digitsValue n.whole := by
          rw [same, digitsValue_cons]
          exact Nat.le_add_right _ _
  have positive : Binary64.digitsValue n.whole ≠ 0 :=
    Nat.pos_iff_ne_zero.mp (Nat.lt_of_lt_of_le (Nat.pow_pos (by decide)) great)
  rw [n.value_of_isIntegral integral, if_neg positive,
    Binary64.ofRatio_infinite_of_digits _ (Nat.le_trans (by decide) long) great] at finite
  cases finite

/-- The integer of an integral numeral is equal to its value. -/
theorem ofInt_integer (integral : n.isIntegral = true) :
    Binary64.Equals (Binary64.ofInt n.integer) n.value := by
  rw [n.value_of_isIntegral integral]
  by_cases nothing : Binary64.digitsValue n.whole = 0
  · have zero : n.integer = 0 := by
      unfold integer
      rw [nothing]
      split <;> rfl
    rw [if_pos nothing, zero]
    exact .inr ⟨rfl, rfl⟩
  · rw [if_neg nothing]
    refine .inl ?_
    have size : n.integer.natAbs = Binary64.digitsValue n.whole := by
      unfold integer
      dsimp only
      split <;> omega
    have sign : decide (n.integer < 0) = n.negative := by
      unfold integer
      dsimp only
      cases n.negative
      · exact decide_eq_false (by simp)
      · exact decide_eq_true (by simp; omega)
    rw [Binary64.ofInt, size, sign]

end Numeral

end Telematics.Json
