import Mathlib.Data.List.Perm.Basic
import Telematics.Proofs.Json.Numeral

/-!
How values are written in documents, and that they are read back. A value may be written in many
ways: characters of a text may be escaped, blanks may stand between all parts, and the members of an
object may come in any order.

* `Spells`: how a text is spelled between quotes. `QuotedText`, `ObjectText`: texts and objects as
  they are written.
* `takeString_spells`, `takeString_quoted`: a spelled text is taken up to its closing quote.
* `Stands`: a written value is taken as that value, whatever follows it.
* `stands_quotedText`, `stands_chars`, `stands_objectText`: texts, numerals and objects are.
* `parse_of_stands`: a document with nothing else in it is that value.
* `writeObject`, `objectText_writeObject`: a writer of objects.
-/

namespace Telematics.Json

/-! ## Written values -/

/-- How the letters of a text are spelled between quotes. -/
inductive Spells : List Char → List Letter → Prop where
  | nil : Spells [] []
  | plain {c : Char} {spelled : List Char} {text : List Letter} :
      c ≠ '"' → c ≠ '\\' → 0x20 ≤ c.toNat → Spells spelled text →
      Spells (c :: spelled) (.char c :: text)
  | short {e c : Char} {spelled : List Char} {text : List Letter} :
      shortEscape? e = some c → Spells spelled text →
      Spells ('\\' :: e :: spelled) (.char c :: text)
  /-- A code unit that is not half of a pair. -/
  | unit {digits spelled : List Char} {text : List Letter} {code : Nat} :
      digits.length = 4 → Text.hexNumber? digits = some code → code < 0xd800 ∨ 0xdfff < code →
      Spells spelled text →
      Spells ('\\' :: 'u' :: (digits ++ spelled)) (.char (Char.ofNat code) :: text)
  /-- Half of a pair, without the other half behind it. -/
  | half {digits spelled : List Char} {text : List Letter} {unit : Fin 2048} :
      digits.length = 4 → Text.hexNumber? digits = some (Letter.leastHalf + unit) →
      (∀ next ∈ text.head?, (Letter.half unit).join? next = none) → Spells spelled text →
      Spells ('\\' :: 'u' :: (digits ++ spelled)) (.half unit :: text)
  /-- A pair of code units. -/
  | pair {first second spelled : List Char} {text : List Letter} {high low : Nat} :
      first.length = 4 → Text.hexNumber? first = some high → 0xd800 ≤ high → high ≤ 0xdbff →
      second.length = 4 → Text.hexNumber? second = some low → 0xdc00 ≤ low → low ≤ 0xdfff →
      Spells spelled text →
      Spells ('\\' :: 'u' :: (first ++ '\\' :: 'u' :: (second ++ spelled)))
        (.char (Char.ofNat (0x10000 + (high - 0xd800) * 1024 + (low - 0xdc00))) :: text)

/-- A text in quotes. -/
def QuotedText (value : Letters) (text : List Char) : Prop :=
  ∃ spelled, Spells spelled value.letters ∧ text = '"' :: (spelled ++ ['"'])

/-- Blanks between the parts of a document. -/
def AreGaps (text : List Char) : Prop := ∀ c ∈ text, isGap c = true

/-- The members of an object with its closing brace, from the first key on. Each member is a key and
    the text of its value. -/
inductive MembersText : List (String × List Char) → List Char → Prop where
  | last {key : String} {spelled value front back behind : List Char} :
      Spells spelled (Letters.whole key).letters → AreGaps front → AreGaps back → AreGaps behind →
      MembersText [(key, value)]
        ('"' :: (spelled ++ '"' :: (front ++ ':' :: (back ++ (value ++ (behind ++ ['\x7d']))))))
  | more {key : String} {spelled value front back behind next text : List Char}
      {members : List (String × List Char)} :
      Spells spelled (Letters.whole key).letters →
      AreGaps front → AreGaps back → AreGaps behind → AreGaps next →
      MembersText members text →
      MembersText ((key, value) :: members)
        ('"' :: (spelled ++ '"' :: (front ++ ':' :: (back ++
          (value ++ (behind ++ ',' :: (next ++ text)))))))

/-- An object with some members, in any order. -/
def ObjectText (members : List (String × List Char)) (text : List Char) : Prop :=
  ∃ order gap inner, order.Perm members ∧ AreGaps gap ∧ MembersText order inner ∧
    text = '\x7b' :: (gap ++ inner)

/-! ## Texts -/

section Strings

variable {start : Nat} {read : List Letter} {rest : List Char}

/-- The characters of an escape are passed over. -/
theorem takeString_skip (front back : List Char) :
    takeString start read front.length (front ++ back) = takeString start read 0 back := by
  induction front with
  | nil => rfl
  | cons c front ih => exact ih

theorem takeString_quote :
    takeString start read 0 ('"' :: rest) = .ok (.of read.reverse, rest) := rfl

theorem takeString_plain {c : Char} (quote : c ≠ '"') (backslash : c ≠ '\\')
    (visible : 0x20 ≤ c.toNat) :
    takeString start read 0 (c :: rest) = takeString start (.char c :: read) 0 rest := by
  rw [takeString.eq_def]
  dsimp only
  rw [if_neg quote, if_neg backslash, if_neg (Nat.not_lt.mpr visible)]

theorem takeString_short {e c : Char} (short : shortEscape? e = some c) :
    takeString start read 0 ('\\' :: e :: rest) = takeString start (.char c :: read) 0 rest := by
  have other : e ≠ 'u' := by
    rintro rfl
    cases short
  rw [takeString.eq_def]
  dsimp only
  rw [if_neg (by decide), if_pos rfl, if_neg other, short]
  exact takeString_skip [e] rest

/-- An escape with a number is passed over as far as it goes. -/
theorem takeString_unicode {front : List Char} {letter : Letter}
    (taken : takeUnicode (front ++ rest) = .ok (letter, front.length)) :
    takeString start read 0 ('\\' :: 'u' :: (front ++ rest)) =
      takeString start (letter :: read) 0 rest := by
  rw [takeString.eq_def]
  dsimp only
  rw [if_neg (by decide), if_pos rfl, if_pos rfl, taken]
  exact takeString_skip ('u' :: front) rest

theorem takeUnicode_unit {digits : List Char} {code : Nat} (four : digits.length = 4)
    (number : Text.hexNumber? digits = some code) (whole : code < 0xd800 ∨ 0xdfff < code)
    (more : rest ≠ []) :
    takeUnicode (digits ++ rest) = .ok (.char (Char.ofNat code), digits.length) := by
  have positive := List.length_pos_iff.mpr more
  have long : ¬ (digits ++ rest).length ≤ 4 := by
    rw [List.length_append]
    omega
  have front : (digits ++ rest).take 4 = digits := by
    rw [← four, List.take_left]
  have single : ¬ (0xd800 ≤ code ∧ code ≤ 0xdbff) := by omega
  rw [takeUnicode, if_neg long, front, number]
  dsimp only
  rw [if_neg single, Letter.ofUnit_of_whole whole, four]

/-- Half of a pair stands for itself if no escape of the other half follows. -/
theorem takeUnicode_half {digits : List Char} {unit : Fin 2048} (four : digits.length = 4)
    (number : Text.hexNumber? digits = some (Letter.leastHalf + unit)) (more : rest ≠ [])
    (alone : ∀ after, rest = '\\' :: 'u' :: after → ∃ low,
      Text.hexNumber? (after.take 4) = some low ∧
        (0xdc00 ≤ low ∧ low ≤ 0xdfff → 1024 ≤ unit.val)) :
    takeUnicode (digits ++ rest) = .ok (.half unit, digits.length) := by
  have positive := List.length_pos_iff.mpr more
  have long : ¬ (digits ++ rest).length ≤ 4 := by
    rw [List.length_append]
    omega
  have front : (digits ++ rest).take 4 = digits := by
    rw [← four, List.take_left]
  have behind : (digits ++ rest).drop 4 = rest := by
    rw [← four, List.drop_left]
  rw [takeUnicode, if_neg long, front, number]
  dsimp only
  rw [behind, Letter.ofUnit_half, four]
  split
  · rename_i first
    split
    · rename_i after
      obtain ⟨low, found, other⟩ := alone after rfl
      have apart : ¬ (0xdc00 ≤ low ∧ low ≤ 0xdfff) := fun second => by
        have later := other second
        simp only [Letter.leastHalf] at first
        omega
      split
      · rfl
      · rw [found]
        exact if_neg apart
    · rfl
  · rfl

theorem takeUnicode_pair {first second : List Char} {high low : Nat} (four : first.length = 4)
    (highNumber : Text.hexNumber? first = some high) (highest : 0xd800 ≤ high ∧ high ≤ 0xdbff)
    (again : second.length = 4) (lowNumber : Text.hexNumber? second = some low)
    (lowest : 0xdc00 ≤ low ∧ low ≤ 0xdfff) (more : rest ≠ []) :
    takeUnicode ((first ++ '\\' :: 'u' :: second) ++ rest) =
      .ok (.char (Char.ofNat (0x10000 + (high - 0xd800) * 1024 + (low - 0xdc00))),
        (first ++ '\\' :: 'u' :: second).length) := by
  have positive := List.length_pos_iff.mpr more
  have opened : (first ++ '\\' :: 'u' :: second) ++ rest =
      first ++ ('\\' :: 'u' :: (second ++ rest)) := by
    rw [List.append_assoc]
    rfl
  have long : ¬ (first ++ ('\\' :: 'u' :: (second ++ rest))).length ≤ 4 := by
    rw [List.length_append, List.length_cons]
    omega
  have front : (first ++ ('\\' :: 'u' :: (second ++ rest))).take 4 = first := by
    rw [← four, List.take_left]
  have behind : (first ++ ('\\' :: 'u' :: (second ++ rest))).drop 4 =
      '\\' :: 'u' :: (second ++ rest) := by
    rw [← four, List.drop_left]
  have longer : ¬ (second ++ rest).length ≤ 4 := by
    rw [List.length_append]
    omega
  have back : (second ++ rest).take 4 = second := by
    rw [← again, List.take_left]
  have width : (first ++ '\\' :: 'u' :: second).length = 10 := by
    rw [List.length_append, List.length_cons, List.length_cons, four, again]
  rw [opened, takeUnicode, if_neg long, front, highNumber]
  dsimp only
  rw [if_pos highest, behind, width]
  simp only [if_neg longer, back, lowNumber, if_pos lowest]

/-- A text whose spelling begins with a four-digit escape begins with the letter of that escape, if
    it is a second half. -/
theorem Spells.begins_with_escape {spelled after : List Char} {text : List Letter}
    (spells : Spells spelled text) (begins : spelled ++ '"' :: rest = '\\' :: 'u' :: after) :
    ∃ low, Text.hexNumber? (after.take 4) = some low ∧ (0xdc00 ≤ low ∧ low ≤ 0xdfff →
      ∃ second : Fin 2048, text.head? = some (.half second) ∧ 1024 ≤ second.val) := by
  have front : ∀ {digits tail : List Char}, digits.length = 4 →
      '\\' :: 'u' :: (digits ++ tail) = '\\' :: 'u' :: after → after.take 4 = digits := by
    intro digits tail four same
    rw [← (List.cons.inj (List.cons.inj same).2).2, ← four, List.take_left]
  cases spells with
  | nil => cases begins
  | plain _ backslash => exact absurd (List.cons.inj begins).1 backslash
  | short short =>
    cases (List.cons.inj (List.cons.inj begins).2).1
    cases short
  | @unit digits _ _ code four found whole _ =>
    simp only [List.cons_append, List.append_assoc] at begins
    exact ⟨code, by rw [front four begins, found], fun second => by omega⟩
  | @half digits _ _ unit four found _ _ =>
    simp only [List.cons_append, List.append_assoc] at begins
    refine ⟨_, by rw [front four begins, found], fun second => ⟨unit, rfl, ?_⟩⟩
    simp only [Letter.leastHalf] at second
    omega
  | @pair first _ _ _ high _ four found _ most _ _ _ _ _ =>
    simp only [List.cons_append, List.append_assoc] at begins
    exact ⟨high, by rw [front four begins, found], fun second => by omega⟩

/-- A spelled text is taken up to its closing quote. -/
theorem takeString_spells {spelled : List Char} {text : List Letter}
    (spells : Spells spelled text) :
    takeString start read 0 (spelled ++ '"' :: rest) =
      .ok (.of (read.reverse ++ text), rest) := by
  -- What follows an escape is never empty, for there is the closing quote.
  have more : ∀ spelled : List Char, spelled ++ '"' :: rest ≠ [] :=
    fun _ => List.append_ne_nil_of_right_ne_nil _ (List.cons_ne_nil _ _)
  induction spells generalizing read with
  | nil => rw [List.append_nil]; exact takeString_quote
  | plain quote backslash visible _ ih =>
    rw [List.cons_append, takeString_plain quote backslash visible, ih, List.reverse_cons,
      List.append_assoc]
    rfl
  | short short _ ih =>
    rw [List.cons_append, List.cons_append, takeString_short short, ih, List.reverse_cons,
      List.append_assoc]
    rfl
  | unit four number whole _ ih =>
    rw [List.cons_append, List.cons_append, List.append_assoc,
      takeString_unicode (takeUnicode_unit four number whole (more _)), ih, List.reverse_cons,
      List.append_assoc]
    rfl
  | @half digits spelled text unit four number apart spells ih =>
    have alone : ∀ after, spelled ++ '"' :: rest = '\\' :: 'u' :: after → ∃ low,
        Text.hexNumber? (after.take 4) = some low ∧
          (0xdc00 ≤ low ∧ low ≤ 0xdfff → 1024 ≤ unit.val) := by
      intro after begins
      obtain ⟨low, found, behind⟩ := spells.begins_with_escape begins
      refine ⟨low, found, fun second => ?_⟩
      obtain ⟨other, next, upper⟩ := behind second
      by_contra lower
      have joins := apart _ next
      rw [Letter.join?, if_pos ⟨Nat.lt_of_not_le lower, upper⟩] at joins
      cases joins
    rw [List.cons_append, List.cons_append, List.append_assoc,
      takeString_unicode (takeUnicode_half four number (more _) alone), ih, List.reverse_cons,
      List.append_assoc]
    rfl
  | @pair first second spelled text high low four highNumber least most again lowNumber lower
      upper _ ih =>
    have opened : '\\' :: 'u' :: (first ++ '\\' :: 'u' :: (second ++ spelled)) ++ '"' :: rest =
        '\\' :: 'u' :: ((first ++ '\\' :: 'u' :: second) ++ (spelled ++ '"' :: rest)) := by
      simp only [List.cons_append, List.append_assoc]
    rw [opened, takeString_unicode (takeUnicode_pair four highNumber ⟨least, most⟩ again lowNumber
      ⟨lower, upper⟩ (more _)), ih, List.reverse_cons, List.append_assoc]
    rfl

/-- A text in quotes is taken up to its closing quote. -/
theorem takeString_quoted {value : Letters} {spelled : List Char}
    (spells : Spells spelled value.letters) (start : Nat) (rest : List Char) :
    takeString start [] 0 (spelled ++ '"' :: rest) = .ok (value, rest) := by
  rw [takeString_spells spells, List.reverse_nil, List.nil_append, Letters.of_letters]

end Strings

/-! ## Values -/

/-- A written value is taken as that value, whatever follows that does not go on with it. -/
structure Stands (depth : Nat) (text : List Char) (value : Json) : Prop where
  begins : text ≠ [] ∧ Stops isGap text
  taken : ∀ rest fuel, Stops continues rest → 2 * (text ++ rest).length + 1 ≤ fuel →
    takeValue false fuel depth (text ++ rest) = .ok (value, rest)

theorem isGap_iff {c : Char} : isGap c = true ↔ c = ' ' ∨ c = '\t' ∨ c = '\n' ∨ c = '\r' := by
  simp [isGap, or_assoc]

theorem isGap_eq_false {c : Char} (visible : 0x20 < c.toNat) : isGap c = false := by
  rw [Bool.eq_false_iff]
  intro gap
  rcases isGap_iff.mp gap with rfl | rfl | rfl | rfl <;> exact absurd visible (by decide)

/-- Neither blanks nor the marks behind them go on with a numeral. -/
theorem stops_gap {gap rest : List Char} (gaps : AreGaps gap) (stops : Stops continues rest) :
    Stops continues (gap ++ rest) := by
  cases gap with
  | nil => exact stops
  | cons c gap =>
    refine stops_cons ?_
    rcases isGap_iff.mp (gaps c List.mem_cons_self) with rfl | rfl | rfl | rfl <;> rfl

theorem skipGap_append {gap rest : List Char} (gaps : AreGaps gap) (stops : Stops isGap rest) :
    skipGap (gap ++ rest) = rest :=
  dropWhile_append_stops gaps stops

theorem stops_append {mark : Char → Bool} {text : List Char} (filled : text ≠ [])
    (stops : Stops mark text) (rest : List Char) : Stops mark (text ++ rest) := by
  obtain ⟨c, tail, rfl⟩ := List.exists_cons_of_ne_nil filled
  exact stops_cons (stops c tail rfl)

theorem stands_quotedText {value : Letters} {text : List Char} (quoted : QuotedText value text)
    (depth : Nat) : Stands depth text (.text value) := by
  obtain ⟨spelled, spells, rfl⟩ := quoted
  refine ⟨⟨List.cons_ne_nil _ _, stops_cons rfl⟩, fun rest fuel _ enough => ?_⟩
  obtain ⟨fuel, rfl⟩ : ∃ less, fuel = less + 1 :=
    Nat.exists_eq_succ_of_ne_zero (by omega)
  rw [List.cons_append, List.append_assoc, List.singleton_append]
  simp only [takeValue, takeString_quoted spells]

/-- A text begins with none of the words of a table. -/
theorem takeWord?_eq_none {table : List (String × Json)} {text : List Char}
    (others : ∀ entry ∈ table, afterWord? entry.1.toList text = none) :
    takeWord? table text = none := by
  refine List.findSome?_eq_none_iff.mpr fun entry among => ?_
  dsimp only
  rw [others entry among]
  rfl

theorem afterWord?_of_isDigit {w c : Char} (letter : w.isDigit = false) (digit : c.isDigit = true)
    (word rest : List Char) : afterWord? (w :: word) (c :: rest) = none := by
  refine if_neg ?_
  rintro rfl
  rw [letter] at digit
  cases digit

/-- A numeral is none of the words. -/
theorem takeScalar_chars (n : Numeral) (rest : List Char) :
    takeScalar false (n.chars ++ rest) = takeNumber (n.chars ++ rest) := by
  obtain ⟨c, tail, begun, digit⟩ := n.exists_unsigned
  have others : ∀ entry ∈ words ++ constants,
      afterWord? entry.1.toList (n.chars ++ rest) = none := by
    intro entry among
    simp only [words, constants, List.cons_append, List.nil_append, List.mem_cons,
      List.not_mem_nil, or_false] at among
    unfold Numeral.chars
    rw [begun]
    rcases among with rfl | rfl | rfl | rfl | rfl | rfl <;> cases n.negative
    all_goals first | rfl | exact afterWord?_of_isDigit rfl digit _ _
  have noWord : takeWord? words (n.chars ++ rest) = none :=
    takeWord?_eq_none fun entry among => others entry (List.mem_append_left _ among)
  have noConstant : takeWord? constants (n.chars ++ rest) = none :=
    takeWord?_eq_none fun entry among => others entry (List.mem_append_right _ among)
  simp only [takeScalar, noWord, noConstant]

/-- A text that begins with a character of a numeral is a number. -/
theorem takeValue_of_isNumeralChar {c : Char} (among : IsNumeralChar c) (rest : List Char)
    (fuel depth : Nat) :
    takeValue false (fuel + 1) depth (c :: rest) = takeScalar false (c :: rest) := by
  have other : ∀ {mark : Char} {tail : List Char},
      ¬ IsNumeralChar mark → c :: rest ≠ mark :: tail := by
    intro mark tail foreign same
    exact foreign ((List.cons.inj same).1 ▸ among)
  unfold takeValue
  split
  · rename_i same
    exact absurd same (other (by unfold IsNumeralChar; decide))
  · rename_i same
    exact absurd same (other (by unfold IsNumeralChar; decide))
  · rename_i same
    exact absurd same (other (by unfold IsNumeralChar; decide))
  · rfl

/-- A numeral begins with a character of numerals. -/
theorem Numeral.exists_chars (n : Numeral) : ∃ c tail, n.chars = c :: tail ∧ IsNumeralChar c := by
  obtain ⟨c, tail, begun, -⟩ := n.exists_unsigned
  have filled : n.chars ≠ [] := by
    unfold Numeral.chars
    rw [begun]
    split <;> exact List.cons_ne_nil _ _
  obtain ⟨c, tail, same⟩ := List.exists_cons_of_ne_nil filled
  exact ⟨c, tail, same, n.isNumeralChar (same ▸ List.mem_cons_self)⟩

/-- A numeral that a text does not go on with is taken as a number. -/
theorem takeValue_chars (n : Numeral) {rest : List Char} (stops : Stops continues rest)
    (fuel depth : Nat) :
    takeValue false (fuel + 1) depth (n.chars ++ rest) =
      if n.isIntegral then
        match Number.readInteger n.text with
        | .ok value => .ok (.int value, rest)
        | .error fault => .error (.number fault)
      else .ok (.float n.value, rest) := by
  obtain ⟨c, tail, same, first⟩ := n.exists_chars
  have scalar : takeValue false (fuel + 1) depth (n.chars ++ rest) =
      takeScalar false (n.chars ++ rest) := by
    rw [same]
    exact takeValue_of_isNumeralChar first _ _ _
  have number : Binary64.read n.text = .ok n.value := by
    rw [Binary64.read, n.read?_text]
  refine (scalar.trans (takeScalar_chars _ _)).trans ((n.takeNumber_chars stops).trans ?_)
  cases n.isIntegral with
  | true => rfl
  | false => simp only [Bool.false_eq_true, if_false, number]

/-- A finite numeral stands for its number. -/
theorem stands_chars {n : Numeral} (finite : n.value.isFinite = true) (depth : Nat) :
    Stands depth n.chars n.json := by
  obtain ⟨c, tail, same, first⟩ := n.exists_chars
  refine ⟨?_, fun rest fuel stops enough => ?_⟩
  · rw [same]
    exact ⟨List.cons_ne_nil _ _, stops_cons (isGap_eq_false first.visible.1)⟩
  obtain ⟨fuel, rfl⟩ : ∃ less, fuel = less + 1 := Nat.exists_eq_succ_of_ne_zero (by omega)
  rw [takeValue_chars n stops, Numeral.json]
  by_cases integral : n.isIntegral = true
  · rw [if_pos integral, if_pos integral,
      n.readInteger_text integral (n.length_whole_le integral finite)]
  · rw [if_neg integral, if_neg integral]

/-! ## Objects -/

/-- What is taken behind the value of a member. -/
def takeFurther (fuel depth : Nat) (read : Members) : List Char → Except Stop (Json × List Char)
  | '\x7d' :: rest => .ok (.object read, rest)
  | ',' :: rest => takeMembers false fuel depth read (skipGap rest)
  | rest => .error (.complaint .comma rest.length)

/-- Behind its key a member is taken as its value is. -/
theorem takeMembers_key {key : Letters} {spelled front back text : List Char}
    (spells : Spells spelled key.letters) (gaps : AreGaps front) (moreGaps : AreGaps back)
    (ink : Stops isGap text) (fuel depth : Nat) (read : Members) :
    takeMembers false (fuel + 1) depth read
        ('"' :: (spelled ++ '"' :: (front ++ ':' :: (back ++ text)))) =
      match takeValue false fuel depth text with
      | .error stop => .error stop
      | .ok (value, rest) => takeFurther fuel depth (read.put key value) (skipGap rest) := by
  have colon : skipGap (front ++ ':' :: (back ++ text)) = ':' :: (back ++ text) :=
    skipGap_append gaps (stops_cons rfl)
  have begun : skipGap (back ++ text) = text := skipGap_append moreGaps ink
  simp only [takeMembers, takeString_quoted spells, colon, begun]
  cases takeValue false fuel depth text <;> rfl

/-- A member is taken with its value, up to the mark behind it. -/
theorem takeMembers_member {key : Letters} {spelled value front back behind rest : List Char}
    {meaning : Json} {depth fuel : Nat} {read : Members} (spells : Spells spelled key.letters)
    (gaps : AreGaps front) (moreGaps : AreGaps back) (lastGaps : AreGaps behind)
    (stands : Stands depth value meaning) {mark : Char} (marks : continues mark = false)
    (ink : isGap mark = false)
    (enough : 2 * (value ++ (behind ++ mark :: rest)).length + 1 ≤ fuel) :
    takeMembers false (fuel + 1) depth read
        ('"' :: (spelled ++
          '"' :: (front ++ ':' :: (back ++ (value ++ (behind ++ mark :: rest)))))) =
      takeFurther fuel depth (read.put key meaning) (mark :: rest) := by
  have valued := stands.taken (behind ++ mark :: rest) fuel
    (stops_gap lastGaps (stops_cons marks)) enough
  have done : skipGap (behind ++ mark :: rest) = mark :: rest :=
    skipGap_append lastGaps (stops_cons ink)
  rw [takeMembers_key spells gaps moreGaps
    (stops_append stands.begins.1 stands.begins.2 _), valued]
  dsimp only
  rw [done]

/-- What the members of an object mean together. -/
def meant (meaning : String → Json) (members : List (String × List Char)) (read : Members) :
    Members :=
  members.foldl (fun read member => read.put member.1 (meaning member.1)) read

/-- Members begin with the quote of a key. -/
theorem MembersText.begins {members : List (String × List Char)} {text : List Char}
    (written : MembersText members text) : ∃ tail, text = '"' :: tail := by
  cases written <;> exact ⟨_, rfl⟩

/-- Members are taken one after the other, up to the closing brace. -/
theorem takeMembers_membersText (meaning : String → Json) {depth : Nat}
    {members : List (String × List Char)} {text : List Char} (written : MembersText members text)
    (values : ∀ member ∈ members, Stands depth member.2 (meaning member.1)) {rest : List Char}
    {fuel : Nat} (enough : 2 * (text ++ rest).length + 2 ≤ fuel) (read : Members) :
    takeMembers false fuel depth read (text ++ rest) =
      .ok (.object (meant meaning members read), rest) := by
  induction written generalizing fuel read with
  | @last key spelled value front back behind spells gaps moreGaps lastGaps =>
    obtain ⟨fuel, rfl⟩ : ∃ less, fuel = less + 1 := Nat.exists_eq_succ_of_ne_zero (by omega)
    have opened : '"' :: (spelled ++ '"' :: (front ++ ':' :: (back ++
        (value ++ (behind ++ ['\x7d']))))) ++ rest = '"' :: (spelled ++ '"' :: (front ++ ':' ::
        (back ++ (value ++ (behind ++ '\x7d' :: rest))))) := by
      simp only [List.cons_append, List.append_assoc, List.nil_append]
    rw [opened] at enough ⊢
    exact takeMembers_member spells gaps moreGaps lastGaps (values _ List.mem_cons_self) rfl rfl
      (by simp only [List.length_cons, List.length_append] at enough ⊢; omega)
  | @more key spelled value front back behind next text members spells gaps moreGaps lastGaps
      nextGaps written ih =>
    obtain ⟨fuel, rfl⟩ : ∃ less, fuel = less + 1 := Nat.exists_eq_succ_of_ne_zero (by omega)
    have opened : '"' :: (spelled ++ '"' :: (front ++ ':' :: (back ++
        (value ++ (behind ++ ',' :: (next ++ text)))))) ++ rest = '"' :: (spelled ++ '"' ::
        (front ++ ':' :: (back ++ (value ++ (behind ++ ',' :: (next ++ (text ++ rest))))))) := by
      simp only [List.cons_append, List.append_assoc]
    have quote : Stops isGap (text ++ rest) := by
      obtain ⟨tail, rfl⟩ := written.begins
      exact stops_cons rfl
    rw [opened] at enough ⊢
    simp only [List.length_cons, List.length_append] at enough
    rw [takeMembers_member spells gaps moreGaps lastGaps (values _ List.mem_cons_self) rfl rfl
      (by simp only [List.length_cons, List.length_append]; omega), takeFurther,
      skipGap_append nextGaps quote]
    exact ih (fun member among => values member (List.mem_cons_of_mem _ among))
      (by simp only [List.length_append]; omega) _

/-- The members of an object are found under their keys. -/
theorem get?_meant (meaning : String → Json) (members : List (String × List Char))
    (read : Members) (key : String) :
    (meant meaning members read).get? key =
      if key ∈ members.map Prod.fst then some (meaning key) else read.get? key := by
  induction members generalizing read with
  | nil => rfl
  | cons member rest ih =>
    show (meant meaning rest (read.put member.1 (meaning member.1))).get? key = _
    rw [ih]
    simp only [List.map_cons, List.mem_cons]
    by_cases same : member.1 = key
    · subst same
      rw [Members.get?_put_self, if_pos (Or.inl rfl)]
      exact ite_self _
    · have other : ¬ key = member.1 := fun again => same again.symm
      rw [Members.get?_put_ne _ fun own => same (Letters.whole.inj own)]
      simp only [other, false_or]

/-- A written object stands for an object in which its members are found. -/
theorem stands_objectText (meaning : String → Json) {depth : Nat}
    {members : List (String × List Char)} {text : List Char} (written : ObjectText members text)
    (values : ∀ member ∈ members, Stands depth member.2 (meaning member.1)) :
    ∃ object : Members, Stands (depth + 1) text (.object object) ∧ ∀ key : String, object.get? key =
      if key ∈ members.map Prod.fst then some (meaning key) else none := by
  obtain ⟨order, gap, inner, same, gaps, written, rfl⟩ := written
  refine ⟨meant meaning order [], ⟨⟨List.cons_ne_nil _ _, stops_cons rfl⟩, ?_⟩, fun key => ?_⟩
  · intro rest fuel _ enough
    obtain ⟨fuel, rfl⟩ : ∃ less, fuel = less + 1 := Nat.exists_eq_succ_of_ne_zero (by omega)
    obtain ⟨tail, rfl⟩ := written.begins
    have begun : skipGap (gap ++ '"' :: tail ++ rest) = '"' :: (tail ++ rest) := by
      rw [List.append_assoc]
      exact skipGap_append gaps (stops_cons rfl)
    rw [List.cons_append, takeValue]
    simp only [begun]
    exact takeMembers_membersText meaning written
      (fun member among => values member (same.subset among))
      (by simp only [List.length_cons, List.length_append] at enough ⊢; omega) []
  · rw [get?_meant]
    simp only [(same.map Prod.fst).mem_iff, Members.get?_nil]

/-- A text that does not begin with a byte order mark is a document if it is a value between
    blanks. -/
theorem takeDocument_eq {text : List Char} (unmarked : text.head? ≠ some '\uFEFF')
    (depth : Nat) :
    takeDocument false depth text =
      match takeValue false (2 * text.length + 2) depth (skipGap text) with
      | .error stop => .error stop
      | .ok (value, rest) =>
        match skipGap rest with
        | [] => .ok value
        | rest => .error (.complaint .extraData rest.length) := by
  unfold takeDocument
  split
  · exact absurd rfl unmarked
  · rfl

/-- A document with nothing in it but a written value is that value. -/
theorem parse_of_stands {text front back : List Char} {value : Json} {depth : Nat}
    (stands : Stands depth text value) (unmarked : text.head? ≠ some '\uFEFF')
    (gaps : AreGaps front) (moreGaps : AreGaps back) :
    parse false depth (front ++ (text ++ back)) = .ok value := by
  have begun : skipGap (front ++ (text ++ back)) = text ++ back :=
    skipGap_append gaps (stops_append stands.begins.1 stands.begins.2 back)
  have ended : Stops continues back := by
    have stops := stops_gap moreGaps (stops_nil continues)
    rwa [List.append_nil] at stops
  have nothing : skipGap back = [] := by
    have skipped := skipGap_append moreGaps (stops_nil isGap)
    rwa [List.append_nil] at skipped
  have first : (front ++ (text ++ back)).head? ≠ some '\uFEFF' := by
    cases front with
    | nil =>
      rw [List.nil_append, List.head?_append_of_ne_nil _ stands.begins.1]
      exact unmarked
    | cons c front =>
      rintro ⟨⟩
      exact absurd (gaps _ List.mem_cons_self) (by decide)
  have taken := stands.taken back (2 * (front ++ (text ++ back)).length + 2) ended (by
    simp only [List.length_append]
    omega)
  rw [parse, takeDocument_eq first, begun, taken]
  simp only [nothing]
  rfl

/-! ## The writer of objects -/

/-- The text needs no escapes between quotes. -/
def IsPlain (text : List Char) : Prop := ∀ c ∈ text, c ≠ '"' ∧ c ≠ '\\' ∧ 0x20 ≤ c.toNat

instance (text : List Char) : Decidable (IsPlain text) :=
  List.decidableBAll (fun c => c ≠ '"' ∧ c ≠ '\\' ∧ 0x20 ≤ c.toNat) text

theorem spells_of_isPlain {text : List Char} (plain : IsPlain text) :
    Spells text (text.map .char) := by
  induction text with
  | nil => exact .nil
  | cons c rest ih =>
    obtain ⟨⟨quote, backslash, visible⟩, others⟩ := List.forall_mem_cons.mp plain
    exact .plain quote backslash visible (ih others)

/-- A text in quotes, without escapes. -/
def writeText (text : String) : List Char := '"' :: (text.toList ++ ['"'])

theorem quotedText_writeText {text : String} (plain : IsPlain text.toList) :
    QuotedText text (writeText text) :=
  ⟨text.toList, spells_of_isPlain plain, rfl⟩

/-- Members with the closing brace, without blanks. -/
def writeMembers : List (String × List Char) → List Char
  | [] => ['\x7d']
  | [(key, value)] => '"' :: (key.toList ++ '"' :: ':' :: (value ++ ['\x7d']))
  | (key, value) :: rest =>
    '"' :: (key.toList ++ '"' :: ':' :: (value ++ ',' :: writeMembers rest))

theorem membersText_writeMembers {members : List (String × List Char)} (filled : members ≠ [])
    (plain : ∀ member ∈ members, IsPlain member.1.toList) :
    MembersText members (writeMembers members) := by
  have none : AreGaps [] := nofun
  induction members with
  | nil => exact absurd rfl filled
  | cons member rest ih =>
    obtain ⟨key, others⟩ := List.forall_mem_cons.mp plain
    cases rest with
    | nil => exact .last (spells_of_isPlain key) none none none
    | cons next rest =>
      exact .more (spells_of_isPlain key) none none none none (ih (List.cons_ne_nil _ _) others)

/-- An object, without blanks. -/
def writeObject (members : List (String × List Char)) : List Char := '\x7b' :: writeMembers members

theorem objectText_writeObject {members : List (String × List Char)} (filled : members ≠ [])
    (plain : ∀ member ∈ members, IsPlain member.1.toList) :
    ObjectText members (writeObject members) :=
  ⟨members, [], _, .refl _, nofun, membersText_writeMembers filled plain, rfl⟩

end Telematics.Json
