import Telematics.Text.Piece
import Telematics.Text.Quoted

/-!
Texts in which characters may be torn. A character beyond the first 65536 is a pair of code units,
and a document may give one half of a pair without the other. Such a text has no UTF-8 form, but
it is kept, compared and written like any other.

* `Letter`: a character, or half of a pair. `Letter.joined`: halves that meet become a character.
* `Letters`: a text, which is whole or torn. Every string is a whole text.
* `Letters.of`: the text of letters. `letters_of`: its letters are theirs, joined. `of_letters`: a
  text is that of its letters.
* `Letters.shown`, `Letters.quoted`: how a text is shown.
-/

namespace Telematics

/-- A letter of a text. -/
inductive Letter where
  | char (c : Char)
  /-- Half of a pair of code units, counted from the least one. The lower 1024 are first halves, the
      upper ones second halves. -/
  | half (unit : Fin 2048)
deriving DecidableEq, Repr

namespace Letter

/-- The least code unit that is half of a pair. -/
def leastHalf : Nat := 0xd800

/-- The code point of a letter. -/
def code : Letter → Nat
  | .char c => c.toNat
  | .half unit => leastHalf + unit

/-- The letter of a code unit. -/
def ofUnit (value : Nat) : Letter :=
  if half : leastHalf ≤ value ∧ value < leastHalf + 2048 then .half ⟨value - leastHalf, by omega⟩
  else .char (Char.ofNat value)

theorem ofUnit_of_whole {value : Nat} (whole : value < 0xd800 ∨ 0xdfff < value) :
    ofUnit value = .char (Char.ofNat value) := by
  refine dif_neg fun half => ?_
  simp only [leastHalf] at half
  omega

theorem ofUnit_half (unit : Fin 2048) : ofUnit (leastHalf + unit) = .half unit := by
  have within : leastHalf ≤ leastHalf + unit.val ∧ leastHalf + unit.val < leastHalf + 2048 := by
    omega
  rw [ofUnit, dif_pos within]
  exact congrArg half (Fin.ext (Nat.add_sub_cancel_left _ _))

/-- The letter is half of a pair. -/
def isHalf : Letter → Bool
  | .char _ => false
  | .half _ => true

/-- The character of a letter, or the replacement character. -/
def shown : Letter → Char
  | .char c => c
  | .half _ => Text.replacement

/-- The character of two letters that are the halves of a pair. -/
def join? : Letter → Letter → Option Char
  | .half first, .half second =>
    if first.val < 1024 ∧ 1024 ≤ second.val then
      some (Char.ofNat (0x10000 + first * 1024 + (second - 1024)))
    else none
  | _, _ => none

/-- Letters with the halves joined that meet. -/
def joined : List Letter → List Letter
  | one :: other :: rest =>
    match one.join? other with
    | some c => .char c :: joined rest
    | none => one :: joined (other :: rest)
  | letters => letters

@[simp] theorem join?_char_right (letter : Letter) (c : Char) : join? letter (.char c) = none := by
  cases letter <;> rfl

theorem joined_cons_of_char {letters : List Letter} (c : Char) :
    joined (.char c :: letters) = .char c :: joined letters := by
  cases letters <;> rfl

/-- What joining leaves in front is the first letter, or a character that it has become a part
    of. -/
theorem join?_head_joined {one other : Letter} (apart : one.join? other = none)
    (rest : List Letter) : ∃ head tail, joined (other :: rest) = head :: tail ∧
      one.join? head = none := by
  cases rest with
  | nil => exact ⟨other, [], rfl, apart⟩
  | cons next rest =>
    simp only [joined]
    cases other.join? next with
    | some c => exact ⟨.char c, _, rfl, join?_char_right one c⟩
    | none => exact ⟨other, _, rfl, apart⟩

/-- Fewer than two letters are left as they are. -/
theorem joined_of_short {letters : List Letter}
    (short : ∀ one other rest, letters = one :: other :: rest → False) :
    joined letters = letters := by
  cases letters with
  | nil => rfl
  | cons letter rest =>
    cases rest with
    | nil => rfl
    | cons other rest => exact (short _ _ _ rfl).elim

/-- Once joined, no halves meet. -/
theorem joined_joined (letters : List Letter) : joined (joined letters) = joined letters := by
  induction letters using joined.induct with
  | case1 one other rest c met ih =>
    simp only [joined, met]
    rw [joined_cons_of_char, ih]
  | case2 one other rest apart ih =>
    obtain ⟨head, tail, begun, still⟩ := join?_head_joined apart rest
    simp only [joined, apart]
    rw [begun] at ih ⊢
    simp only [joined, still, ih]
  | case3 letters short => rw [joined_of_short short, joined_of_short short]

theorem length_joined_le (letters : List Letter) : (joined letters).length ≤ letters.length := by
  induction letters using joined.induct with
  | case1 one other rest c met ih =>
    simp only [joined, met, List.length_cons]
    omega
  | case2 one other rest apart ih =>
    simp only [joined, apart, List.length_cons] at ih ⊢
    omega
  | case3 letters short => exact Nat.le_of_eq (congrArg List.length (joined_of_short short))

/-- Of letters that joining leaves as they are, none meets the next one. -/
theorem apart_of_joined_cons {letter : Letter} {rest : List Letter}
    (apart : joined (letter :: rest) = letter :: rest) :
    (∀ next ∈ rest.head?, letter.join? next = none) ∧ joined rest = rest := by
  cases rest with
  | nil => exact ⟨nofun, rfl⟩
  | cons next rest =>
    cases met : letter.join? next with
    | some c =>
      have shorter := length_joined_le rest
      simp only [joined, met] at apart
      have same := congrArg List.length (List.cons.inj apart).2
      rw [List.length_cons] at same
      omega
    | none =>
      simp only [joined, met] at apart
      refine ⟨fun other first => ?_, (List.cons.inj apart).2⟩
      cases first
      exact met

@[simp] theorem joined_map_char (text : List Char) : joined (text.map .char) = text.map .char := by
  induction text with
  | nil => rfl
  | cons c rest ih => rw [List.map_cons, joined_cons_of_char, ih]

/-- Letters without a half are characters. -/
theorem map_shown_of_whole {letters : List Letter} (whole : letters.any isHalf = false) :
    (letters.map shown).map .char = letters := by
  induction letters with
  | nil => rfl
  | cons letter rest ih =>
    rw [List.any_cons, Bool.or_eq_false_iff] at whole
    cases letter with
    | char c => rw [List.map_cons, List.map_cons, ih whole.2, shown]
    | half unit => cases whole.1

theorem any_isHalf_map_char (text : List Char) : (text.map Letter.char).any isHalf = false := by
  simp [List.any_eq_false, isHalf]

end Letter

/-- A text with at least one half in it. Halves that would make up a character do not meet. -/
structure Torn where
  letters : List Letter
  torn : letters.any Letter.isHalf = true
  apart : Letter.joined letters = letters
deriving DecidableEq, Repr

/-- A text. -/
inductive Letters where
  | whole (text : String)
  | torn (text : Torn)
deriving DecidableEq, Repr

namespace Letters

instance : Coe String Letters := ⟨.whole⟩

instance : Inhabited Letters := ⟨.whole ""⟩

/-- The letters of a text. -/
def letters : Letters → List Letter
  | .whole text => text.toList.map .char
  | .torn text => text.letters

theorem joined_letters (text : Letters) : Letter.joined text.letters = text.letters := by
  cases text with
  | whole text => exact Letter.joined_map_char _
  | torn text => exact text.apart

/-- The text of letters. -/
def of (letters : List Letter) : Letters :=
  if torn : (Letter.joined letters).any Letter.isHalf = true then
    .torn ⟨Letter.joined letters, torn, Letter.joined_joined letters⟩
  else .whole (String.ofList ((Letter.joined letters).map Letter.shown))

/-- A text that is whole. -/
def whole? : Letters → Option String
  | .whole text => some text
  | .torn _ => none

/-- A text with replacement characters for its halves. -/
def shown : Letters → String
  | .whole text => text
  | .torn text => String.ofList (text.letters.map Letter.shown)

/-- The written form of one letter of a text enclosed by `quote`. -/
def escapeLetter (quote : Char) : Letter → List Char
  | .char c => Text.escapeQuoted quote c
  | letter => '\\' :: 'u' :: Text.hexDigits 4 letter.code

/-- The quoted form of a text. -/
def quoted (text : Letters) : String :=
  let quote := Text.enclosingQuote text.shown.toList
  String.ofList (quote :: text.letters.flatMap (escapeLetter quote) ++ [quote])

/-- The text of a letter alone. -/
def alone : Letter → Letters
  | .char c => .whole (String.singleton c)
  | .half unit => .torn ⟨[.half unit], rfl, rfl⟩

@[simp] theorem shown_whole (text : String) : (Letters.whole text).shown = text := rfl

theorem letters_of (letters : List Letter) :
    (Letters.of letters).letters = Letter.joined letters := by
  unfold Letters.of
  split
  · rfl
  · rename_i whole
    rw [Letters.letters, String.toList_ofList,
      Letter.map_shown_of_whole (Bool.eq_false_iff.mpr whole)]

/-- A text is that of its letters. -/
@[simp] theorem of_letters (text : Letters) : Letters.of text.letters = text := by
  cases text with
  | whole text =>
    have whole : ¬ ((Letter.joined (text.toList.map .char)).any Letter.isHalf = true) := by
      rw [Letter.joined_map_char, Letter.any_isHalf_map_char]
      exact Bool.false_ne_true
    rw [Letters.letters, Letters.of, dif_neg whole, Letter.joined_map_char, List.map_map]
    exact congrArg Letters.whole ((congrArg String.ofList (List.map_id _)).trans
      String.ofList_toList)
  | torn text =>
    obtain ⟨letters, torn, apart⟩ := text
    have still : (Letter.joined letters).any Letter.isHalf = true := by rw [apart]; exact torn
    rw [Letters.letters, Letters.of, dif_pos still]
    simp only [apart]

/-- A whole text is quoted as a string is. -/
@[simp] theorem quoted_whole (text : String) : (Letters.whole text).quoted = Text.quoted text := by
  unfold Letters.quoted Text.quoted
  simp only [Letters.letters, Letters.shown, List.flatMap_map]
  rfl

end Letters

end Telematics
