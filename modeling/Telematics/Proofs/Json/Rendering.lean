import Mathlib.Data.List.Basic
import Telematics.Json.Printer
import Telematics.Proofs.Json.Layout
import Telematics.Proofs.Json.Members
import Telematics.Proofs.Json.Nesting
import Telematics.Proofs.Json.Spelling

/-!
Written documents are read back. A value is written as a document of which the strict reader makes
the same value, if there is no infinity and no not-a-number inside, and which it refuses otherwise
where it finds the first name of one. This is so as far as the reader goes at all: for integers of
so many digits, values of such a depth, and objects under distinct keys.

* `spells_escapeChar`: how characters are escaped. `spells_letters`: and texts.
* `Legible`: a value keeps the limits of the reader.
* `Ends`: reading ends with a value, or at the name of a number that is not finite.
* `reading_written`: a written value is read, as far as the fuel of the reader goes.
* `parse_render_iff`, `parse_render_of_not_strict`: a written document is read if it is strict.
-/

namespace Telematics.Json

open Number (decimal)

/-! ## Texts -/

/-- A code unit is written with the digits that tell it. -/
theorem hexNumber?_unit {code : Nat} (short : code < 0x10000) :
    Text.hexNumber? (Text.hexDigits 4 code) = some code := by
  rw [Text.hexNumber?_hexDigits]
  exact congrArg some (Nat.mod_eq_of_lt short)

/-- Beyond the first plane there are fewer than a million characters, and twenty bits tell them. -/
theorem toNat_lt (c : Char) : c.toNat < 0x110000 := by
  rcases c.valid with low | ⟨-, high⟩
  · exact Nat.lt_trans low (by decide)
  · exact high

/-- A character of the first plane that is no half of a pair is escaped by its code unit. -/
theorem spells_unitEscape {c : Char} (short : c.toNat < 0x10000) {spelled : List Char}
    {text : List Letter} (spells : Spells spelled text) :
    Spells (unitEscape c.toNat ++ spelled) (.char c :: text) := by
  have whole : c.toNat < 0xd800 ∨ 0xdfff < c.toNat := by
    rcases c.valid with low | ⟨high, -⟩
    · exact .inl low
    · exact .inr high
  have unit := Spells.unit (Text.length_hexDigits 4 c.toNat) (hexNumber?_unit short) whole spells
  rwa [Char.ofNat_toNat] at unit

/-- A character beyond the first plane is escaped by the two halves of a pair. -/
theorem spells_pairEscape {c : Char} (long : 0x10000 ≤ c.toNat) {spelled : List Char}
    {text : List Letter} (spells : Spells spelled text) :
    Spells (unitEscape (0xd800 + (c.toNat - 0x10000) / 1024) ++
      unitEscape (0xdc00 + (c.toNat - 0x10000) % 1024) ++ spelled) (.char c :: text) := by
  have most := toNat_lt c
  generalize rest : c.toNat - 0x10000 = above
  have high : 0xd800 + above / 1024 ≤ 0xdbff := by omega
  have low : 0xdc00 + above % 1024 ≤ 0xdfff := by omega
  have pair := Spells.pair (Text.length_hexDigits 4 _)
    (hexNumber?_unit (by omega : 0xd800 + above / 1024 < 0x10000)) (Nat.le_add_right _ _) high
    (Text.length_hexDigits 4 _)
    (hexNumber?_unit (by omega : 0xdc00 + above % 1024 < 0x10000)) (Nat.le_add_right _ _) low
    spells
  have code : 0x10000 + (0xd800 + above / 1024 - 0xd800) * 1024 +
      (0xdc00 + above % 1024 - 0xdc00) = c.toNat := by omega
  rw [code, Char.ofNat_toNat] at pair
  rw [List.append_assoc]
  exact pair

/-- A character is escaped as the reader expects it. -/
theorem spells_escapeChar (c : Char) {spelled : List Char} {text : List Letter}
    (spells : Spells spelled text) : Spells (escapeChar c ++ spelled) (.char c :: text) := by
  unfold escapeChar
  -- The seven short escapes come first.
  by_cases quote : c = '"'
  · rw [if_pos quote, quote]; exact .short rfl spells
  rw [if_neg quote]
  by_cases backslash : c = '\\'
  · rw [if_pos backslash, backslash]; exact .short rfl spells
  rw [if_neg backslash]
  by_cases lineFeed : c = '\n'
  · rw [if_pos lineFeed, lineFeed]; exact .short rfl spells
  rw [if_neg lineFeed]
  by_cases return_ : c = '\r'
  · rw [if_pos return_, return_]; exact .short rfl spells
  rw [if_neg return_]
  by_cases tab : c = '\t'
  · rw [if_pos tab, tab]; exact .short rfl spells
  rw [if_neg tab]
  by_cases backspace : c = '\x08'
  · rw [if_pos backspace, backspace]; exact .short rfl spells
  rw [if_neg backspace]
  by_cases formFeed : c = '\x0c'
  · rw [if_pos formFeed, formFeed]; exact .short rfl spells
  rw [if_neg formFeed]
  by_cases plain : 0x20 ≤ c.toNat ∧ c.toNat < 0x7f
  · rw [if_pos plain]
    exact .plain quote backslash plain.1 spells
  rw [if_neg plain]
  by_cases short : c.toNat < 0x10000
  · rw [if_pos short]
    exact spells_unitEscape short spells
  · rw [if_neg short]
    exact spells_pairEscape (Nat.not_lt.mp short) spells

/-- A text is escaped letter by letter. Its halves do not meet, so none is read with the next. -/
theorem spells_letters {letters : List Letter} (apart : Letter.joined letters = letters) :
    Spells (letters.flatMap escapeLetter) letters := by
  induction letters with
  | nil => exact .nil
  | cons letter rest ih =>
    obtain ⟨alone, others⟩ := Letter.apart_of_joined_cons apart
    rw [List.flatMap_cons]
    cases letter with
    | char c => exact spells_escapeChar c (ih others)
    | half unit =>
      have short : Letter.leastHalf + unit.val < 0x10000 := by
        simp only [Letter.leastHalf]
        omega
      exact .half (Text.length_hexDigits 4 _) (hexNumber?_unit short) alone (ih others)

theorem stringChars_append (text : Letters) (rest : List Char) :
    stringChars text ++ rest = '"' :: (text.letters.flatMap escapeLetter ++ '"' :: rest) := by
  rw [stringChars, List.append_assoc]
  rfl

/-! ## Limits -/

mutual

/-- A value keeps the limits of a reader that goes so deep: its integers have no more digits than
    the reader takes, its objects have distinct keys, and its lists and objects are not nested too
    deeply. -/
def Legible (depth : Nat) : Json → Prop
  | .int value => Number.IsShort value
  | .list items => 0 < depth ∧ ItemsLegible (depth - 1) items
  | .object members =>
    0 < depth ∧ (members.map Prod.fst).Nodup ∧ MembersLegible (depth - 1) members
  | _ => True

/-- Every item keeps the limits. -/
def ItemsLegible (depth : Nat) : List Json → Prop
  | [] => True
  | item :: rest => item.Legible depth ∧ ItemsLegible depth rest

/-- Every member keeps the limits. -/
def MembersLegible (depth : Nat) : List (Letters × Json) → Prop
  | [] => True
  | (_, value) :: rest => value.Legible depth ∧ MembersLegible depth rest

end

theorem IsScalar.legible {value : Json} (scalar : value.IsScalar) (depth : Nat) :
    value.Legible depth := by
  cases value with
  | int value => exact scalar
  | list items => exact absurd scalar id
  | object members => exact absurd scalar id
  | _ => exact trivial

theorem itemsLegible_of_forall {depth : Nat} {items : List Json}
    (each : ∀ item ∈ items, item.Legible depth) : ItemsLegible depth items := by
  induction items with
  | nil => exact trivial
  | cons item rest ih =>
    obtain ⟨first, others⟩ := List.forall_mem_cons.mp each
    exact ⟨first, ih others⟩

theorem membersLegible_of_forall {depth : Nat} {members : List (Letters × Json)}
    (each : ∀ member ∈ members, member.2.Legible depth) : MembersLegible depth members := by
  induction members with
  | nil => exact trivial
  | cons member rest ih =>
    obtain ⟨first, others⟩ := List.forall_mem_cons.mp each
    exact ⟨first, ih others⟩

/-- A flat object is as deep as any object. -/
theorem IsFlat.legible {value : Json} (flat : value.IsFlat) (depth : Nat) :
    value.Legible (depth + 1) := by
  obtain ⟨members, rfl, distinct, scalars⟩ := flat
  exact ⟨Nat.succ_pos depth, distinct,
    membersLegible_of_forall fun member present => (scalars member present).legible depth⟩

/-! ## Scalars -/

/-- Reading ends with a result, if what is read is strict, and otherwise at the name of a number
    that is not finite. -/
inductive Ends {α : Type} (strict : Bool) (result : α) : Except Stop α → Prop where
  | read : strict = true → Ends strict result (.ok result)
  | constant {name : String} : strict = false → Ends strict result (.error (.constant name))

/-- A finite number is written as a numeral. -/
theorem exists_numeral_floatChars {number : Binary64} (finite : number.isFinite = true) :
    ∃ n : Numeral, n.chars = floatChars number ∧ n.isIntegral = false ∧ n.value = number := by
  obtain ⟨n, text, pointed, value⟩ := exists_numeral_toText finite
  refine ⟨n, ?_, pointed, value⟩
  rw [text]
  cases number with
  | finite => rfl
  | _ => cases finite

section Scalars

variable {rest : List Char} (stops : Stops continues rest) (fuel depth : Nat)

include stops

theorem takeValue_decimal {value : Int} (few : Number.IsShort value) :
    takeValue false (fuel + 1) depth ((decimal value).toList ++ rest) = .ok (.int value, rest) := by
  rw [← Numeral.chars_ofInt, takeValue_chars _ stops, if_pos (Numeral.isIntegral_ofInt value),
    Numeral.readInteger_text _ (Numeral.isIntegral_ofInt value) few, Numeral.integer_ofInt]

/-- A finite number is read back, and the name of another one is refused. -/
theorem takeValue_floatChars (number : Binary64) :
    Ends number.isFinite (Json.float number, rest)
      (takeValue false (fuel + 1) depth (floatChars number ++ rest)) := by
  cases finite : number.isFinite with
  | true =>
    obtain ⟨n, same, pointed, value⟩ := exists_numeral_floatChars finite
    rw [← same, takeValue_chars n stops, pointed, if_neg Bool.false_ne_true, value]
    exact .read rfl
  | false =>
    cases number with
    | nan => exact .constant rfl
    | infinite negative => cases negative <;> exact .constant rfl
    | finite => cases finite

end Scalars

/-! ## Values -/

section Written

variable (rest : List Char)

theorem renderOnto_int (value : Int) :
    renderOnto rest (.int value) = (decimal value).toList ++ rest := rfl

theorem renderOnto_float (value : Binary64) :
    renderOnto rest (.float value) = floatChars value ++ rest := rfl

theorem renderOnto_text (value : Letters) :
    renderOnto rest (.text value) = '"' :: (value.letters.flatMap escapeLetter ++ '"' :: rest) :=
  stringChars_append value rest

theorem renderOnto_list (items : List Json) :
    renderOnto rest (.list items) = '[' :: renderItems (']' :: rest) items := rfl

theorem renderOnto_object (members : List (Letters × Json)) :
    renderOnto rest (.object members) = '\x7b' :: renderMembers ('\x7d' :: rest) members := rfl

theorem renderItems_singleton (item : Json) : renderItems rest [item] = renderOnto rest item := rfl

theorem renderItems_cons (item next : Json) (items : List Json) :
    renderItems rest (item :: next :: items) =
      renderOnto (',' :: ' ' :: renderItems rest (next :: items)) item := rfl

theorem renderMembers_singleton (key : Letters) (value : Json) :
    renderMembers rest [(key, value)] = stringChars key ++ ':' :: ' ' :: renderOnto rest value :=
  rfl

theorem renderMembers_cons (key : Letters) (value : Json) (next : Letters × Json)
    (members : List (Letters × Json)) :
    renderMembers rest ((key, value) :: next :: members) =
      stringChars key ++ ':' :: ' ' ::
        renderOnto (',' :: ' ' :: renderMembers rest (next :: members)) value := rfl

end Written

/-- A character that begins neither a blank nor the end of a list, and marks no byte order. -/
def Opens (c : Char) : Prop := isGap c = false ∧ c ≠ ']' ∧ c ≠ '\uFEFF'

instance (c : Char) : Decidable (Opens c) :=
  inferInstanceAs (Decidable (isGap c = false ∧ c ≠ ']' ∧ c ≠ '\uFEFF'))

theorem IsNumeralChar.opens {c : Char} (among : IsNumeralChar c) : Opens c := by
  refine ⟨isGap_eq_false among.visible.1, ?_, ?_⟩
  all_goals
    rintro rfl
    exact absurd among (by unfold IsNumeralChar; decide)

theorem renderOnto_begins (rest : List Char) (value : Json) :
    ∃ c tail, renderOnto rest value = c :: tail ∧ Opens c := by
  have numeral : ∀ n : Numeral, ∃ c tail, n.chars ++ rest = c :: tail ∧ Opens c := by
    intro n
    obtain ⟨c, tail, same, first⟩ := n.exists_chars
    exact ⟨c, tail ++ rest, by rw [same]; rfl, first.opens⟩
  cases value with
  | int value =>
    rw [renderOnto_int, ← Numeral.chars_ofInt]
    exact numeral _
  | float value =>
    rw [renderOnto_float]
    cases finite : value.isFinite with
    | true =>
      obtain ⟨n, same, -⟩ := exists_numeral_floatChars finite
      rw [← same]
      exact numeral n
    | false =>
      cases value with
      | nan => exact ⟨_, _, rfl, by decide⟩
      | infinite negative => cases negative <;> exact ⟨_, _, rfl, by decide⟩
      | finite => cases finite
  | bool value => cases value <;> exact ⟨_, _, rfl, by decide⟩
  | _ => exact ⟨_, _, rfl, by decide⟩

theorem stops_renderOnto (rest : List Char) (value : Json) :
    Stops isGap (renderOnto rest value) := by
  obtain ⟨c, tail, same, opens⟩ := renderOnto_begins rest value
  rw [same]
  exact stops_cons opens.1

/-- Items begin as the first of them does. -/
theorem renderItems_begins (rest : List Char) (item : Json) (items : List Json) :
    ∃ c tail, renderItems rest (item :: items) = c :: tail ∧ Opens c := by
  cases items with
  | nil => exact renderOnto_begins rest item
  | cons next items => exact renderOnto_begins _ item

/-- Members begin with the quote of a key. -/
theorem renderMembers_begins (rest : List Char) (member : Letters × Json)
    (members : List (Letters × Json)) :
    ∃ tail, renderMembers rest (member :: members) = '"' :: tail := by
  cases members <;> exact ⟨_, rfl⟩

theorem skipGap_of_begins {c : Char} {text tail : List Char} (begins : text = c :: tail)
    (ink : isGap c = false) : skipGap text = text := by
  rw [begins]
  exact skipGap_of_not_isGap ink tail

theorem skipGap_blank {text : List Char} (skipped : skipGap text = text) :
    skipGap (' ' :: text) = text := by
  show skipGap text = text
  exact skipped

section Steps

variable {strict others : Bool} {value : Json} {fuel depth : Nat} {text next rest : List Char}

/-- The last item of a list is read. -/
theorem takeItems_last {read : List Json}
    (valued : Ends strict (value, ']' :: rest) (takeValue false fuel depth text)) :
    Ends strict (.list (read.reverse ++ [value]), rest)
      (takeItems false (fuel + 1) depth read text) := by
  rw [takeItems]
  generalize takeValue false fuel depth text = result at valued
  cases valued with
  | read yes =>
    rw [← List.reverse_cons]
    exact .read yes
  | constant no => exact .constant no

/-- An item of a list is read with those behind it. -/
theorem takeItems_more {α : Json × List Char} {read : List Json}
    (valued : Ends strict (value, ',' :: ' ' :: next) (takeValue false fuel depth text))
    (begins : skipGap next = next)
    (further : IsBehind (',' :: ' ' :: next) text →
      Ends others α (takeItems false fuel depth (value :: read) next)) :
    Ends (strict && others) α (takeItems false (fuel + 1) depth read text) := by
  have behind : takeValue false fuel depth text = .ok (value, ',' :: ' ' :: next) →
      IsBehind (',' :: ' ' :: next) text :=
    ((reading_bounded false fuel).1 depth text).behind
  rw [takeItems]
  generalize takeValue false fuel depth text = result at valued behind
  cases valued with
  | read yes =>
    have comma : skipGap (',' :: ' ' :: next) = ',' :: ' ' :: next := rfl
    have left := further (behind rfl)
    simp only [comma, skipGap_blank begins, yes, Bool.true_and]
    exact left
  | constant no =>
    rw [no]
    exact .constant rfl

/-- Behind its key a member is read as its value is. -/
theorem takeMembers_stringChars (ink : Stops isGap text) (key : Letters) (fuel depth : Nat)
    (read : Members) :
    takeMembers false (fuel + 1) depth read (stringChars key ++ ':' :: ' ' :: text) =
      match takeValue false fuel depth text with
      | .error stop => .error stop
      | .ok (value, rest) => takeFurther fuel depth (read.put key value) (skipGap rest) := by
  have none : AreGaps [] := nofun
  have blank : AreGaps [' '] := fun c among => by
    rw [List.mem_singleton.mp among]
    rfl
  rw [stringChars_append]
  exact takeMembers_key (spells_letters key.joined_letters) none blank ink fuel depth read

/-- The last member of an object is read. -/
theorem takeMembers_last {key : Letters} {read : Members}
    (valued : Ends strict (value, '\x7d' :: rest) (takeValue false fuel depth text))
    (ink : Stops isGap text) (new : key ∉ read.map Prod.fst) :
    Ends strict (.object (read ++ [(key, value)]), rest)
      (takeMembers false (fuel + 1) depth read (stringChars key ++ ':' :: ' ' :: text)) := by
  rw [takeMembers_stringChars ink]
  generalize takeValue false fuel depth text = result at valued
  cases valued with
  | read yes =>
    rw [← Members.put_of_not_mem new]
    exact .read yes
  | constant no => exact .constant no

/-- A member of an object is read with those behind it. -/
theorem takeMembers_more {α : Json × List Char} {key : Letters} {read : Members}
    (valued : Ends strict (value, ',' :: ' ' :: next) (takeValue false fuel depth text))
    (ink : Stops isGap text) (new : key ∉ read.map Prod.fst) (begins : skipGap next = next)
    (further : IsBehind (',' :: ' ' :: next) text →
      Ends others α (takeMembers false fuel depth (read ++ [(key, value)]) next)) :
    Ends (strict && others) α
      (takeMembers false (fuel + 1) depth read (stringChars key ++ ':' :: ' ' :: text)) := by
  have behind : takeValue false fuel depth text = .ok (value, ',' :: ' ' :: next) →
      IsBehind (',' :: ' ' :: next) text :=
    ((reading_bounded false fuel).1 depth text).behind
  rw [takeMembers_stringChars ink]
  generalize takeValue false fuel depth text = result at valued behind
  cases valued with
  | read yes =>
    have comma : skipGap (',' :: ' ' :: next) = ',' :: ' ' :: next := rfl
    have left := further (behind rfl)
    simp only [comma, takeFurther, skipGap_blank begins, Members.put_of_not_mem new, yes,
      Bool.true_and]
    exact left
  | constant no =>
    rw [no]
    exact .constant rfl

/-- A list is read with its items. -/
theorem takeValue_items {α : Json × List Char} {c : Char} {tail : List Char} (opens : Opens c)
    (depth : Nat)
    (inner : Ends strict α (takeItems false fuel depth [] (c :: tail))) :
    Ends strict α (takeValue false (fuel + 1) (depth + 1) ('[' :: c :: tail)) := by
  rw [takeValue]
  simp only [skipGap_of_not_isGap opens.1]
  split
  · rename_i same
    exact absurd (List.cons.inj same).1 opens.2.1
  · exact inner

/-- An object is read with its members. -/
theorem takeValue_members {α : Json × List Char} {tail : List Char} (depth : Nat)
    (inner : Ends strict α (takeMembers false fuel depth [] ('"' :: tail))) :
    Ends strict α (takeValue false (fuel + 1) (depth + 1) ('\x7b' :: '"' :: tail)) := by
  rw [takeValue]
  exact inner

end Steps

/-- Written values are read, if the bound on the recursion is so great. -/
def ReadsValues (fuel : Nat) : Prop :=
  ∀ (value : Json) (depth : Nat) (rest : List Char), value.Legible depth → Stops continues rest →
    2 * (renderOnto rest value).length + 1 ≤ fuel →
    Ends value.isStrict (value, rest) (takeValue false fuel depth (renderOnto rest value))

/-- Written items are read up to the end of their list, if the bound is so great. -/
def ReadsItems (fuel : Nat) : Prop :=
  ∀ (item : Json) (items : List Json) (depth : Nat) (read : List Json) (rest : List Char),
    ItemsLegible depth (item :: items) →
    2 * (renderItems (']' :: rest) (item :: items)).length + 2 ≤ fuel →
    Ends (areStrict (item :: items)) (.list (read.reverse ++ item :: items), rest)
      (takeItems false fuel depth read (renderItems (']' :: rest) (item :: items)))

/-- Written members are read up to the end of their object, if the bound is so great. -/
def ReadsMembers (fuel : Nat) : Prop :=
  ∀ (member : Letters × Json) (members : List (Letters × Json)) (depth : Nat) (read : Members)
    (rest : List Char), MembersLegible depth (member :: members) →
    ((read ++ member :: members).map Prod.fst).Nodup →
    2 * (renderMembers ('\x7d' :: rest) (member :: members)).length + 2 ≤ fuel →
    Ends (membersStrict (member :: members)) (.object (read ++ member :: members), rest)
      (takeMembers false fuel depth read (renderMembers ('\x7d' :: rest) (member :: members)))

section Recursion

variable {fuel : Nat}

theorem readsValues_succ (readsItems : ReadsItems fuel) (readsMembers : ReadsMembers fuel) :
    ReadsValues (fuel + 1) := by
  intro value depth rest legible stops enough
  cases value with
  | null => exact .read rfl
  | bool value => cases value <;> exact .read rfl
  | int value =>
    rw [renderOnto_int, takeValue_decimal stops fuel depth legible]
    exact .read rfl
  | float number => exact takeValue_floatChars stops fuel depth number
  | text value =>
    rw [renderOnto_text]
    simp only [takeValue, takeString_quoted (spells_letters value.joined_letters)]
    exact .read rfl
  | list items =>
    obtain ⟨positive, each⟩ := legible
    obtain ⟨depth, rfl⟩ := Nat.exists_eq_succ_of_ne_zero (Nat.ne_of_gt positive)
    cases items with
    | nil => exact .read rfl
    | cons item items =>
      rw [renderOnto_list, List.length_cons] at enough
      obtain ⟨c, tail, begins, opens⟩ := renderItems_begins (']' :: rest) item items
      have inner := readsItems item items depth [] rest each (by omega)
      rw [renderOnto_list, begins]
      rw [begins] at inner
      exact takeValue_items opens depth inner
  | object members =>
    obtain ⟨positive, distinct, each⟩ := legible
    obtain ⟨depth, rfl⟩ := Nat.exists_eq_succ_of_ne_zero (Nat.ne_of_gt positive)
    cases members with
    | nil => exact .read rfl
    | cons member members =>
      rw [renderOnto_object, List.length_cons] at enough
      obtain ⟨tail, begins⟩ := renderMembers_begins ('\x7d' :: rest) member members
      have inner := readsMembers member members depth [] rest each distinct (by omega)
      rw [renderOnto_object, begins]
      rw [begins] at inner
      exact takeValue_members depth inner

theorem readsItems_succ (readsValues : ReadsValues fuel) (readsItems : ReadsItems fuel) :
    ReadsItems (fuel + 1) := by
  intro item items depth read rest legible enough
  obtain ⟨first, others⟩ := legible
  cases items with
  | nil =>
    rw [areStrict, areStrict, Bool.and_true]
    rw [renderItems_singleton] at enough
    exact takeItems_last (readsValues item depth _ first (stops_cons rfl) (by omega))
  | cons next items =>
    rw [renderItems_cons] at enough ⊢
    obtain ⟨c, tail, begins, opens⟩ := renderItems_begins (']' :: rest) next items
    have valued := readsValues item depth (',' :: ' ' :: renderItems (']' :: rest) (next :: items))
      first (stops_cons rfl) (by omega)
    rw [areStrict]
    refine takeItems_more valued (skipGap_of_begins begins opens.1) fun behind => ?_
    have shorter := behind.shorter
    rw [List.length_cons, List.length_cons] at shorter
    have inner := readsItems next items depth (item :: read) rest others (by omega)
    rwa [List.reverse_cons, List.append_assoc] at inner

theorem readsMembers_succ (readsValues : ReadsValues fuel) (readsMembers : ReadsMembers fuel) :
    ReadsMembers (fuel + 1) := by
  rintro ⟨key, value⟩ members depth read rest legible distinct enough
  obtain ⟨first, others⟩ := legible
  have new : key ∉ read.map Prod.fst := by
    intro present
    rw [List.map_append, List.nodup_append] at distinct
    exact distinct.2.2 key present key List.mem_cons_self rfl
  cases members with
  | nil =>
    rw [membersStrict, membersStrict, Bool.and_true]
    rw [renderMembers_singleton, List.length_append, List.length_cons, List.length_cons] at enough
    exact takeMembers_last (readsValues value depth _ first (stops_cons rfl) (by omega))
      (stops_renderOnto _ value) new
  | cons next members =>
    rw [renderMembers_cons] at enough ⊢
    rw [List.length_append, List.length_cons, List.length_cons] at enough
    obtain ⟨tail, begins⟩ := renderMembers_begins ('\x7d' :: rest) next members
    have valued := readsValues value depth
      (',' :: ' ' :: renderMembers ('\x7d' :: rest) (next :: members)) first (stops_cons rfl)
      (by omega)
    rw [membersStrict]
    refine takeMembers_more valued (stops_renderOnto _ value) new (skipGap_of_begins begins rfl)
      fun behind => ?_
    have shorter := behind.shorter
    rw [List.length_cons, List.length_cons] at shorter
    have inner := readsMembers next members depth (read ++ [(key, value)]) rest others
      (by rwa [List.append_assoc]) (by omega)
    rwa [List.append_assoc] at inner

/-- What is written is read, by induction on the bound on the recursion. -/
theorem reading_written (fuel : Nat) : ReadsValues fuel ∧ ReadsItems fuel ∧ ReadsMembers fuel := by
  induction fuel with
  | zero =>
    refine ⟨fun _ _ _ _ _ enough => ?_, fun _ _ _ _ _ _ enough => ?_,
      fun _ _ _ _ _ _ _ enough => ?_⟩
    all_goals exact absurd enough (by omega)
  | succ fuel ih =>
    obtain ⟨values, items, members⟩ := ih
    exact ⟨readsValues_succ items members, readsItems_succ values items,
      readsMembers_succ values members⟩

end Recursion

/-! ## Documents -/

section Documents

variable {value : Json} {depth : Nat}

/-- A written document is read in full, or refused at the name of a number that is not finite. -/
theorem takeDocument_render (legible : value.Legible depth) :
    Ends value.isStrict value (takeDocument false depth (render value).toList) := by
  obtain ⟨c, tail, begins, opens⟩ := renderOnto_begins [] value
  have unmarked : (renderOnto [] value).head? ≠ some '\uFEFF' := by
    rw [begins]
    exact fun marked => opens.2.2 (Option.some.inj marked)
  have ends := (reading_written (2 * (renderOnto [] value).length + 2)).1 value depth []
    legible (stops_nil _) (by omega)
  rw [render, String.toList_ofList, takeDocument_eq unmarked, skipGap_of_begins begins opens.1]
  generalize takeValue false (2 * (renderOnto [] value).length + 2) depth
    (renderOnto [] value) = result at ends
  cases ends with
  | read yes => exact .read yes
  | constant no => exact .constant no

/-- A written document is read as the value that was written, if and only if there is no infinity
    and no not-a-number inside. -/
theorem parse_render_iff (legible : value.Legible depth) :
    parse false depth (render value).toList = .ok value ↔ value.isStrict = true := by
  have ends := takeDocument_render legible
  unfold parse
  generalize takeDocument false depth (render value).toList = result at ends
  cases ends with
  | read yes => exact iff_of_true rfl yes
  | constant no => exact iff_of_false nofun (Bool.eq_false_iff.mp no)

/-- Otherwise the reader refuses the name of a number. -/
theorem parse_render_of_not_strict (legible : value.Legible depth)
    (loose : value.isStrict = false) :
    ∃ name, parse false depth (render value).toList = .error (.constant name) := by
  have ends := takeDocument_render legible
  unfold parse
  generalize takeDocument false depth (render value).toList = result at ends
  cases ends with
  | read yes => cases yes.symm.trans loose
  | @constant name _ => exact ⟨name, rfl⟩

end Documents

end Telematics.Json
