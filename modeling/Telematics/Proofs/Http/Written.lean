import Mathlib.Data.List.Nodup
import Mathlib.Data.List.TakeDrop
import Mathlib.Data.List.TakeWhile
import Telematics.Http.Request
import Telematics.Proofs.Text.RoundTrip

/-!
Fields that are written into a form, and read back. Keys and values are written with escapes, and
every mark that separates fields is escaped.

* `FormText`: how fields are written. `FormText.readForm`, `FormText.readFormBytes`: they are read
  back.
* `writeForm`, `formText_writeForm`: a writer that writes fields so.
* `grouped_of_nodup`: fields with distinct keys are handled in the order in which they are written.
-/

namespace Telematics

/-! ## Parts between separators -/

namespace Text

variable {α : Type} [DecidableEq α] {separator : α}

theorem splitOn_cons_of_ne {c : α} (other : c ≠ separator) (text : List α) :
    ∃ first others, splitOn separator text = first :: others ∧
      splitOn separator (c :: text) = (c :: first) :: others := by
  cases parts : splitOn separator text with
  | nil => exact absurd parts (splitOn_ne_nil separator text)
  | cons first others =>
    refine ⟨first, others, rfl, ?_⟩
    rw [splitOn, List.foldr_cons, if_neg other, ← splitOn, parts]

/-- A part without separators stands in front of the first separator. -/
theorem splitOn_append_cons {front : List α} (clean : separator ∉ front) (rest : List α) :
    splitOn separator (front ++ separator :: rest) = front :: splitOn separator rest := by
  induction front with
  | nil => exact if_pos rfl
  | cons c front ih =>
    obtain ⟨other, clean⟩ := not_or.mp (mt List.mem_cons.mpr clean)
    obtain ⟨first, others, parts, whole⟩ :=
      splitOn_cons_of_ne (Ne.symm other) (front ++ separator :: rest)
    rw [ih clean] at parts
    cases parts
    exact whole

theorem splitOn_of_notMem {text : List α} (clean : separator ∉ text) :
    splitOn separator text = [text] := by
  induction text with
  | nil => rfl
  | cons c text ih =>
    obtain ⟨other, clean⟩ := not_or.mp (mt List.mem_cons.mpr clean)
    obtain ⟨first, others, parts, whole⟩ := splitOn_cons_of_ne (Ne.symm other) text
    rw [ih clean] at parts
    cases parts
    exact whole

/-- Parts without separators are what stands between the separators. -/
theorem splitOn_intercalate {parts : List (List α)} (filled : parts ≠ [])
    (clean : ∀ part ∈ parts, separator ∉ part) :
    splitOn separator ([separator].intercalate parts) = parts := by
  induction parts with
  | nil => exact absurd rfl filled
  | cons part rest ih =>
    obtain ⟨first, others⟩ := List.forall_mem_cons.mp clean
    cases rest with
    | nil => rw [List.intercalate_singleton, splitOn_of_notMem first]
    | cons next rest =>
      rw [List.intercalate_cons_cons, List.append_assoc]
      show splitOn separator (part ++ separator :: [separator].intercalate (next :: rest)) = _
      rw [splitOn_append_cons first, ih (List.cons_ne_nil _ _) others]

theorem bne_of_notMem {mark : Char} {text : List Char} (clean : mark ∉ text) :
    ∀ c ∈ text, (c != mark) = true :=
  fun _ among => bne_iff_ne.mpr fun same => clean (same ▸ among)

theorem splitFirst_append_cons {mark : Char} {front : List Char} (clean : mark ∉ front)
    (rest : List Char) : splitFirst mark (front ++ mark :: rest) = (front, some rest) := by
  have passed := bne_of_notMem clean
  rw [splitFirst, List.span_eq_takeWhile_dropWhile, List.takeWhile_append_of_pos passed,
    List.dropWhile_append_of_pos passed, List.takeWhile_cons_of_neg (by simp),
    List.dropWhile_cons_of_neg (by simp), List.append_nil]

/-- What stands before a mark, or the whole text if it has none. -/
theorem splitFirst_fst (mark : Char) (text : List Char) :
    (splitFirst mark text).1 = text.takeWhile (· != mark) := by
  rw [splitFirst, List.span_eq_takeWhile_dropWhile]
  cases text.dropWhile (· != mark) <;> rfl

theorem splitFirst_of_notMem {mark : Char} {text : List Char} (clean : mark ∉ text) :
    splitFirst mark text = (text, none) := by
  have passed := bne_of_notMem clean
  rw [splitFirst, List.span_eq_takeWhile_dropWhile, List.takeWhile_eq_self_iff.mpr passed,
    List.dropWhile_eq_nil_iff.mpr passed]

end Text

namespace Http

/-! ## Written fields -/

/-- A key or a value, as it is written into a form: with escapes, in which a plus sign stands for a
    space, and without the marks of a form. -/
structure PartText (part : String) (text : List Char) : Prop where
  escapes : Text.Escapes (Text.utf8Bytes part.toList) (text.map plusToSpace)
  ampersand : '&' ∉ text
  equals : '=' ∉ text

/-- A field, as it is written into a form. -/
def FieldText (field : Field) (text : List Char) : Prop :=
  ∃ key value, PartText field.1 key ∧ PartText field.2 value ∧ text = key ++ '=' :: value

/-- Fields, as they are written into a form, with ampersands between them. -/
inductive FormText : List Field → List Char → Prop where
  | nil : FormText [] []
  | one {field : Field} {text : List Char} : FieldText field text → FormText [field] text
  | more {field next : Field} {fields : List Field} {front text : List Char} :
      FieldText field front → FormText (next :: fields) text →
      FormText (field :: next :: fields) (front ++ '&' :: text)

theorem PartText.unescapeField {part : String} {text : List Char} (written : PartText part text) :
    unescapeField .utf8 text = .ok part := by
  rw [Http.unescapeField, Text.percentDecode_of_escapes written.escapes]
  exact congrArg Except.ok String.ofList_toList

/-- What is written with escapes is ASCII. -/
theorem PartText.ascii {part : String} {text : List Char} (written : PartText part text) :
    ∀ c ∈ text, c.toNat < 0x80 := by
  intro c among
  have plain := written.escapes.ascii (plusToSpace c) (List.mem_map_of_mem among)
  unfold plusToSpace at plain
  split at plain
  · rename_i plus
    rw [plus]
    decide
  · exact plain

section FieldText

variable {field : Field} {text : List Char}

theorem FieldText.ascii (written : FieldText field text) : ∀ c ∈ text, c.toNat < 0x80 := by
  obtain ⟨key, value, one, two, rfl⟩ := written
  exact List.forall_mem_append.mpr ⟨one.ascii, List.forall_mem_cons.mpr ⟨by decide, two.ascii⟩⟩

theorem FieldText.notMem (written : FieldText field text) : '&' ∉ text := by
  obtain ⟨key, value, one, two, rfl⟩ := written
  rw [List.mem_append, List.mem_cons]
  rintro (among | same | among)
  · exact one.ampersand among
  · exact absurd same (by decide)
  · exact two.ampersand among

theorem FieldText.readField (written : FieldText field text) :
    readField .utf8 true text = .ok (some field) := by
  obtain ⟨key, value, one, two, rfl⟩ := written
  have filled : key ++ '=' :: value ≠ [] := by simp
  rw [Http.readField, if_neg filled, Text.splitFirst_append_cons one.equals]
  dsimp only [Option.getD]
  rw [if_neg (by simp), one.unescapeField, two.unescapeField]
  rfl

end FieldText

section FormText

variable {fields : List Field} {text : List Char}

/-- Between the ampersands of a form there are its fields. -/
theorem FormText.splitOn (written : FormText fields text) (filled : fields ≠ []) :
    List.Forall₂ FieldText fields (Text.splitOn '&' text) := by
  induction written with
  | nil => exact absurd rfl filled
  | one field =>
    rw [Text.splitOn_of_notMem field.notMem]
    exact .cons field .nil
  | more field _ ih =>
    rw [Text.splitOn_append_cons field.notMem]
    exact .cons field (ih (List.cons_ne_nil _ _))

/-- A form is written in ASCII. -/
theorem FormText.ascii (written : FormText fields text) : ∀ c ∈ text, c.toNat < 0x80 := by
  induction written with
  | nil => exact nofun
  | one field => exact field.ascii
  | more field _ ih =>
    exact List.forall_mem_append.mpr ⟨field.ascii, List.forall_mem_cons.mpr ⟨by decide, ih⟩⟩

theorem mapM_readField {texts : List (List Char)} (written : List.Forall₂ FieldText fields texts) :
    texts.mapM (readField .utf8 true) = .ok (fields.map some) := by
  induction written with
  | nil => rfl
  | cons field _ ih =>
    rw [List.mapM_cons, field.readField, ih]
    rfl

/-- Written fields are read back, if they are not too many. -/
theorem FormText.readForm (written : FormText fields text) (few : fields.length ≤ fieldLimit) :
    readForm .utf8 text = .ok fields := by
  by_cases empty : fields = []
  · subst empty
    cases written
    rfl
  have parts := written.splitOn empty
  have limit : hasTooManyFields text = false := by
    have counted := Text.length_splitOn '&' text
    rw [← parts.length_eq] at counted
    exact decide_eq_false (by omega)
  rw [Http.readForm, limit, if_neg Bool.false_ne_true, readFields, mapM_readField parts]
  show Except.ok ((fields.map some).filterMap id) = _
  rw [List.filterMap_map]
  exact congrArg Except.ok List.filterMap_some

/-- Written fields are read back from bytes. -/
theorem FormText.readFormBytes (written : FormText fields text)
    (few : fields.length ≤ fieldLimit) :
    readFormBytes .utf8 (Text.utf8Bytes text) = .ok fields := by
  rw [Http.readFormBytes, Text.readOrLatin1_utf8Bytes]
  exact written.readForm few

end FormText

/-! ## The writer of forms -/

/-- The marks of a form are none of the characters that stay. -/
structure EscapesMarks (keep : Char → Bool) : Prop where
  percent : keep '%' = false
  ampersand : keep '&' = false
  equals : keep '=' = false
  plus : keep '+' = false

/-- The letters and digits are no marks of a form. -/
theorem escapesMarks_isAlphanum : EscapesMarks Char.isAlphanum :=
  ⟨by decide, by decide, by decide, by decide⟩

/-- A field, with escapes for all characters but those of a class. -/
def writeField (keep : Char → Bool) (field : Field) : List Char :=
  Text.percentEncode keep field.1.toList ++ '=' :: Text.percentEncode keep field.2.toList

/-- A form, with escapes for all characters but those of a class. -/
def writeForm (keep : Char → Bool) : List Field → List Char
  | [] => []
  | [field] => writeField keep field
  | field :: rest => writeField keep field ++ '&' :: writeForm keep rest

section Writer

variable {keep : Char → Bool} (escapes : EscapesMarks keep)

include escapes

theorem partText_percentEncode (part : String) :
    PartText part (Text.percentEncode keep part.toList) := by
  have plus := Text.notMem_percentEncode escapes.plus (by decide) (by decide) part.toList
  have same : (Text.percentEncode keep part.toList).map plusToSpace =
      Text.percentEncode keep part.toList := by
    refine (List.map_congr_left fun c among => ?_).trans (List.map_id _)
    exact if_neg fun same : c = '+' => plus (same ▸ among)
  refine ⟨?_, Text.notMem_percentEncode escapes.ampersand (by decide) (by decide) _,
    Text.notMem_percentEncode escapes.equals (by decide) (by decide) _⟩
  rw [same]
  exact Text.escapes_percentEncode escapes.percent _

/-- The writer of forms writes the fields. -/
theorem formText_writeForm (fields : List Field) : FormText fields (writeForm keep fields) := by
  have written : ∀ field, FieldText field (writeField keep field) := fun field =>
    ⟨_, _, partText_percentEncode escapes field.1, partText_percentEncode escapes field.2, rfl⟩
  induction fields with
  | nil => exact .nil
  | cons field rest ih =>
    cases rest with
    | nil => exact .one (written field)
    | cons next rest => exact .more (written field) ih

end Writer

/-! ## Handling order -/

theorem firstKeys_of_nodup {fields : List Field} (distinct : (fields.map Prod.fst).Nodup) :
    firstKeys fields = fields.map Prod.fst := by
  induction fields with
  | nil => rfl
  | cons field rest ih =>
    obtain ⟨new, distinct⟩ := List.nodup_cons.mp distinct
    rw [firstKeys, ih distinct, List.map_cons]
    refine congrArg _ (List.filter_eq_self.mpr fun key among => ?_)
    exact decide_eq_true fun same => new (same ▸ among)

/-- Fields with distinct keys are handled in the order in which they are written. -/
theorem grouped_of_nodup {fields : List Field} (distinct : (fields.map Prod.fst).Nodup) :
    grouped fields = fields := by
  rw [grouped, firstKeys_of_nodup distinct]
  induction fields with
  | nil => rfl
  | cons field rest ih =>
    obtain ⟨new, others⟩ := List.nodup_cons.mp distinct
    have alone : (field :: rest).filter (·.1 = field.1) = [field] := by
      rw [List.filter_cons_of_pos (by simp)]
      refine congrArg _ (List.filter_eq_nil_iff.mpr fun other among same => new ?_)
      exact List.mem_map.mpr ⟨other, among, of_decide_eq_true same⟩
    have skipped : ∀ key ∈ rest.map Prod.fst,
        (field :: rest).filter (·.1 = key) = rest.filter (·.1 = key) := fun key among =>
      List.filter_cons_of_neg (by simpa using fun same : field.1 = key => new (same ▸ among))
    rw [List.map_cons, List.flatMap_cons, alone, List.flatMap_congr skipped, ih others]
    rfl

end Http

end Telematics
