import Telematics.Http.Form
import Telematics.Proofs.Text.Utf8

/-!
Forms that tell no encoding. They are read in UTF-8, and then every field can be read, so the number
of fields is all that can be wrong. It is told by the ampersands among the bytes.

* `fieldCount`: the number of fields in the bytes of a form, empty ones included.
* `readForm_utf8`: a form of characters is read, or has too many fields.
* `readFormBytes_utf8`: a form of bytes is read, or has too many fields.
* `readFields_withoutBlanks`: where blank fields are dropped, those with a value are read.
-/

namespace Telematics.Http

open Text (Charset)

/-- The byte between two fields. -/
def ampersand : UInt8 := Text.plainByte '&'

theorem isPlain_ampersand : Text.IsPlain '&' := ⟨by decide, by decide⟩

/-- The number of fields in the bytes of a form, one more than ampersands. -/
def fieldCount (bytes : List UInt8) : Nat := bytes.count ampersand + 1

theorem decodeParts_utf8 (waiting : List UInt8) (parts : List Text.Part) :
    ∃ text, Text.decodeParts .utf8 waiting parts = .ok text := by
  induction parts generalizing waiting with
  | nil => exact Text.readLossy_utf8 _
  | cons part rest ih =>
    cases part with
    | byte b => exact ih _
    | char c =>
      obtain ⟨front, read⟩ := Text.readLossy_utf8 waiting.reverse
      obtain ⟨back, others⟩ := ih []
      refine ⟨front ++ c :: back, ?_⟩
      rw [Text.decodeParts, read, others]
      rfl

/-- Percent escapes can be read in UTF-8, whatever they are. -/
theorem percentDecode_utf8 (text : List Char) :
    ∃ plain, Text.percentDecode .utf8 text = .ok plain := by
  unfold Text.percentDecode
  split
  · exact decodeParts_utf8 _ _
  · exact ⟨text, rfl⟩

theorem unescapeField_utf8 (text : List Char) : ∃ plain, unescapeField .utf8 text = .ok plain := by
  obtain ⟨plain, read⟩ := percentDecode_utf8 (text.map plusToSpace)
  exact ⟨String.ofList plain, by rw [unescapeField, read]⟩

theorem readField_utf8 (keepBlank : Bool) (piece : List Char) :
    ∃ field, readField .utf8 keepBlank piece = .ok field := by
  unfold readField
  split
  · exact ⟨none, rfl⟩
  dsimp only
  split
  · exact ⟨none, rfl⟩
  · obtain ⟨key, left⟩ := unescapeField_utf8 (Text.splitFirst '=' piece).1
    obtain ⟨value, right⟩ := unescapeField_utf8 ((Text.splitFirst '=' piece).2.getD [])
    exact ⟨some (key, value), by rw [left, right]; rfl⟩

/-- What gives a result for each of some values gives results for all of them. -/
theorem mapM_of_forall {ε α β : Type} {read : α → Except ε β}
    (total : ∀ item, ∃ result, read item = .ok result) (items : List α) :
    ∃ results, items.mapM read = .ok results := by
  induction items with
  | nil => exact ⟨[], rfl⟩
  | cons item rest ih =>
    obtain ⟨first, one⟩ := total item
    obtain ⟨others, all⟩ := ih
    exact ⟨first :: others, by rw [List.mapM_cons, one, all]; rfl⟩

theorem readFields_utf8 (keepBlank : Bool) (text : List Char) :
    ∃ fields, readFields .utf8 keepBlank text = .ok fields := by
  obtain ⟨fields, read⟩ := mapM_of_forall (readField_utf8 keepBlank) (Text.splitOn '&' text)
  exact ⟨fields.filterMap id, by rw [readFields, read]; rfl⟩

/-- A form that has not too many fields is read. -/
theorem readForm_utf8 {text : List Char} {count : Nat} (counted : text.count '&' + 1 = count) :
    if count ≤ fieldLimit then ∃ fields, readForm .utf8 text = .ok fields
    else readForm .utf8 text = .error .tooManyFields := by
  have limit : hasTooManyFields text = true ↔ ¬ count ≤ fieldLimit := by
    rw [hasTooManyFields, Text.occurrences, counted, decide_eq_true_iff, Nat.not_le]
  unfold readForm
  split
  · rename_i few
    rw [if_neg (mt limit.mp (Decidable.not_not.mpr few))]
    exact readFields_utf8 true text
  · rename_i many
    rw [if_pos (limit.mpr many)]

/-- A form in bytes that has not too many fields is read. -/
theorem readFormBytes_utf8 (bytes : List UInt8) :
    if fieldCount bytes ≤ fieldLimit then ∃ fields, readFormBytes .utf8 bytes = .ok fields
    else readFormBytes .utf8 bytes = .error .tooManyFields := by
  obtain ⟨text, read, counted⟩ := Text.readOrLatin1_utf8 bytes
  have same : readFormBytes .utf8 bytes = readForm .utf8 text := by rw [readFormBytes, read]
  rw [same]
  exact readForm_utf8 (by rw [counted _ isPlain_ampersand]; rfl)

/-! ## Blank fields -/

theorem decodeParts_utf8_ne_nil {waiting : List UInt8} {parts : List Text.Part} {text : List Char}
    (filled : waiting ≠ [] ∨ parts ≠ []) (read : Text.decodeParts .utf8 waiting parts = .ok text) :
    text ≠ [] := by
  induction parts generalizing waiting with
  | nil =>
    have some_ : waiting ≠ [] := filled.resolve_right fun other => other rfl
    exact Text.readLossy_utf8_ne_nil (mt List.reverse_eq_nil_iff.mp some_) read
  | cons part rest ih =>
    cases part with
    | byte b => exact ih (.inl (List.cons_ne_nil b waiting)) read
    | char c =>
      obtain ⟨front, one⟩ := Text.readLossy_utf8 waiting.reverse
      obtain ⟨back, others⟩ := decodeParts_utf8 [] rest
      rw [Text.decodeParts, one, others] at read
      cases read
      exact List.append_ne_nil_of_right_ne_nil _ (List.cons_ne_nil c back)

theorem unescape_ne_nil {read : List Text.Part} {text : List Char}
    (filled : read ≠ [] ∨ text ≠ []) : Text.unescape read text ≠ [] := by
  fun_induction Text.unescape read text <;> simp_all

/-- What is written with escapes is not blank. -/
theorem unescapeField_utf8_ne_empty {text : List Char} {plain : String} (filled : text ≠ [])
    (read : unescapeField .utf8 text = .ok plain) : plain ≠ "" := by
  have marks : text.map plusToSpace ≠ [] := mt List.map_eq_nil_iff.mp filled
  obtain ⟨chars, decoded⟩ := percentDecode_utf8 (text.map plusToSpace)
  have some_ : chars ≠ [] := by
    unfold Text.percentDecode at decoded
    split at decoded
    · exact decodeParts_utf8_ne_nil (.inr (unescape_ne_nil (.inr marks))) decoded
    · cases decoded
      exact marks
  rw [unescapeField, decoded] at read
  cases read
  exact fun blank => some_ (String.ofList_eq_empty_iff.mp blank)

/-- The fields that have a value. -/
def withoutBlanks (fields : List Field) : List Field := fields.filter (·.2 ≠ "")

theorem readField_withoutBlank {piece : List Char} {field : Option Field}
    (read : readField .utf8 true piece = .ok field) :
    readField .utf8 false piece = .ok (field.filter (·.2 ≠ "")) := by
  unfold readField at read ⊢
  split at read
  · rename_i empty
    cases read
    exact if_pos empty
  rename_i filled
  rw [if_neg filled]
  obtain ⟨key, left⟩ := unescapeField_utf8 (Text.splitFirst '=' piece).1
  obtain ⟨value, right⟩ := unescapeField_utf8 ((Text.splitFirst '=' piece).2.getD [])
  dsimp only at read ⊢
  rw [Bool.not_true, Bool.and_false, if_neg Bool.false_ne_true, left, right] at read
  cases read
  by_cases blank : (Text.splitFirst '=' piece).2.getD [] = []
  · rw [blank] at right
    cases right
    rw [if_pos (by simp [blank])]
    rfl
  · have kept := unescapeField_utf8_ne_empty blank right
    rw [if_neg (by simp [blank]), left, right]
    simp [Option.filter, kept, bind, Except.bind, pure, Except.pure]

/-- Where blank fields are dropped, those with a value are read. -/
theorem readFields_withoutBlanks {text : List Char} {fields : List Field}
    (read : readFields .utf8 true text = .ok fields) :
    readFields .utf8 false text = .ok (withoutBlanks fields) := by
  have pieces : ∀ (texts : List (List Char)) (found : List (Option Field)),
      texts.mapM (readField .utf8 true) = .ok found →
      texts.mapM (readField .utf8 false) = .ok (found.map (·.filter (·.2 ≠ ""))) := by
    intro texts
    induction texts with
    | nil =>
      intro found same
      cases same
      rfl
    | cons piece rest ih =>
      intro found same
      obtain ⟨field, one⟩ := readField_utf8 true piece
      obtain ⟨others, all⟩ := mapM_of_forall (readField_utf8 true) rest
      rw [List.mapM_cons, one, all] at same
      cases same
      rw [List.mapM_cons, readField_withoutBlank one, ih others all]
      rfl
  obtain ⟨found, all⟩ := mapM_of_forall (readField_utf8 true) (Text.splitOn '&' text)
  rw [readFields, all] at read
  cases read
  rw [readFields, pieces _ found all]
  show Except.ok ((found.map _).filterMap id) = Except.ok ((found.filterMap id).filter _)
  rw [List.filterMap_map, List.filter_filterMap]
  rfl

end Telematics.Http
