import Telematics.Binary64.Decimal
import Telematics.Json.Printer
import Telematics.Timestamp

/-!
Columns: how a value of any kind becomes the value of a column. A column of numbers takes numerals
and booleans too, a column of texts takes everything, and a column of flags takes few words and
numbers. Null becomes no value, which a column may refuse later.

* `integer`, `text`, `flag`, `measure`, `time`: the value of a column, none for null.
* `bounded`: the integers that can be kept.
* `IsName`: the values of which a column of texts has a text.
* `entries`: a document as members, whose keys need not be texts.
-/

namespace Telematics.Column

/-- Why a value does not become the value of a column. -/
inductive Fault where
  /-- The value of the column is no number. -/
  | notNumber (column : String) (value : Json)
  /-- The value is of a kind that the column does not take. -/
  | wrongKind
  /-- The value is no flag. -/
  | notFlag
  /-- The value is no time. -/
  | notTime
  /-- The number is too large. -/
  | tooLarge
  /-- The text has no UTF-8 form. -/
  | unencodable
  /-- The item at a place is no pair, but has another length. -/
  | notPair (place length : Nat)
deriving DecidableEq, Repr

/-- The wording of a fault. -/
def Fault.message : Fault → String
  | .notNumber column value =>
    "Field " ++ Text.quoted column ++ " expected a number but got " ++ value.literal ++ "."
  | .wrongKind => "The value is of a kind that the column does not take"
  | .notFlag => "The value is no flag"
  | .notTime => "The value is no time"
  | .tooLarge => "The number is too large"
  | .unencodable => "The text has no UTF-8 form"
  | .notPair place length =>
    "dictionary update sequence element #" ++ toString place ++ " has length " ++
      toString length ++ "; 2 is required"

/-- The value of a column of integers. Fractions are cut off. -/
def integer (column : String) (value : Json) : Except Fault (Option Int) :=
  match value with
  | .null => .ok none
  | .bool value => .ok (some (if value then 1 else 0))
  | .int value => .ok (some value)
  | .float (.infinite _) => .error .tooLarge
  | .float number =>
    match number.truncate? with
    | some whole => .ok (some whole)
    | none => .error (.notNumber column value)
  | .text (.whole numeral) =>
    match Number.readInteger numeral with
    | .ok whole => .ok (some whole)
    | .error _ => .error (.notNumber column value)
  | .text (.torn _) => .error (.notNumber column value)
  | .list _ => .error .wrongKind
  | .object _ => .error .wrongKind

/-- The least integer that cannot be kept: integers are kept in 64 bits. -/
def integerLimit : Int := 9223372036854775808

/-- An integer, if it can be kept. -/
def bounded (value : Int) : Except Fault Int :=
  if -integerLimit ≤ value ∧ value < integerLimit then .ok value else .error .tooLarge

/-- The value of a column of texts, which are kept as UTF-8. -/
def text : Json → Except Fault (Option String)
  | .null => .ok none
  | value =>
    match value.asText with
    | .whole text => .ok (some text)
    | .torn _ => .error .unencodable

/-- The words of a flag that is set. -/
def setWords : List Letters := ["t", "True", "1"]

/-- The words of a flag that is not set. -/
def unsetWords : List Letters := ["f", "False", "0"]

/-- The value of a column of flags. -/
def flag (value : Json) : Except Fault (Option Bool) :=
  match value with
  | .null => .ok none
  | .text word =>
    if setWords.contains word then .ok (some true)
    else if unsetWords.contains word then .ok (some false)
    else .error .notFlag
  | value =>
    match value.integer? with
    | some 1 => .ok (some true)
    | some 0 => .ok (some false)
    | _ => .error .notFlag

/-- The value of a column of double-precision numbers. -/
def measure (column : String) (value : Json) : Except Fault (Option Binary64) :=
  match value with
  | .null => .ok none
  | .bool value => .ok (some (.ofNat (if value then 1 else 0)))
  | .int value =>
    let number := Binary64.ofInt value
    if number.isFinite then .ok (some number) else .error .tooLarge
  | .float value => .ok (some value)
  | .text (.whole numeral) =>
    match Binary64.read? numeral with
    | some number => .ok (some number)
    | none => .error (.notNumber column value)
  | .text (.torn _) => .error (.notNumber column value)
  | .list _ => .error .wrongKind
  | .object _ => .error .wrongKind

/-- The value of a column of times. A text is an ISO 8601 date-time or a date alone, at whose
    beginning the time is; without an offset it is on the clock of the zone. -/
def time (zone : Calendar.Zone) (value : Json) : Except Fault (Option Calendar.Moment) :=
  match value with
  | .null => .ok none
  | .text text =>
    match Timestamp.readIso zone text, Calendar.readLooseDate? text.shown.toList with
    | .ok moment, _ => .ok (some moment)
    | .error (.notIso _), some (.ok date) => .ok (some (zone.place ⟨date, .midnight⟩))
    | .error _, _ => .error .notTime
  | _ => .error .wrongKind

/-- The items of a value that has some. -/
def items : Json → Except Fault (List Json)
  | .list items => .ok items
  | .text text => .ok (text.letters.map fun letter => .text (.alone letter))
  | .object members => .ok (members.map fun (key, _) => .text key)
  | _ => .error .wrongKind

/-- A value that may be a key. Lists and objects are no keys. -/
def key : Json → Except Fault Json
  | .list _ => .error .wrongKind
  | .object _ => .error .wrongKind
  | value => .ok value

/-- Members whose keys are values of any kind. No two keys are the same. -/
abbrev Entries := List (Json × Json)

/-- Sets the value of a key: one that is there stays as it is, a new one goes last. -/
def Entries.put (key value : Json) : Entries → Entries
  | [] => [(key, value)]
  | (k, v) :: rest => if k.isSame key then (k, value) :: rest else (k, v) :: put key value rest

/-- The members under names of their keys. Of two keys with one name the later one counts. -/
def Entries.named (name : Json → Letters) (entries : Entries) : Json.Members :=
  entries.foldl (fun members (key, value) => members.put (name key) value) []

/-- The entries of pairs of a key and a value, behind entries that are there. `place` is the place
    of the first pair. -/
def pairs (place : Nat) (entries : Entries) : List Json → Except Fault Entries
  | [] => .ok entries
  | pair :: rest => do
    match ← items pair with
    | [one, value] => pairs (place + 1) (entries.put (← key one) value) rest
    | parts => throw (.notPair place parts.length)

/-- The entries of a document: those of an object, or those of pairs. -/
def entries : Json → Except Fault Entries
  | .object members => .ok (members.map fun (key, value) => (.text key, value))
  | value => do pairs 0 [] (← items value)

/-- The name of a key in a document that is stored. -/
def keyName : Json → Letters
  | .text key => key
  | key => key.render

/-- The value can be a name: it is neither null nor a torn text. -/
def IsName (value : Json) : Prop := value ≠ .null ∧ ∀ torn, value ≠ .text (.torn torn)

/-- A column of texts has a value for what can be a name, and for nothing else. -/
theorem exists_text_iff {value : Json} :
    (∃ name, text value = .ok (some name)) ↔ IsName value := by
  unfold IsName
  cases value with
  | null => simp [text]
  | text value => cases value <;> simp [text, Json.asText]
  | _ => simp [text, Json.asText]

/-- A column of texts takes what is not torn. -/
theorem exists_text_eq_ok {value : Json} (whole : ∀ torn, value ≠ .text (.torn torn)) :
    ∃ kept, text value = .ok kept := by
  by_cases null : value = .null
  · subst null
    exact ⟨none, rfl⟩
  · obtain ⟨name, known⟩ := exists_text_iff.mpr ⟨null, whole⟩
    exact ⟨some name, known⟩

theorem bounded_eq_ok_iff {value kept : Int} :
    bounded value = .ok kept ↔
      kept = value ∧ -integerLimit ≤ value ∧ value < integerLimit := by
  unfold bounded
  split
  · rename_i within
    simp [within, eq_comm]
  · rename_i beyond
    simp
    omega

end Telematics.Column
