import Telematics.Text.Percent
import Telematics.Text.Split

/-!
Fields of a query string or a form. Fields stand between ampersands, and the first equals sign of a
field separates its key from its value. A plus sign is a space, and percent escapes are bytes.

A key may occur several times. Fields are handled key by key, in the order in which the keys occur
first, and the values of one key in their own order.

* `mem_grouped`: handling order neither loses nor adds a field.
-/

namespace Telematics.Http

/-- A field of a form: its key and its value. -/
abbrev Field := String × String

/-- The greatest number of fields that are read. -/
def fieldLimit : Nat := 1000

/-- Why the fields of a form cannot be read. -/
inductive FormFault where
  | tooManyFields
  /-- The escapes of a field cannot be read in the encoding. -/
  | unreadableField
  /-- The encoding refuses the form. -/
  | refused
  /-- The reading fails altogether. -/
  | broken
deriving DecidableEq, Repr

/-- The fault of a form whose text cannot be read. -/
def FormFault.ofText : Text.TextFault → FormFault
  | .broken => .broken
  | _ => .refused

/-- The fault of a form of which a field cannot be read. -/
def FormFault.ofField : Text.TextFault → FormFault
  | .broken => .broken
  | _ => .unreadableField

/-- There are more fields than are read: at least one more than ampersands. -/
def hasTooManyFields (text : List Char) : Bool := fieldLimit < Text.occurrences '&' text + 1

/-- A plus sign is a space. -/
def plusToSpace (c : Char) : Char := if c = '+' then ' ' else c

/-- A key or value as it was before it was written into a form. -/
def unescapeField (charset : Text.Charset) (text : List Char) : Except FormFault String :=
  match Text.percentDecode charset (text.map plusToSpace) with
  | .ok text => .ok (String.ofList text)
  | .error fault => .error (.ofField fault)

/-- The field of a piece of a form. An empty piece is none; neither is a field without value, unless
    blanks are kept. -/
def readField (charset : Text.Charset) (keepBlank : Bool) (piece : List Char) :
    Except FormFault (Option Field) :=
  if piece = [] then .ok none
  else
    let (key, value) := Text.splitFirst '=' piece
    let value := value.getD []
    if value = [] && !keepBlank then .ok none
    else do return some (← unescapeField charset key, ← unescapeField charset value)

/-- The fields of a form. -/
def readFields (charset : Text.Charset) (keepBlank : Bool) (text : List Char) :
    Except FormFault (List Field) := do
  let fields ← (Text.splitOn '&' text).mapM (readField charset keepBlank)
  return fields.filterMap id

/-- The fields of a form in which every field counts, if they are not too many. -/
def readForm (charset : Text.Charset) (text : List Char) : Except FormFault (List Field) :=
  if hasTooManyFields text then .error .tooManyFields else readFields charset true text

/-- The fields of a form in bytes. Bytes that are no text in the encoding are read as Latin-1. -/
def readFormBytes (charset : Text.Charset) (bytes : List UInt8) : Except FormFault (List Field) :=
  match charset.readOrLatin1 bytes with
  | .ok text => readForm charset text
  | .error fault => .error (.ofText fault)

/-- The keys of fields, each where it occurs first. -/
def firstKeys : List Field → List String
  | [] => []
  | (key, _) :: rest => key :: (firstKeys rest).filter (· ≠ key)

/-- The fields in the order of handling: key by key in the order of first occurrence. -/
def grouped (fields : List Field) : List Field :=
  (firstKeys fields).flatMap fun key => fields.filter (·.1 = key)

/-- The last value of a key. -/
def lastValue? (fields : List Field) (key : String) : Option String :=
  fields.reverse.lookup key

theorem mem_firstKeys {fields : List Field} {key : String} :
    key ∈ firstKeys fields ↔ ∃ value, (key, value) ∈ fields := by
  induction fields with
  | nil => simp [firstKeys]
  | cons field rest ih =>
    obtain ⟨first, _⟩ := field
    by_cases same : key = first
    · subst same
      simp only [firstKeys, List.mem_cons, true_or, true_iff]
      exact ⟨_, .inl rfl⟩
    · simp [firstKeys, ih, same]

/-- Handling order neither loses nor adds a field. -/
theorem mem_grouped {fields : List Field} {field : Field} :
    field ∈ grouped fields ↔ field ∈ fields := by
  simp only [grouped, List.mem_flatMap, List.mem_filter, decide_eq_true_eq]
  constructor
  · rintro ⟨_, _, present, _⟩
    exact present
  · intro present
    exact ⟨field.1, mem_firstKeys.2 ⟨field.2, present⟩, present, rfl⟩

end Telematics.Http
