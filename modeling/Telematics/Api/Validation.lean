import Telematics.Api.Body

/-!
What a new command has to be: it has a payload and may have a type.

* `checkText`: a text field, with everything that is wrong with it.
* `NewCommand.check`: a new command, with everything that is wrong with its fields.
-/

namespace Telematics.Api

/-- What is wrong with a field. -/
inductive Problem where
  | missing
  | null
  | notText
  | blank
  | tooLong (limit : Nat)
  | nullCharacter
  /-- There is half of a pair, of a code point. -/
  | half (code : Nat)
deriving DecidableEq, Repr

/-- The wording of a problem. -/
def Problem.message : Problem → String
  | .missing => "This field is required."
  | .null => "This field may not be null."
  | .notText => "Not a valid string."
  | .blank => "This field may not be blank."
  | .tooLong limit => "Ensure this field has no more than " ++ toString limit ++ " characters."
  | .nullCharacter => "Null characters are not allowed."
  | .half code => "Surrogate characters are not allowed: U+" ++
      String.ofList ((Text.hexDigits 4 code).map Char.toUpper) ++ "."

/-- What is given for a field: a value, or the file of a name. -/
inductive Entry where
  | value (value : Json)
  | file (name : String)
deriving DecidableEq, Repr

/-- What a value of a form gives. -/
def Entry.ofForm : Http.FormValue → Entry
  | .text text => .value (.text text)
  | .file name => .file name

/-- The letter is blank. -/
def isBlank : Letter → Bool
  | .char c => Text.isBlank c
  | .half _ => false

/-- A text that is not blank, without blanks around it. A torn text is never blank. -/
def unblank : Letters → Except (List Problem) Letters
  | .whole text =>
    match Text.trim text.toList with
    | [] => .error [.blank]
    | trimmed => .ok (String.ofList trimmed)
  | .torn text =>
    .ok (.of ((text.letters.dropWhile isBlank).reverse.dropWhile isBlank).reverse)

/-- An entry as the text of a field, without blanks around it. Numbers are taken as their text. A
    file is no text, but its name must not be blank either. -/
def fieldText : Entry → Except (List Problem) Letters
  | .value .null => .error [.null]
  | .value (.bool _) => .error [.notText]
  | .value (.list _) => .error [.notText]
  | .value (.object _) => .error [.notText]
  | .value value => unblank value.asText
  | .file name => do
    let _ ← unblank name
    throw [.notText]

/-- A text of a field that keeps its limits. -/
def checkText (limit : Nat) (entry : Entry) : Except (List Problem) String := do
  let text ← fieldText entry
  let halves := text.letters.filter Letter.isHalf
  let problems := (if text.letters.length > limit then [Problem.tooLong limit] else []) ++
    (if text.letters.contains (.char '\x00') then [Problem.nullCharacter] else []) ++
    (halves.head?.map fun letter => Problem.half letter.code).toList
  match problems, text.whole? with
  | [], some text => return text
  | problems, _ => throw problems

/-- The greatest length of a payload. -/
def payloadLimit : Nat := 4096

/-- The greatest length of a type. -/
def typeLimit : Nat := 50

/-- A new command. -/
structure NewCommand where
  payload : String
  type : Option String
deriving DecidableEq, Repr

/-- Everything that is wrong with a new command, by field. -/
abbrev Problems := List (String × List String)

/-- The problems that concern no field. -/
def wholeKey : String := "non_field_errors"

/-- The problems of a field, if there are any. -/
def problemsOf {α : Type} (key : String) : Except (List Problem) α → Problems
  | .ok _ => []
  | .error problems => [(key, problems.map Problem.message)]

/-- A new command of what is given for its fields. -/
def checkFields (payload type : Option Entry) : Except Problems NewCommand :=
  let payload := match payload with
    | some entry => checkText payloadLimit entry
    | none => .error [.missing]
  let type := match type with
    | some entry => some <$> checkText typeLimit entry
    | none => .ok none
  match payload, type with
  | .ok payload, .ok type => .ok ⟨payload, type⟩
  | payload, type => .error (problemsOf "data" payload ++ problemsOf "type" type)

/-- The last value of a key in a form. -/
def lastGiven? (fields : List (String × Http.FormValue)) (key : String) : Option Entry :=
  (fields.reverse.lookup key).map Entry.ofForm

/-- The type in a form. An empty one is none. -/
def formType? (fields : List (String × Http.FormValue)) : Option Entry :=
  match lastGiven? fields "type" with
  | some (.value (.text "")) => none
  | entry => entry

/-- The new command in a body. -/
def NewCommand.check : Body → Except Problems NewCommand
  | .form fields => checkFields (lastGiven? fields "data") (formType? fields)
  | .value (.object members) =>
    checkFields ((Json.Members.get? members "data").map .value)
      ((Json.Members.get? members "type").map .value)
  | .value .null => .error [(wholeKey, ["No data provided"])]
  | .value value =>
    .error [(wholeKey, ["Invalid data. Expected a dictionary, but got " ++ value.kind ++ "."])]

end Telematics.Api
