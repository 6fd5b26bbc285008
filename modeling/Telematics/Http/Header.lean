import Telematics.Number.Fault
import Telematics.Text.Blank
import Telematics.Text.CharsetName
import Telematics.Text.Percent
import Telematics.Text.Split

/-!
Header values: a value, and behind semicolons parameters with an equals sign. The value of a
parameter may stand in quotes or between angle brackets.

A name with a star behind it tells that the value of the parameter comes in sections. Sections are
numbered, and are joined in the order of their numbers; one with a star behind its number, or a
single one without a number, has percent escapes. If a section has, then the joined value tells its
encoding and its language in front of itself, with an apostrophe behind each.

* `headerParts`: the parts between semicolons.
* `joinSections`: the sections of a parameter, as one value.
* `HeaderValue.read`: a header value and its parameters.

The value of a content type header tells a media type, which is a type and a subtype.

* `MediaType.accepts`: a type with a star as wildcard stands for every type.
-/

namespace Telematics.Http

/-- A header value: what stands before the first semicolon, in lower case, and the parameters. -/
structure HeaderValue where
  value : String
  parameters : List (String × String)
deriving DecidableEq, Repr

/-- Why a header value cannot be read. -/
inductive HeaderFault where
  | unknownEncoding (name : String)
  /-- The encoding of a value refuses it. -/
  | refused (fault : Text.TextFault)
  /-- A section has a number, and another one of the same parameter has none. -/
  | mixedSections
  | number (fault : Number.Fault)
  /-- The name of an encoding has a NUL. -/
  | nullCharacter
deriving DecidableEq, Repr

/-- The wording of a fault. -/
def HeaderFault.message : HeaderFault → String
  | .unknownEncoding name => "Invalid encoding " ++ Text.quoted name ++ " for RFC 2231 param."
  | .refused fault => fault.message
  | .mixedSections => "sections with and without numbers"
  | .number fault => fault.message
  | .nullCharacter => "embedded null character"

/-- The parts of a header value between semicolons; a semicolon inside quotes does not count. `read`
    has the part so far in reverse. -/
def headerParts (quoted : Bool) (read : List Char) : List Char → List (List Char)
  | [] => [read.reverse]
  | '\\' :: '"' :: rest => headerParts quoted ('"' :: '\\' :: read) rest
  | c :: rest =>
    if c = '"' then headerParts (!quoted) (c :: read) rest
    else if c = ';' && !quoted then read.reverse :: headerParts false [] rest
    else headerParts quoted (c :: read) rest

/-- A name and a value. -/
abbrev Pair := List Char × List Char

/-- The name and the value in a part, without blanks around them. A part without an equals sign is a
    name as it is written, with the empty value. -/
def readPair (part : List Char) : Pair :=
  match Text.splitFirst '=' part with
  | (name, some value) => ((Text.trim name).map Char.toLower, Text.trim value)
  | (name, none) => (Text.trim name, [])

/-- A text without the backslash in front of each character of a kind. -/
def unescape (escaped : Char) : List Char → List Char
  | '\\' :: c :: rest =>
    if c = escaped then c :: unescape escaped rest else '\\' :: unescape escaped (c :: rest)
  | c :: rest => c :: unescape escaped rest
  | [] => []

/-- What stands between two characters, if a text begins and ends with them. -/
def enclosed? (first last : Char) (text : List Char) : Option (List Char) :=
  match text with
  | c :: rest =>
    if c = first && rest.getLast? = some last then some rest.dropLast else none
  | [] => none

/-- A value out of its quotes or its angle brackets. Between quotes, backslashes stand before
    backslashes first, and before quotes afterwards. -/
def unquote (value : List Char) : List Char :=
  match enclosed? '"' '"' value with
  | some inner => unescape '"' (unescape '\\' inner)
  | none => (enclosed? '<' '>' value).getD value

/-- A value as it stands between quotes. -/
def escapeQuotes (value : List Char) : List Char :=
  value.flatMap fun c => if c = '\\' || c = '"' then ['\\', c] else [c]

/-! ## Sections -/

/-- A section of the value of a parameter. -/
structure Section where
  number : Option Nat
  text : List Char
  /-- The section has percent escapes. -/
  escaped : Bool
deriving DecidableEq, Repr

/-- A letter, a digit or an underscore, of ASCII. -/
def isWordChar (c : Char) : Bool := c.isAlphanum || c = '_'

/-- The number of ASCII digits, if they are not too many. -/
def sectionNumber (digits : List Char) : Except HeaderFault Nat :=
  if digits.length > Number.digitLimit then .error (.number (.tooManyDigits digits.length))
  else .ok (digits.foldl (fun value c => value * 10 + (c.toNat - 48)) 0)

/-- The parameter and the section that a name tells, with the text of the section: nothing if the
    name is one of a whole parameter. -/
def readSection? (name text : List Char) : Except HeaderFault (Option (List Char × Section)) :=
  let (word, behind) := name.span isWordChar
  match word, behind with
  | [], _ => .ok none
  | word, ['*'] => .ok (some (word, ⟨none, text, true⟩))
  | word, '*' :: rest =>
    let (digits, ending) := rest.span Char.isDigit
    if digits = [] || (ending ≠ [] && ending ≠ ['*']) then .ok none
    else do return some (word, ⟨some (← sectionNumber digits), text, ending = ['*']⟩)
  | _, _ => .ok none

/-- A section comes before another one, or is the same. The text decides between sections of one
    number. -/
def Section.le (one other : Section) : Bool :=
  if one.number ≠ other.number then one.number.getD 0 < other.number.getD 0
  else if one.text ≠ other.text then one.text < other.text
  else !one.escaped || other.escaped

/-- The text of a section without escapes. -/
def Section.decoded (part : Section) : List Char :=
  if part.escaped then Text.percentDecodeLatin1 part.text else part.text

/-- The bytes of a text in which every character is a byte. Other characters are written by their
    code points. -/
def rawBytes (text : List Char) : List UInt8 :=
  text.flatMap fun c =>
    if c.toNat < 0x100 then [c.toNat.toUInt8]
    else
      let escape := if c.toNat < 0x10000 then 'u' :: Text.hexDigits 4 c.toNat
        else 'U' :: Text.hexDigits 8 c.toNat
      Text.utf8Bytes ('\\' :: escape)

/-- The encoding of a value, by its name. An empty name is none, and neither is one of a
    transformation. -/
def valueCharset? (name : List Char) : Except HeaderFault (Option Text.Charset) :=
  let name := String.ofList (escapeQuotes name)
  if name = "" then .ok none
  else if name.toList.contains '\x00' then .error .nullCharacter
  else match Text.codecNamed? name with
    | some (.text charset) => .ok (some charset)
    | some .bytes => .ok none
    | none => .error (.unknownEncoding name)

/-- A value in an encoding. One without an encoding stays as it is, without the escapes that may be
    left in it. -/
def decodeIn (charset : Option Text.Charset) (value : List Char) :
    Except HeaderFault (List Char) :=
  match charset with
  | none => .ok (unquote value)
  | some charset => (charset.readLossy (rawBytes value)).mapError .refused

/-- A joined value that tells its encoding. One that does not is in ASCII. -/
def decodeValue (joined : List Char) : Except HeaderFault (List Char) :=
  let plain := Text.lossyText ((rawBytes joined).map Text.asciiPiece)
  match Text.splitFirst '\'' joined with
  | (name, some behind) =>
    match Text.splitFirst '\'' behind with
    | (_, some value) => do decodeIn (← valueCharset? name) value
    | (_, none) => .ok plain
  | (_, none) => .ok plain

/-- The sections of a parameter in their order, if they have numbers, or have none. -/
def orderSections (parts : List Section) : Except HeaderFault (List Section) :=
  if parts.all (·.number.isSome) || parts.all (·.number.isNone) then
    .ok (parts.mergeSort Section.le)
  else .error .mixedSections

/-- The sections of a parameter in their order, as one value. -/
def joinSections (parts : List Section) : Except HeaderFault (List Char) :=
  let joined := parts.flatMap Section.decoded
  if parts.any (·.escaped) then decodeValue joined else .ok joined

/-! ## Parameters -/

/-- The parameters of a header value: those that are whole, and the sections of the others, both in
    the order in which they are written. -/
structure Written where
  whole : List Pair := []
  sections : List (List Char × Section) := []
deriving DecidableEq, Repr

/-- The parameters with one more, which comes behind the others. -/
def Written.add (written : Written) (pair : Pair) : Except HeaderFault Written := do
  let (name, value) := pair
  match ← readSection? name (unquote value) with
  | some part => return { written with sections := written.sections ++ [part] }
  | none => return { written with whole := written.whole ++ [(name, unquote value)] }

/-- The names of the parameters that come in sections, each where it occurs first. -/
def sectionNames : List (List Char × Section) → List (List Char)
  | [] => []
  | (name, _) :: rest => name :: (sectionNames rest).filter (· ≠ name)

/-- The parameters of a header value. Those in sections come behind the others. -/
def Written.parameters (written : Written) : Except HeaderFault (List (String × String)) := do
  let names := sectionNames written.sections
  let ordered ← names.mapM fun name =>
    orderSections ((written.sections.filter (·.1 = name)).map (·.2))
  let joined ← ordered.mapM joinSections
  return ((written.whole ++ names.zip joined).filter (·.1 ≠ [])).map fun (name, value) =>
    (String.ofList name, String.ofList value)

/-- The value of a header and its parameters. One without a semicolon is a value as a whole. -/
def HeaderValue.read (header : String) : Except HeaderFault HeaderValue := do
  if !header.toList.contains ';' then
    return ⟨String.ofList ((Text.trim header.toList).map Char.toLower), []⟩
  match (headerParts false [] header.toList).map readPair with
  | [] => return ⟨"", []⟩
  | (name, _) :: pairs =>
    let written ← pairs.foldlM Written.add {}
    return ⟨String.ofList (name.map Char.toLower), ← written.parameters⟩

/-- The last parameter of a name. -/
def HeaderValue.parameter? (header : HeaderValue) (name : String) : Option String :=
  header.parameters.reverse.lookup name

theorem headerParts_ne_nil (quoted : Bool) (read text : List Char) :
    headerParts quoted read text ≠ [] := by
  fun_induction headerParts quoted read text <;> simp_all

/-! ## Media types -/

/-- A media type. -/
structure MediaType where
  type : String
  subtype : String
deriving DecidableEq, Repr

/-- The media type of a header value. -/
def MediaType.of (header : HeaderValue) : MediaType :=
  let (type, subtype) := Text.splitFirst '/' header.value.toList
  ⟨String.ofList type, String.ofList (subtype.getD [])⟩

/-- The names agree, or one of them is a star. -/
def matchesName (one other : String) : Bool := one = "*" || other = "*" || one = other

/-- The media type is of a given type and subtype. A star stands for any. -/
def MediaType.accepts (media : MediaType) (type subtype : String) : Bool :=
  matchesName media.type type && matchesName media.subtype subtype

theorem MediaType.accepts_self (media : MediaType) :
    media.accepts media.type media.subtype = true := by
  simp [MediaType.accepts, matchesName]

end Telematics.Http
