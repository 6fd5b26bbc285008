import Telematics.Http.Request
import Telematics.Text.CharacterReference
import Telematics.Text.Printable

/-!
Forms in parts. Between the parts stands a boundary, which the content type tells. A part has header
lines and, behind an empty line, data; its disposition header tells the name of the field, and the
name of a file if the data are one. Parts without a name count for nothing.

A file is complete only if a boundary stands behind it. Fields and files are limited in number.

* `boundaryParts`: what stands between boundaries.
* `readParts`: the values of parts.
* `readMultipart`: the values of the form in a request.
-/

namespace Telematics.Http

/-- A value of a form: a text, or the file of a name. -/
inductive FormValue where
  | text (text : String)
  | file (name : String)
deriving DecidableEq, Repr

/-- Why a form cannot be read. -/
inductive MultipartFault where
  | noMultipart (contentType : String)
  | notAscii (contentType : String)
  | badBoundary (boundary : Option String)
  | headerTooLong
  /-- The data of a file are no base 64, in which they should be. -/
  | base64
  | header (fault : HeaderFault)
  /-- The encoding of the form refuses a text. -/
  | text (fault : Text.TextFault)
  | tooManyFields
  /-- The fields are too long as a whole. -/
  | tooLong
deriving DecidableEq, Repr

/-- The wording of a fault. -/
def MultipartFault.message : MultipartFault → String
  | .noMultipart contentType => "Invalid Content-Type: " ++ contentType
  | .notAscii contentType => "Invalid non-ASCII Content-Type in multipart: " ++ contentType
  | .badBoundary boundary => "Invalid boundary in multipart: " ++ boundary.getD "None"
  | .headerTooLong => "Request max total header size exceeded."
  | .base64 => "Could not decode base64 data."
  | .header fault => fault.message
  | .text fault => fault.message
  | .tooManyFields => "too many fields"
  | .tooLong => "too long"

/-! ## Boundaries -/

/-- The greatest length of a boundary. -/
def boundaryLimit : Nat := 201

/-- A character of a boundary: a printable one of ASCII. -/
def isBoundaryChar (c : Char) : Bool := 0x20 ≤ c.toNat && c.toNat ≤ 0x7e

/-- A text that may be a boundary. The last character is no space. -/
def isBoundary (text : List Char) : Bool :=
  text ≠ [] && text.length ≤ boundaryLimit && text.all isBoundaryChar && text.getLast? ≠ some ' '

/-- Bytes in reverse without the line end at their end: one line feed, and one carriage return in
    front of it. -/
def dropLineEnd (reversed : List UInt8) : List UInt8 :=
  let fed := match reversed with
    | 0x0a :: rest => rest
    | bytes => bytes
  match fed with
  | 0x0d :: rest => rest
  | bytes => bytes

/-- What stands between occurrences of a mark, without the line end in front of each, and behind the
    last one, if there is anything. `skipped` bytes belong to a mark; `read` has the part so far in
    reverse. -/
def boundaryParts (mark : List UInt8) (skipped : Nat) (read : List UInt8) :
    List UInt8 → List (List UInt8)
  | [] => if read = [] then [] else [read.reverse]
  | byte :: rest =>
    if 0 < skipped then boundaryParts mark (skipped - 1) read rest
    else if mark.isPrefixOf (byte :: rest) then
      (dropLineEnd read).reverse :: boundaryParts mark (mark.length - 1) [] rest
    else boundaryParts mark 0 (byte :: read) rest

/-! ## Headers -/

/-- A part without its headers is long enough to tell that they are too long. -/
def partHeaderLimit : Nat := 1024

/-- The lines of bytes, which end with a carriage return and a line feed. `read` has the line so far
    in reverse. -/
def splitLines (read : List UInt8) : List UInt8 → List (List UInt8)
  | [] => [read.reverse]
  | 0x0d :: 0x0a :: rest => read.reverse :: splitLines [] rest
  | byte :: rest => splitLines (byte :: read) rest

/-- The bytes in front of the first empty line, if there is one. `read` has those so far in
    reverse. -/
def beforeEmptyLine? (read : List UInt8) : List UInt8 → Option (List UInt8)
  | [] => none
  | 0x0d :: 0x0a :: 0x0d :: 0x0a :: _ => some read.reverse
  | byte :: rest => beforeEmptyLine? (byte :: read) rest

/-- The headers of a part and its data, if it has headers. -/
def splitPart (part : List UInt8) : Except MultipartFault (Option (List UInt8 × List UInt8)) :=
  match beforeEmptyLine? [] (part.take partHeaderLimit) with
  | some headers => .ok (some (headers, part.drop (headers.length + 4)))
  | none => if part.length < partHeaderLimit then .ok none else .error .headerTooLong

/-- What the headers of a part tell. -/
structure PartHeader where
  disposition : Option HeaderValue := none
  encoding : Option String := none
deriving DecidableEq, Repr

/-- The faults that make a form unreadable. A line with any other one counts for nothing. -/
def HeaderFault.isFatal : HeaderFault → Bool
  | .mixedSections => true
  | .refused .broken => true
  | _ => false

/-- The name and the value of a header line, if it can be read. -/
def readHeaderLine? (line : List UInt8) : Except MultipartFault (Option (String × HeaderValue)) :=
  match Text.readUtf8 line with
  | .error _ => .ok none
  | .ok text =>
    match HeaderValue.read (String.ofList text) with
    | .error fault => if fault.isFatal then .error (.header fault) else .ok none
    | .ok header =>
      match Text.splitFirst ':' header.value.toList with
      | (_, none) => .ok none
      | (name, some value) =>
        let value := String.ofList (Text.trim value)
        .ok (some (String.ofList name, { header with value }))

/-- The headers of a part with one more line. A later line of a name counts. -/
def PartHeader.add (header : PartHeader) (line : List UInt8) :
    Except MultipartFault PartHeader := do
  match ← readHeaderLine? line with
  | some ("content-disposition", value) => return { header with disposition := some value }
  | some ("content-transfer-encoding", value) => return { header with encoding := some value.value }
  | some _ => return header
  | none => return header

/-- The headers of a part. -/
def PartHeader.read (headers : List UInt8) : Except MultipartFault PartHeader :=
  (splitLines [] headers).foldlM PartHeader.add {}

/-! ## Values -/

/-- A white space of ASCII. -/
def isAsciiSpace (c : Char) : Bool := c = ' ' || (0x09 ≤ c.toNat && c.toNat ≤ 0x0d)

/-- The text of bytes in the encoding of a form. -/
def readIn (charset : Text.Charset) (bytes : List UInt8) : Except MultipartFault (List Char) :=
  (charset.readLossy bytes).mapError .text

/-- A text in the encoding of a form, whatever it was read in. -/
def recode (charset : Text.Charset) (text : List Char) : Except MultipartFault (List Char) :=
  readIn charset (Text.utf8Bytes text)

/-- What stands behind the last occurrence of a character. -/
def behindLast (c : Char) (text : List Char) : List Char :=
  (text.reverse.takeWhile (· ≠ c)).reverse

/-- The greatest length of the name of a file. -/
def fileNameLimit : Nat := 255

/-- A name in two parts: what stands before the last point, and the rest. Points at the beginning of
    a name do not count. -/
def splitExtension (name : List Char) : List Char × List Char :=
  let ending := (name.reverse.takeWhile (· ≠ '.')).reverse
  let place := name.length - ending.length - 1
  if name.contains '.' && (name.take place).any (· ≠ '.') then (name.take place, name.drop place)
  else (name, [])

/-- The name of a file, cut in front of its last point if it is too long. -/
def cutName (name : List Char) : List Char :=
  if name.length ≤ fileNameLimit then name
  else
    let (stem, ending) := splitExtension name
    let ending := ending.take fileNameLimit
    stem.take (fileNameLimit - ending.length) ++ ending

/-- The name of a file without the directories in front of it and without unprintable characters, if
    anything remains that may be a name. Characters may be written as references. -/
def fileName? (name : List Char) : Option String :=
  let name := Text.withoutReferences name
  let plain := (behindLast '\\' (behindLast '/' name)).filter Text.isPrintable
  if plain = [] || plain = ['.'] || plain = ['.', '.'] then none
  else some (String.ofList (cutName plain))

/-- The name of base 64 among the encodings of data. -/
def base64Name : String := "base64"

/-- A byte that is a white space. -/
def isSpaceByte (byte : UInt8) : Bool := isAsciiSpace (Char.ofNat byte.toNat)

/-- The data of a file are whole quads of base 64, spaces apart. -/
def isFileBase64 (data : List UInt8) : Bool :=
  let digits := data.filter (!isSpaceByte ·)
  digits.length % 4 = 0 && (Text.readBase64? digits).isSome

/-- The data of a field. What is no base 64 is taken as it is. -/
def fieldData (header : PartHeader) (data : List UInt8) : List UInt8 :=
  if header.encoding = some base64Name then (Text.readBase64? data).getD data else data

/-- The values of parts so far, the numbers of parts that are fields and files, and the length of
    the fields. -/
structure Gathered where
  texts : List (String × FormValue) := []
  files : List (String × FormValue) := []
  fieldCount : Nat := 0
  fileCount : Nat := 0
  length : Nat := 0
deriving DecidableEq, Repr

/-- The greatest number of files. -/
def fileLimit : Nat := 100

/-- The greatest number of parts that are no files. What stands in front of the first boundary and
    behind the last one counts too. -/
def partLimit : Nat := fieldLimit + 2

/-- The number of marks that a field counts for, beside its name and its data: an equals sign and
    an ampersand. -/
def fieldMarks : Nat := 2

/-- What is gathered with a part that is no file. -/
def Gathered.addField (gathered : Gathered) (charset : Text.Charset) (header : PartHeader)
    (data : List UInt8) : Except MultipartFault Gathered := do
  let gathered := { gathered with fieldCount := gathered.fieldCount + 1 }
  if partLimit < gathered.fieldCount then throw .tooManyFields
  match header.disposition.bind (·.parameter? "name") with
  | some name =>
    let name ← recode charset (Text.trimBy isAsciiSpace name.toList)
    let length := gathered.length + data.length + name.length + fieldMarks
    if bodyLimit < length then throw .tooLong
    let text ← readIn charset (fieldData header data)
    return { gathered with
      length
      texts := gathered.texts ++ [(String.ofList name, .text (String.ofList text))] }
  | none => return gathered

/-- What is gathered with a file, which is complete or not. -/
def Gathered.addFile (gathered : Gathered) (charset : Text.Charset) (header : PartHeader)
    (file : String) (complete : Bool) (data : List UInt8) : Except MultipartFault Gathered := do
  match header.disposition.bind (·.parameter? "name") with
  | none => return gathered
  | some name =>
    let name ← recode charset (Text.trimBy isAsciiSpace name.toList)
    let gathered := { gathered with fileCount := gathered.fileCount + 1 }
    if fileLimit < gathered.fileCount then throw .tooManyFields
    match fileName? (← recode charset file.toList) with
    | none => return gathered
    | some file =>
      if header.encoding = some base64Name && !isFileBase64 data then throw .base64
      if complete && name ≠ [] then
        return { gathered with
          files := gathered.files ++ [(String.ofList name, .file file)] }
      return gathered

/-- What is gathered with a part, behind which there is another one or not. -/
def Gathered.add (gathered : Gathered) (charset : Text.Charset) (complete : Bool)
    (part : List UInt8) : Except MultipartFault Gathered := do
  match ← splitPart part with
  | none => gathered.addField charset {} []
  | some (headers, data) =>
    let header ← PartHeader.read headers
    match header.disposition.bind (·.parameter? "filename") with
    | none | some "" => gathered.addField charset header data
    | some file => gathered.addFile charset header file complete data

/-- What is gathered from parts. -/
def readParts (charset : Text.Charset) (gathered : Gathered) :
    List (List UInt8) → Except MultipartFault Gathered
  | [] => .ok gathered
  | part :: rest => do readParts charset (← gathered.add charset (rest ≠ []) part) rest

/-- The boundary that the content type of a request tells. -/
def boundaryOf (request : Request) : Except MultipartFault (List Char) := do
  let contentType := request.contentType.getD ""
  if !"multipart/".toList.isPrefixOf contentType.toList then throw (.noMultipart contentType)
  if contentType.toList.any (0x80 ≤ ·.toNat) then throw (.notAscii contentType)
  let boundary := request.header.parameter? "boundary"
  if !isBoundary (boundary.getD "").toList then throw (.badBoundary boundary)
  return (boundary.getD "").toList

/-- The values of the form in a request. Files come behind texts. -/
def readMultipart (request : Request) : Except MultipartFault (List (String × FormValue)) := do
  let mark := Text.utf8Bytes ('-' :: '-' :: (← boundaryOf request))
  let gathered ← readParts request.charset {} (boundaryParts mark 0 [] request.body)
  return gathered.texts ++ gathered.files

end Telematics.Http
