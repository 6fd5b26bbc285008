import Telematics.Json.Basic

/-!
Reading JSON documents. A document that cannot be read has a fault with the place where it was
found, counted in characters from its beginning.

The reader is a recursive descent over the characters. The depth of nested lists and objects is
limited by what is left of a stack, so the limit is that of the call. Every function returns what it
has not read; the bound on its recursion is the length of the document.

* `Json.parse`: the value of a document.
* `Json.Fault.message`: the wording, with line, column and place.
-/

namespace Telematics.Json

/-- What is wrong at a place of a document. -/
inductive Complaint where
  | value
  | propertyName
  | colon
  | comma
  | extraData
  | controlCharacter
  | escape
  | unicodeEscape
  | unterminated
  | byteOrderMark
deriving DecidableEq, Repr

/-- The wording of a complaint. -/
def Complaint.message : Complaint → String
  | .value => "Expecting value"
  | .propertyName => "Expecting property name enclosed in double quotes"
  | .colon => "Expecting ':' delimiter"
  | .comma => "Expecting ',' delimiter"
  | .extraData => "Extra data"
  | .controlCharacter => "Invalid control character at"
  | .escape => "Invalid \\escape"
  | .unicodeEscape => "Invalid \\uXXXX escape"
  | .unterminated => "Unterminated string starting at"
  | .byteOrderMark => "Unexpected UTF-8 BOM (decode using utf-8-sig)"

/-- Why the reader stopped. A place is given by the number of characters that are left there. -/
inductive Stop where
  | complaint (complaint : Complaint) (left : Nat)
  | number (fault : Number.Fault)
  /-- One of the names of infinity and not-a-number, where they are refused. -/
  | constant (name : String)
  | tooDeep
deriving DecidableEq, Repr

/-- A place in a document: line and column from 1, and the number of characters before it. -/
structure Place where
  line : Nat
  column : Nat
  position : Nat
deriving DecidableEq, Repr

/-- The place behind some characters. -/
def Place.after (text : List Char) : Place :=
  ⟨text.count '\n' + 1, (text.reverse.takeWhile (· ≠ '\n')).length + 1, text.length⟩

/-- What is wrong with a document. -/
inductive Fault where
  | complaint (complaint : Complaint) (place : Place)
  | number (fault : Number.Fault)
  | constant (name : String)
  | tooDeep
deriving DecidableEq, Repr

/-- The wording of a complaint and its place. -/
def complaintText (complaint : Complaint) (place : Place) : String :=
  complaint.message ++ ": line " ++ toString place.line ++ " column " ++ toString place.column ++
    " (char " ++ toString place.position ++ ")"

/-- A blank between the parts of a document. -/
def isGap (c : Char) : Bool := c = ' ' || c = '\t' || c = '\n' || c = '\r'

/-- The text without the blanks in front. -/
def skipGap (text : List Char) : List Char := text.dropWhile isGap

/-- The character of a one-letter escape. -/
def shortEscape? (c : Char) : Option Char :=
  match c with
  | '"' => some '"'
  | '\\' => some '\\'
  | '/' => some '/'
  | 'b' => some '\x08'
  | 'f' => some '\x0c'
  | 'n' => some '\n'
  | 'r' => some '\r'
  | 't' => some '\t'
  | _ => none

/-- What follows the letter of a four-digit escape: the letter that it stands for and the number of
    characters read. A first half of a pair takes the second half with it, and half of a pair whose
    other half is not there stands for itself. At least one character must follow the digits. -/
def takeUnicode (text : List Char) : Except Stop (Letter × Nat) :=
  if text.length ≤ 4 then .error (.complaint .unicodeEscape (text.length + 1))
  else
    match Text.hexNumber? (text.take 4) with
    | none => .error (.complaint .unicodeEscape (text.length + 1))
    | some high =>
      if 0xd800 ≤ high ∧ high ≤ 0xdbff then
        match text.drop 4 with
        | '\\' :: 'u' :: rest =>
          if rest.length ≤ 4 then .ok (.ofUnit high, 4)
          else
            match Text.hexNumber? (rest.take 4) with
            | none => .error (.complaint .unicodeEscape (rest.length + 1))
            | some low =>
              if 0xdc00 ≤ low ∧ low ≤ 0xdfff then
                .ok (.char (Char.ofNat (0x10000 + (high - 0xd800) * 1024 + (low - 0xdc00))), 10)
              else .ok (.ofUnit high, 4)
        | _ => .ok (.ofUnit high, 4)
      else .ok (.ofUnit high, 4)

/-- A string after its opening quote. `start` is the number of characters left at that quote, and
    `read` has the letters so far in reverse. `skip` characters of an escape are passed over. -/
def takeString (start : Nat) (read : List Letter) : (skip : Nat) → List Char →
    Except Stop (Letters × List Char)
  | _, [] => .error (.complaint .unterminated start)
  | skip + 1, _ :: rest => takeString start read skip rest
  | 0, c :: rest =>
    if c = '"' then .ok (.of read.reverse, rest)
    else if c = '\\' then
      match rest with
      | [] => .error (.complaint .unterminated start)
      | e :: after =>
        if e = 'u' then
          match takeUnicode after with
          | .error stop => .error stop
          | .ok (value, width) => takeString start (value :: read) (width + 1) rest
        else
          match shortEscape? e with
          | some value => takeString start (.char value :: read) 1 rest
          | none => .error (.complaint .escape (after.length + 2))
    else if c.toNat < 0x20 then .error (.complaint .controlCharacter (rest.length + 1))
    else takeString start (.char c :: read) 0 rest

/-- The digits at the front of a text. -/
def leadingDigits (text : List Char) : List Char := text.takeWhile Char.isDigit

/-- The digits of a whole part: a zero alone, or digits that do not begin with zero. -/
def wholePart : List Char → List Char
  | '0' :: _ => ['0']
  | chars => leadingDigits chars

/-- A point and at least one digit, if they are there. -/
def fractionPart : List Char → List Char
  | '.' :: rest =>
    let digits := leadingDigits rest
    if digits.isEmpty then [] else '.' :: digits
  | _ => []

/-- The letter e, an optional sign and at least one digit, if they are there. -/
def exponentPart : List Char → List Char
  | e :: rest =>
    if e = 'e' ∨ e = 'E' then
      let sign := match rest with
        | '+' :: _ => ['+']
        | '-' :: _ => ['-']
        | _ => []
      let digits := leadingDigits (rest.drop sign.length)
      if digits.isEmpty then [] else e :: sign ++ digits
    else []
  | [] => []

/-- A number at the front of a text. With a fraction or an exponent it is a double-precision
    number, without them an exact integer. -/
def takeNumber (text : List Char) : Except Stop (Json × List Char) :=
  let sign := match text with
    | '-' :: _ => ['-']
    | _ => []
  let unsigned := text.drop sign.length
  let whole := wholePart unsigned
  if whole.isEmpty then .error (.complaint .value text.length)
  else
    let fraction := fractionPart (unsigned.drop whole.length)
    let exponent := exponentPart (unsigned.drop (whole.length + fraction.length))
    let numeral := String.ofList (sign ++ whole ++ fraction ++ exponent)
    let rest := unsigned.drop (whole.length + fraction.length + exponent.length)
    if fraction.isEmpty && exponent.isEmpty then
      match Number.readInteger numeral with
      | .ok value => .ok (.int value, rest)
      | .error fault => .error (.number fault)
    else
      match Binary64.read numeral with
      | .ok value => .ok (.float value, rest)
      | .error fault => .error (.number fault)

/-- The text behind a word, if it begins with the word. -/
def afterWord? : (word : List Char) → List Char → Option (List Char)
  | [], rest => some rest
  | w :: word, c :: rest => if w = c then afterWord? word rest else none
  | _ :: _, [] => none

/-- The words that stand for values, and the values. -/
def words : List (String × Json) :=
  [("null", .null), ("true", .bool true), ("false", .bool false)]

/-- The names of infinity and not-a-number, and the numbers. -/
def constants : List (String × Json) :=
  [("NaN", .float .nan), ("Infinity", .float (.infinite false)),
    ("-Infinity", .float (.infinite true))]

/-- A word or a name at the front of a text. -/
def takeWord? (table : List (String × Json)) (text : List Char) :
    Option (String × Json × List Char) :=
  table.findSome? fun (word, value) => (afterWord? word.toList text).map (word, value, ·)

/-- A value that is no string, list or object. -/
def takeScalar (lenient : Bool) (text : List Char) : Except Stop (Json × List Char) :=
  match takeWord? words text with
  | some (_, value, rest) => .ok (value, rest)
  | none =>
    match takeWord? constants text with
    | some (name, value, rest) => if lenient then .ok (value, rest) else .error (.constant name)
    | none => takeNumber text

mutual

/-- A value at the front of a text, at most `depth` levels deep. `fuel` bounds the recursion. -/
def takeValue (lenient : Bool) (fuel depth : Nat) (text : List Char) :
    Except Stop (Json × List Char) :=
  match fuel with
  | 0 => .error .tooDeep
  | fuel + 1 =>
    match text with
    | '"' :: rest =>
      match takeString text.length [] 0 rest with
      | .ok (value, rest) => .ok (.text value, rest)
      | .error stop => .error stop
    | '[' :: rest =>
      match depth with
      | 0 => .error .tooDeep
      | depth + 1 =>
        match skipGap rest with
        | ']' :: rest => .ok (.list [], rest)
        | rest => takeItems lenient fuel depth [] rest
    | '\x7b' :: rest =>
      match depth with
      | 0 => .error .tooDeep
      | depth + 1 =>
        match skipGap rest with
        | '\x7d' :: rest => .ok (.object [], rest)
        | rest => takeMembers lenient fuel depth [] rest
    | _ => takeScalar lenient text

/-- The items of a list from its first item to its end; `read` has the items so far in reverse. -/
def takeItems (lenient : Bool) (fuel depth : Nat) (read : List Json) (text : List Char) :
    Except Stop (Json × List Char) :=
  match fuel with
  | 0 => .error .tooDeep
  | fuel + 1 =>
    match takeValue lenient fuel depth text with
    | .error stop => .error stop
    | .ok (value, rest) =>
      match skipGap rest with
      | ']' :: rest => .ok (.list (value :: read).reverse, rest)
      | ',' :: rest => takeItems lenient fuel depth (value :: read) (skipGap rest)
      | rest => .error (.complaint .comma rest.length)

/-- The members of an object from its first key to its end; `read` has the members so far. -/
def takeMembers (lenient : Bool) (fuel depth : Nat) (read : Members) (text : List Char) :
    Except Stop (Json × List Char) :=
  match fuel with
  | 0 => .error .tooDeep
  | fuel + 1 =>
    match text with
    | '"' :: rest =>
      match takeString text.length [] 0 rest with
      | .error stop => .error stop
      | .ok (key, rest) =>
        match skipGap rest with
        | ':' :: rest =>
          match takeValue lenient fuel depth (skipGap rest) with
          | .error stop => .error stop
          | .ok (value, rest) =>
            match skipGap rest with
            | '\x7d' :: rest => .ok (.object (read.put key value), rest)
            | ',' :: rest => takeMembers lenient fuel depth (read.put key value) (skipGap rest)
            | rest => .error (.complaint .comma rest.length)
        | rest => .error (.complaint .colon rest.length)
    | _ => .error (.complaint .propertyName text.length)

end

/-- A whole document, at most `depth` levels deep. -/
def takeDocument (lenient : Bool) (depth : Nat) (text : List Char) : Except Stop Json :=
  match text with
  | '\uFEFF' :: _ => .error (.complaint .byteOrderMark text.length)
  | _ =>
    match takeValue lenient (2 * text.length + 2) depth (skipGap text) with
    | .error stop => .error stop
    | .ok (value, rest) =>
      match skipGap rest with
      | [] => .ok value
      | rest => .error (.complaint .extraData rest.length)

/-- A stop, with its place in the document. -/
def Stop.locate (text : List Char) : Stop → Fault
  | .complaint what left =>
    .complaint what (Place.after (text.take (text.length - left)))
  | .number fault => .number fault
  | .constant name => .constant name
  | .tooDeep => .tooDeep

/-- The value of a document that is at most `depth` levels deep. The names of infinity and
    not-a-number are read only leniently. -/
def parse (lenient : Bool) (depth : Nat) (text : List Char) : Except Fault Json :=
  (takeDocument lenient depth text).mapError (Stop.locate text)

end Telematics.Json
