import Telematics.Json.Basic

/-!
Writing JSON documents in ASCII. Other characters, and halves of pairs, are escaped by their UTF-16
code units; members and items are separated by a comma and a space. Infinity and not-a-number are
written by name, which is no standard JSON.
-/

namespace Telematics.Json

/-- A four-digit escape of a code unit. -/
def unitEscape (value : Nat) : List Char := '\\' :: 'u' :: Text.hexDigits 4 value

/-- The written form of one character of a string. -/
def escapeChar (c : Char) : List Char :=
  if c = '"' then ['\\', '"']
  else if c = '\\' then ['\\', '\\']
  else if c = '\n' then ['\\', 'n']
  else if c = '\r' then ['\\', 'r']
  else if c = '\t' then ['\\', 't']
  else if c = '\x08' then ['\\', 'b']
  else if c = '\x0c' then ['\\', 'f']
  else if 0x20 ≤ c.toNat ∧ c.toNat < 0x7f then [c]
  else if c.toNat < 0x10000 then unitEscape c.toNat
  else
    let above := c.toNat - 0x10000
    unitEscape (0xd800 + above / 1024) ++ unitEscape (0xdc00 + above % 1024)

/-- The written form of one letter of a string. -/
def escapeLetter : Letter → List Char
  | .char c => escapeChar c
  | letter => unitEscape letter.code

/-- A string in its quotes. -/
def stringChars (text : Letters) : List Char := '"' :: text.letters.flatMap escapeLetter ++ ['"']

/-- The written form of a double-precision number. -/
def floatChars : Binary64 → List Char
  | .nan => "NaN".toList
  | .infinite negative => if negative then "-Infinity".toList else "Infinity".toList
  | value => value.toText.toList

mutual

/-- The document of a value, in front of `rest`. -/
def renderOnto (rest : List Char) : Json → List Char
  | .null => "null".toList ++ rest
  | .bool true => "true".toList ++ rest
  | .bool false => "false".toList ++ rest
  | .int value => (Number.decimal value).toList ++ rest
  | .float value => floatChars value ++ rest
  | .text value => stringChars value ++ rest
  | .list items => '[' :: renderItems (']' :: rest) items
  | .object members => '\x7b' :: renderMembers ('\x7d' :: rest) members

/-- Items with commas between them, in front of `rest`. -/
def renderItems (rest : List Char) : List Json → List Char
  | [] => rest
  | [item] => renderOnto rest item
  | item :: items => renderOnto (',' :: ' ' :: renderItems rest items) item

/-- Members with commas between them, in front of `rest`. -/
def renderMembers (rest : List Char) : List (Letters × Json) → List Char
  | [] => rest
  | [(key, value)] => stringChars key ++ ':' :: ' ' :: renderOnto rest value
  | (key, value) :: members =>
    stringChars key ++ ':' :: ' ' ::
      renderOnto (',' :: ' ' :: renderMembers rest members) value

end

/-- The document of a value. -/
def render (value : Json) : String := String.ofList (renderOnto [] value)

end Telematics.Json
