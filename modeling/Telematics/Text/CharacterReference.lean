import Telematics.Text.CharacterReference.Named
import Telematics.Text.CodeRange
import Telematics.Text.Hex
import Telematics.Text.Split

/-!
References to characters, as they are written in hypertext: an ampersand, a name or a number, and a
semicolon, which may be missing behind numbers and behind some names.

* `withoutReferences`: a text in which the characters stand for their references.
* `withoutReferences_of_plain`: a text without ampersands stays as it is.
-/

namespace Telematics.Text

/-- What the name of a reference stands for. -/
def referenceNamed? (name : List Char) : Option (List Char) :=
  namedReferences.findSome? fun row =>
    (splitOn ' ' row.toList).findSome? fun entry =>
      match splitFirst '=' entry with
      | (known, some chars) => if known = name then some chars else none
      | (_, none) => none

/-- What a name stands for behind which the semicolon is missing. -/
def openReference? (name : List Char) : Option (List Char) :=
  if openReferences.any fun row => (splitOn ' ' row.toList).contains name then referenceNamed? name
  else none

/-- The characters that are meant by the numbers from 0x80 to 0x9F. -/
def oldCharacters : String :=
  "\u20ac\u0081\u201a\u0192\u201e\u2026\u2020\u2021\u02c6\u2030\u0160\u2039\u0152\u008d" ++
    "\u017d\u008f\u0090\u2018\u2019\u201c\u201d\u2022\u2013\u2014\u02dc\u2122\u0161\u203a" ++
    "\u0153\u009d\u017e\u0178"

/-- The numbers of controls, for which nothing stands. -/
def controlRanges : CodeRanges :=
  [(0x1, 0x8), (0xb, 0xb), (0xe, 0x1f), (0x7f, 0x7f), (0xfdd0, 0xfdef)]

/-- The characters of a number. -/
def numberedReference (number : Nat) : List Char :=
  if number = 0 then ['\uFFFD']
  else if 0x80 ≤ number && number < 0xa0 then oldCharacters.toList[number - 0x80]?.toList
  else if (0xd800 ≤ number && number < 0xe000) || 0x110000 ≤ number then ['\uFFFD']
  else if controlRanges.hasCode number || 0xfffe ≤ number % 0x10000 then []
  else [Char.ofNat number]

/-- The characters of a reference and its length without the ampersand. -/
abbrev Reference := List Char × Nat

/-- The length of digits, with the semicolon behind them if there is one. -/
def closedLength (digits rest : List Char) : Nat :=
  digits.length + (if rest.head? = some ';' then 1 else 0)

/-- A reference by a number, behind its number sign. -/
def numericReference? (text : List Char) : Option Reference :=
  let decimal := text.takeWhile Char.isDigit
  let behindX := text.drop 1
  let hexadecimal := behindX.takeWhile fun c => (hexValue? c).isSome
  if decimal ≠ [] then
    let number := decimal.foldl (fun value c => value * 10 + (c.toNat - '0'.toNat)) 0
    some (numberedReference number, 1 + closedLength decimal (text.drop decimal.length))
  else if (text.head? = some 'x' || text.head? = some 'X') && hexadecimal ≠ [] then
    some (numberedReference ((hexNumber? hexadecimal).getD 0),
      2 + closedLength hexadecimal (behindX.drop hexadecimal.length))
  else none

/-- A character that may be in the name of a reference. -/
def isNameChar (c : Char) : Bool := !"\t\n\x0c <&#;".toList.contains c

/-- The greatest length of a name. -/
def nameLimit : Nat := 32

/-- The longest part of a name, of two characters at least, that stands for something, and what
    remains of the name. -/
def longestReference? (name : List Char) : Nat → Option (List Char × List Char)
  | 0 => none
  | length + 1 =>
    if length = 0 then none
    else match openReference? (name.take (length + 1)) with
      | some chars => some (chars, name.drop (length + 1))
      | none => longestReference? name length

/-- A reference by a name. -/
def nameReference? (text : List Char) : Option Reference :=
  let name := (text.take nameLimit).takeWhile isNameChar
  let closed := (text.drop name.length).head? = some ';'
  let whole := if closed then referenceNamed? name else openReference? name
  let size := name.length + (if closed then 1 else 0)
  match whole with
  | some chars => some (chars, size)
  | none =>
    (longestReference? name (size - 1)).map fun (chars, rest) =>
      (chars ++ rest ++ (if closed then [';'] else []), size)

/-- The reference behind an ampersand. -/
def reference? : List Char → Option Reference
  | '#' :: rest => numericReference? rest
  | text => nameReference? text

/-- A text without references. `skipped` characters belong to one. -/
def withoutReferencesFrom (skipped : Nat) : List Char → List Char
  | [] => []
  | c :: rest =>
    if 0 < skipped then withoutReferencesFrom (skipped - 1) rest
    else if c = '&' then
      match reference? rest with
      | some (chars, size) => chars ++ withoutReferencesFrom size rest
      | none => c :: withoutReferencesFrom 0 rest
    else c :: withoutReferencesFrom 0 rest

/-- A text in which the characters stand for their references. -/
def withoutReferences (text : List Char) : List Char := withoutReferencesFrom 0 text

/-- A text without ampersands stays as it is. -/
theorem withoutReferences_of_plain {text : List Char} (plain : '&' ∉ text) :
    withoutReferences text = text := by
  simp only [withoutReferences]
  induction text with
  | nil => rfl
  | cons c rest ih =>
    have other : c ≠ '&' := fun equal => plain (equal ▸ List.mem_cons_self ..)
    simp [withoutReferencesFrom, other, ih (fun present => plain (List.mem_cons_of_mem _ present))]

end Telematics.Text
