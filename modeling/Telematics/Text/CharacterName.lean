import Telematics.Text.CharacterName.Alphabets
import Telematics.Text.CharacterName.Ancient
import Telematics.Text.CharacterName.Asian
import Telematics.Text.CharacterName.Later
import Telematics.Text.CharacterName.Mathematical
import Telematics.Text.CharacterName.Notation
import Telematics.Text.CharacterName.Other
import Telematics.Text.CharacterName.Pictograph
import Telematics.Text.CharacterName.Pictorial
import Telematics.Text.CharacterName.Punctuation
import Telematics.Text.CharacterName.Signs
import Telematics.Text.CharacterName.Syllabic
import Telematics.Text.CodeRange
import Telematics.Text.Hangul
import Telematics.Text.Hex

/-!
Names of characters. A syllable of the Korean alphabet is named by its spelling and an ideograph by
its code point, both in capitals. All other names may be in either case.

* `charNamed?`: the character of a name.
-/

namespace Telematics.Text

/-- The names of characters that have names of their own. -/
def nameRuns : List NameRun :=
  alphabetsNames ++ southAsianNames ++ syllabicNames ++ punctuationNames ++ signsNames ++
    eastAsianNames ++ laterNames ++ ancientNames ++ pictorialNames ++ notationNames ++
    mathematicalNames ++ pictographNames

/-- What the names of some characters begin with; the rest of each is its code point. -/
def numberedNames : List (String × CodeRanges) := [
  ("CJK COMPATIBILITY IDEOGRAPH-", [(0xf900, 0xfa6d), (0xfa70, 0xfad9), (0x2f800, 0x2fa1d)]),
  ("KHITAN SMALL SCRIPT CHARACTER-", [(0x18b00, 0x18cd5)]),
  ("NUSHU CHARACTER-", [(0x1b170, 0x1b2fb)])]

/-- The ideographs that China, Japan and Korea share. -/
def unifiedIdeographs : CodeRanges := [
  (0x3400, 0x4dbf), (0x4e00, 0x9fff), (0x20000, 0x2a6df), (0x2a700, 0x2b738), (0x2b740, 0x2b81d),
  (0x2b820, 0x2cea1), (0x2ceb0, 0x2ebe0), (0x30000, 0x3134a)]

/-- A text behind a word that it begins with. -/
def behindWord? (word : String) (text : List Char) : Option (List Char) :=
  if word.toList.isPrefixOf text then some (text.drop word.length) else none

/-- The number of hexadecimal digits in capitals. -/
def capitalHexNumber? (digits : List Char) : Option Nat :=
  if digits.any Char.isLower then none else hexNumber? digits

/-- The character of the digits of a code point, if it is in a class. -/
def numberedChar? (ranges : CodeRanges) (digits : List Char) : Option Char := do
  let c := Char.ofNat (← capitalHexNumber? digits)
  if ranges.has c then some c else none

/-- The digits of a code point, without zeros in front of more than four digits. -/
def codePointText (c : Char) : List Char :=
  (hexDigits (if c.toNat < 0x10000 then 4 else 5) c.toNat).map Char.toUpper

/-- The code point of a name in capitals among those that have names of their own. -/
def codeNamed? (name : List Char) : Option Nat :=
  (otherNames.lookup (String.ofList name)).or
    (nameRuns.findSome? (·.find? (splitOn ' ' name)))

/-- The character of a name in capitals that ends in its code point. -/
def charNumbered? (name : List Char) : Option Char :=
  numberedNames.findSome? fun (word, ranges) => do
    let digits ← behindWord? word name
    let c ← numberedChar? ranges digits
    if codePointText c = digits then some c else none

/-- The character of a name. -/
def charNamed? (name : List Char) : Option Char :=
  match behindWord? "HANGUL SYLLABLE " name, behindWord? "CJK UNIFIED IDEOGRAPH-" name with
  | some spelling, _ => spelledSyllable? spelling
  | none, some digits =>
    if digits.length = 4 || digits.length = 5 then numberedChar? unifiedIdeographs digits else none
  | none, none =>
    let capitals := name.map Char.toUpper
    (charNumbered? capitals).or ((codeNamed? capitals).map Char.ofNat)

end Telematics.Text
