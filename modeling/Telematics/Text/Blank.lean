import Telematics.Text.CodeRange

/-!
Blank characters and trimming. A blank is any character of the Unicode property White_Space or
one of the four information separators U+001C to U+001F. Around a number the information
separators do not count as blank, so numbers have a narrower padding.

* `isBlank_of_isPadding`: padding is blank.
* `trim_nil`, `trimPadding_nil`: nothing is trimmed from the empty text.
-/

namespace Telematics.Text

/-- The code points of blank characters. -/
def blankRanges : CodeRanges := [
  (0x9, 0xd), (0x1c, 0x20), (0x85, 0x85), (0xa0, 0xa0), (0x1680, 0x1680), (0x2000, 0x200a),
  (0x2028, 0x2029), (0x202f, 0x202f), (0x205f, 0x205f), (0x3000, 0x3000)
]

/-- A blank character: white space or an information separator. -/
def isBlank (c : Char) : Bool := blankRanges.has c

/-- A blank that may surround a number: every blank but the information separators. -/
def isPadding (c : Char) : Bool := isBlank c && !(0x1c ≤ c.toNat && c.toNat ≤ 0x1f)

/-- The text without the characters of a class at its end. -/
def trimEnd (skip : Char → Bool) (text : List Char) : List Char :=
  (text.reverse.dropWhile skip).reverse

/-- The text without the characters of a class at both ends. -/
def trimBy (skip : Char → Bool) (text : List Char) : List Char :=
  trimEnd skip (text.dropWhile skip)

/-- The text without blanks at both ends. -/
def trim (text : List Char) : List Char := trimBy isBlank text

/-- The text without number padding at both ends. -/
def trimPadding (text : List Char) : List Char := trimBy isPadding text

theorem isBlank_of_isPadding {c : Char} (padding : isPadding c = true) : isBlank c = true := by
  simp only [isPadding, Bool.and_eq_true] at padding
  exact padding.1

@[simp] theorem trim_nil : trim [] = [] := rfl

@[simp] theorem trimPadding_nil : trimPadding [] = [] := rfl

/-- Lower case on the ASCII letters. It decides every comparison with a lower-case ASCII word that
    has neither an i nor a k, since no other character has a lower case with such a letter. -/
def lowerAscii (text : String) : String := String.ofList (text.toList.map Char.toLower)

end Telematics.Text
