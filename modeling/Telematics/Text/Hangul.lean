/-!
Syllables of the Korean alphabet. A syllable is an initial letter, a vowel and perhaps a final
letter, and its code point tells all three. In its name the letters are spelled one after another;
each letter is the longest one that fits.

* `syllable`: the character of the places of three letters.
* `spelledSyllable?`: the syllable of a spelling.
-/

namespace Telematics.Text

/-- The syllable of the places of its letters. -/
def syllable (initial vowel final : Nat) : Char :=
  Char.ofNat (0xac00 + initial * 588 + vowel * 28 + final)

/-- The spellings of the letters that begin a syllable. One of them is silent. -/
def initialSpellings : List String :=
  ["G", "GG", "N", "D", "DD", "R", "M", "B", "BB", "S", "SS", "", "J", "JJ", "C", "K", "T", "P",
    "H"]

/-- The spellings of the vowels. -/
def vowelSpellings : List String :=
  ["A", "AE", "YA", "YAE", "EO", "E", "YEO", "YE", "O", "WA", "WAE", "OE", "YO", "U", "WEO", "WE",
    "WI", "YU", "EU", "YI", "I"]

/-- The spellings of the letters that end a syllable. The first is for none. -/
def finalSpellings : List String :=
  ["", "G", "GG", "GS", "N", "NJ", "NH", "D", "L", "LG", "LM", "LB", "LS", "LT", "LP", "LH", "M",
    "B", "BS", "S", "SS", "NG", "J", "C", "K", "T", "P", "H"]

/-- The longer one of two spellings, each with its place. Of two that are as long, it is the
    first. -/
def longerSpelling (one other : String × Nat) : String × Nat :=
  if one.1.length < other.1.length then other else one

/-- The place of the longest spelling that a text begins with, and the rest of the text. -/
def longestSpelling? (spellings : List String) (text : List Char) : Option (Nat × List Char) :=
  match spellings.zipIdx.filter fun (spelling, _) => spelling.toList.isPrefixOf text with
  | [] => none
  | first :: others =>
    let (spelling, place) := others.foldl longerSpelling first
    some (place, text.drop spelling.length)

/-- The syllable of a spelling. -/
def spelledSyllable? (text : List Char) : Option Char := do
  let (initial, rest) ← longestSpelling? initialSpellings text
  let (vowel, rest) ← longestSpelling? vowelSpellings rest
  let (final, rest) ← longestSpelling? finalSpellings rest
  if rest = [] then some (syllable initial vowel final) else none

end Telematics.Text
