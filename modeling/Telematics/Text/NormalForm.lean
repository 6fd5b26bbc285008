import Telematics.Text.Normal.Composition
import Telematics.Text.Normal.Decomposition

/-!
The composed normal form of texts under compatibility. Every character is taken apart, marks that
combine with the same character are put into the order of their classes, and then characters are put
together again, as far as no other mark of the same class stands between them.

* `decomposed`: the characters that a text is made of, in their order.
* `normalForm`: the normal form.
* `length_absorb`: putting together makes no text longer.
-/

namespace Telematics.Text

/-- The class of a mark. Any other character has class zero. -/
def combiningClass (code : Nat) : Nat :=
  ((combiningClasses.find? fun (first, last, _) => first ≤ code && code ≤ last).map (·.2.2)).getD 0

/-! ## Korean syllables -/

/-- The first syllable. -/
def firstSyllable : Nat := 0xac00

/-- The first letters of the three kinds, the last one standing for none. -/
def firstInitial : Nat := 0x1100

@[inherit_doc firstInitial]
def firstVowel : Nat := 0x1161

@[inherit_doc firstInitial]
def noFinal : Nat := 0x11a7

/-- A code point is one of a number of them. -/
def isFrom (first count code : Nat) : Bool := first ≤ code && code < first + count

/-- The letters of a syllable. -/
def syllableLetters (code : Nat) : List Nat :=
  let place := code - firstSyllable
  let letters := [firstInitial + place / 588, firstVowel + place % 588 / 28]
  if place % 28 = 0 then letters else letters ++ [noFinal + place % 28]

/-- The syllable of an initial letter and a vowel, or of a syllable and a final letter. -/
def joinedSyllable? (code next : Nat) : Option Nat :=
  if isFrom firstInitial 19 code && isFrom firstVowel 21 next then
    some (firstSyllable + (code - firstInitial) * 588 + (next - firstVowel) * 28)
  else if isFrom firstSyllable 11172 code && (code - firstSyllable) % 28 = 0 &&
      isFrom (noFinal + 1) 27 next then
    some (code + (next - noFinal))
  else none

/-! ## Taking apart -/

/-- What a character is made of. -/
def partsOf (code : Nat) : List Nat :=
  if isFrom firstSyllable 11172 code then syllableLetters code
  else ((decompositions.find? code).map (·.map Char.toNat)).getD [code]

/-- Puts a character in front of a text whose marks are in order: behind the marks that come before
    it. -/
def insertMark (code : Nat) : List Nat → List Nat
  | [] => [code]
  | next :: rest =>
    if 0 < combiningClass next ∧ combiningClass next < combiningClass code then
      next :: insertMark code rest
    else code :: next :: rest

/-- The characters that a text is made of, with marks in order. -/
def decomposed (text : List Nat) : List Nat := (text.flatMap partsOf).foldr insertMark []

/-! ## Putting together -/

/-- What two characters make. -/
def joined? (code mark : Nat) : Option Nat :=
  (joinedSyllable? code mark).or do
    let found ← compositions.find? (·.mark = mark)
    made (found.written.flatMap fun row => row.toList.map Char.toNat)
where
  made : List Nat → Option Nat
    | one :: both :: rest => if one = code then some both else made rest
    | _ => none

/-- A character with the marks behind it that it can take in, and what remains of the text. A mark
    of the class `last` or of a lower one is kept from the character. -/
def absorb (code last : Nat) : List Nat → Nat × List Nat
  | [] => (code, [])
  | mark :: rest =>
    let own := combiningClass mark
    if last ≠ 0 && own = 0 then (code, mark :: rest)
    else if last ≠ 0 && own ≤ last then
      let (code, rest) := absorb code last rest
      (code, mark :: rest)
    else match joined? code mark with
      | some both => absorb both last rest
      | none =>
        if own = 0 then (code, mark :: rest)
        else
          let (code, rest) := absorb code own rest
          (code, mark :: rest)

/-- Putting together makes no text longer. -/
theorem length_absorb (code last : Nat) (text : List Nat) :
    (absorb code last text).2.length ≤ text.length := by
  fun_induction absorb code last text <;> simp_all
  omega

/-- A text whose characters are put together. -/
def composed : List Nat → List Nat
  | [] => []
  | code :: rest => (absorb code 0 rest).1 :: composed (absorb code 0 rest).2
termination_by text => text.length
decreasing_by exact Nat.lt_succ_of_le (length_absorb ..)

/-- The normal form of a text. -/
def normalForm (text : List Nat) : List Nat := composed (decomposed text)

end Telematics.Text
