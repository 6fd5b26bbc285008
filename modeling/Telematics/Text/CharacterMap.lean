import Telematics.Text.Split

/-!
Maps that give a text for a character. A map is kept as runs of characters side by side, in
ascending order, and what the characters of a run become, with a line end between each other.

* `CharacterMap.find?`: what a character becomes, if the map tells.
* `CharacterMap.apply`: what a character becomes, itself if the map does not tell.
-/

namespace Telematics.Text

/-- A run of characters: the first code point, and what they become. -/
structure MappedRun where
  first : Nat
  written : List String
deriving DecidableEq, Repr

/-- A map that gives texts for characters. -/
abbrev CharacterMap := List MappedRun

/-- What a code point of the run becomes. -/
def MappedRun.find? (run : MappedRun) (code : Nat) : Option (List Char) :=
  (run.written.flatMap fun row => splitOn '\n' row.toList)[code - run.first]?

/-- What a code point becomes, if the map tells. -/
def CharacterMap.find? (map : CharacterMap) (code : Nat) : Option (List Char) :=
  (map.reverse.find? (·.first ≤ code)).bind (·.find? code)

/-- What a character becomes. -/
def CharacterMap.apply (map : CharacterMap) (c : Char) : List Char :=
  (map.find? c.toNat).getD [c]

/-- A code point in front of all runs becomes nothing else. -/
theorem CharacterMap.find?_eq_none {map : CharacterMap} {code : Nat}
    (before : ∀ run ∈ map, code < run.first) : map.find? code = none := by
  have none : map.reverse.find? (·.first ≤ code) = none := by
    simpa [List.find?_eq_none] using before
  simp [CharacterMap.find?, none]

end Telematics.Text
