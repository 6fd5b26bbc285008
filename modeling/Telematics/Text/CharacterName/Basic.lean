import Telematics.Text.Split

/-!
Runs of named characters. In many names the first words are those of the name before it, so a name
is kept as the number of the words that it shares with that one, and its other words.

* `NameRun.names`: the names of a run.
* `NameRun.find?`: the code point of a name.
* `NameRun.find?_eq_some`: what is found bears the name.
-/

namespace Telematics.Text

/-- A name, by its words. -/
abbrev Words := List (List Char)

/-- Characters side by side: the first code point, and the names of all of them in rows, with a
    solidus between each other. -/
structure NameRun where
  first : Nat
  written : List String
deriving DecidableEq, Repr

/-- The names that are written one after another, behind a name. -/
def namesBehind (before : Words) : List (List Char) → List Words
  | [] => []
  | [] :: rest => [] :: namesBehind [] rest
  | (shared :: own) :: rest =>
    let words := before.take (shared.toNat - '0'.toNat) ++ splitOn ' ' own
    words :: namesBehind words rest

/-- The names of a run. -/
def NameRun.names (run : NameRun) : List Words :=
  namesBehind [] (run.written.flatMap fun row => splitOn '/' row.toList)

/-- The code point of a name. -/
def NameRun.find? (run : NameRun) (name : Words) : Option Nat :=
  (run.names.idxOf? name).map (run.first + ·)

/-- There are as many names as written entries. -/
theorem length_namesBehind (before : Words) (entries : List (List Char)) :
    (namesBehind before entries).length = entries.length := by
  fun_induction namesBehind before entries <;> simp_all

/-- What is found bears the name. -/
theorem NameRun.find?_eq_some {run : NameRun} {name : Words} {code : Nat}
    (found : run.find? name = some code) : run.names[code - run.first]? = some name := by
  obtain ⟨place, there, rfl⟩ := Option.map_eq_some_iff.1 found
  obtain ⟨inside, bears, _⟩ := List.idxOf?_eq_some_iff.1 there
  rw [Nat.add_sub_cancel_left, List.getElem?_eq_getElem inside, bears]

end Telematics.Text
