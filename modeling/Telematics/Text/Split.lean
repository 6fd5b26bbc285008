/-!
Splitting a text at a separator.

* `splitOn_ne_nil`: there is always at least one part.
* `length_splitOn`: one part more than separators.
-/

namespace Telematics.Text

/-- The parts of a text between the separators, empty parts included. -/
def splitOn {α : Type} [DecidableEq α] (separator : α) (text : List α) : List (List α) :=
  text.foldr (fun c parts =>
    if c = separator then [] :: parts
    else match parts with
      | [] => [[c]]
      | first :: others => (c :: first) :: others) [[]]

/-- The text before the first separator, and the text after it if there is one. -/
def splitFirst (separator : Char) (text : List Char) : List Char × Option (List Char) :=
  match text.span (· != separator) with
  | (before, []) => (before, none)
  | (before, _ :: after) => (before, some after)

/-- The text without one line feed at its end, if there is one. -/
def withoutLineEnd (text : List Char) : List Char :=
  if text.getLast? = some '\n' then text.dropLast else text

/-- The number of occurrences of a character. -/
def occurrences (c : Char) (text : List Char) : Nat := text.count c

theorem splitOn_ne_nil {α : Type} [DecidableEq α] (separator : α) (text : List α) :
    splitOn separator text ≠ [] := by
  cases text with
  | nil => simp [splitOn]
  | cons c rest =>
    simp only [splitOn, List.foldr_cons]
    split
    · simp
    · split <;> simp

theorem length_splitOn (separator : Char) (text : List Char) :
    (splitOn separator text).length = occurrences separator text + 1 := by
  induction text with
  | nil => rfl
  | cons c rest ih =>
    have nonempty := splitOn_ne_nil separator rest
    simp only [splitOn, occurrences] at ih nonempty
    by_cases same : c = separator
    · subst same
      simp [splitOn, occurrences, ih]
    · simp only [splitOn, occurrences, List.foldr_cons, if_neg same]
      split
      · contradiction
      · rename_i first others parts
        rw [parts] at ih
        simpa [List.count_cons, same] using ih

end Telematics.Text
