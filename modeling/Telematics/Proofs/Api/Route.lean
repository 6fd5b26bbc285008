import Telematics.Api.Route
import Telematics.Proofs.Http.Written

/-!
Paths of commands. An identifier is written into a URL with escapes. It is read back from there
whatever characters it has, but the path leads to the commands of its device only if the identifier
is not empty and has no slash. The path of any other identifier leads nowhere.

* `endsPath`, `isPathText`: the characters that a path has none of. `Url.read_path`: a URL that is a
  path alone.
* `pathText_of_escapes`: a path that is written with escapes is read back.
* `SegmentText`: how an identifier is written. `segmentText_percentEncode`: a writer that writes it
  so.
* `IsNameable`: the identifiers that lead to their devices. `target_commandsPath`: where a path of
  commands leads.
-/

namespace Telematics

/-! ## URLs -/

namespace Http

/-- A character that does not stay in a path: it ends the path, or counts nowhere. -/
def endsPath (c : Char) : Bool := c = '?' || c = '#' || isInnerNoise c

/-- All characters of a text stay in a path. -/
def isPathText (text : List Char) : Bool := text.all (!endsPath ·)

theorem endsPath_of_mem {text : List Char} (stays : isPathText text = true) {c : Char}
    (among : c ∈ text) : endsPath c = false := by
  simpa using List.all_eq_true.mp stays c among

/-- A text that begins with a slash has no scheme. -/
theorem withoutScheme_path (rest : List Char) : withoutScheme ('/' :: rest) = '/' :: rest := by
  unfold withoutScheme
  split
  · rename_i first others after parts
    have front : first :: others = ('/' :: rest).takeWhile (· != ':') := by
      rw [← Text.splitFirst_fst, parts]
    have slash : first = '/' := (List.cons.inj front).1
    rw [slash]
    rfl
  · rfl

/-- A URL that is a path alone, and does not begin as one with a server, tells that path. -/
theorem Url.read_path {first : Char} {rest : List Char} (other : first ≠ '/')
    (stays : isPathText ('/' :: first :: rest) = true) :
    Url.read ('/' :: first :: rest) = .ok ⟨'/' :: first :: rest, []⟩ := by
  have lead : ('/' :: first :: rest).dropWhile isLeadingNoise = '/' :: first :: rest := rfl
  have quiet : ('/' :: first :: rest).filter (!isInnerNoise ·) = '/' :: first :: rest := by
    rw [List.filter_eq_self]
    intro c among
    rw [(Bool.or_eq_false_iff.mp (endsPath_of_mem stays among)).2]
    rfl
  have server : splitServer ('/' :: first :: rest) = ([], '/' :: first :: rest) := by
    unfold splitServer
    split
    · rename_i same
      exact absurd (List.cons.inj (List.cons.inj same).2).1 other
    · rfl
  have absent : ∀ mark, endsPath mark = true → mark ∉ '/' :: first :: rest := by
    intro mark ends among
    rw [endsPath_of_mem stays among] at ends
    cases ends
  have whole : Text.splitFirst '?' (Text.splitFirst '#' ('/' :: first :: rest)).1 =
      ('/' :: first :: rest, none) := by
    rw [Text.splitFirst_of_notMem (absent '#' rfl), Text.splitFirst_of_notMem (absent '?' rfl)]
  rw [Url.read, lead, quiet]
  dsimp only
  rw [withoutScheme_path, server]
  dsimp only
  rw [whole]
  rfl

end Http

namespace Api

/-! ## Paths -/

/-- A path that is written with escapes is read back. -/
theorem pathText_of_escapes {plain text : List Char} (filled : plain ≠ [])
    (escapes : Text.Escapes (Text.utf8Bytes plain) text) : pathText text = plain := by
  have pieces : (Text.utf8Pieces (Text.percentBytes text)).flatMap pieceText = plain := by
    rw [Text.percentBytes_of_escapes escapes, Text.utf8Pieces_utf8Bytes, List.flatMap_map]
    exact List.flatMap_singleton' plain
  rw [pathText, pieces]
  cases plain with
  | nil => exact absurd rfl filled
  | cons c rest => rfl

/-- What is between a beginning and an end is found. -/
theorem between?_append (start middle stop : List Char) :
    between? start stop (start ++ middle ++ stop) = some middle := by
  have front : start.isPrefixOf (start ++ middle ++ stop) = true := by simp
  have behind : (start ++ middle ++ stop).drop start.length = middle ++ stop := by simp
  have back : stop.isSuffixOf (middle ++ stop) = true := by simp
  have size : (start ++ middle ++ stop).length - start.length - stop.length = middle.length := by
    simp only [List.length_append]
    omega
  rw [between?, front, behind, back, size]
  simp

/-- The path of the commands of a device, with its identifier as it is or as it is written. -/
def commandsPath (identifier : List Char) : List Char :=
  commandsStart.toList ++ identifier ++ commandsEnd.toList

/-- The identifiers that a path leads to: those that are not empty and have no slash. -/
def IsNameable (uniqueId : String) : Prop := uniqueId ≠ "" ∧ '/' ∉ uniqueId.toList

instance (uniqueId : String) : Decidable (IsNameable uniqueId) :=
  inferInstanceAs (Decidable (_ ∧ _))

/-- A path of commands leads to the commands of the identifier in it, if it can be named. -/
theorem route?_commandsPath (uniqueId : String) :
    route? (commandsPath uniqueId.toList) =
      if IsNameable uniqueId then some (.commands uniqueId) else none := by
  have start : commandsStart.toList.isPrefixOf (commandsPath uniqueId.toList) = true := by
    simp [commandsPath]
  have elsewhere : ∀ path : List Char, commandsStart.toList.isPrefixOf path = false →
      commandsPath uniqueId.toList ≠ path := by
    rintro _ apart rfl
    rw [start] at apart
    cases apart
  have unnameable : (uniqueId.toList = [] || uniqueId.toList.contains '/') = true ↔
      ¬ IsNameable uniqueId := by
    simp [IsNameable]
    tauto
  rw [route?, if_neg (elsewhere _ (by decide)), if_neg (elsewhere _ (by decide)), commandsPath,
    between?_append]
  dsimp only
  by_cases named : IsNameable uniqueId
  · rw [if_neg (mt unnameable.mp (not_not.mpr named)), if_pos named, String.ofList_toList]
  · rw [if_pos (unnameable.mpr named), if_neg named]

/-- Where a path of commands leads: to the commands of the identifier in it, or nowhere. -/
theorem target_commandsPath {request : Http.Request} {uniqueId : String}
    (path : pathText request.path = commandsPath uniqueId.toList) :
    target request = if IsNameable uniqueId then .route (.commands uniqueId) else .nothing := by
  have slash : (commandsPath uniqueId.toList).getLast? = some '/' := by
    rw [commandsPath, List.getLast?_append]
    rfl
  rw [target, path, route?_commandsPath]
  by_cases named : IsNameable uniqueId
  · rw [if_pos named, if_pos named]
  · rw [if_neg named, if_neg named, slash]
    rfl

/-! ## Identifiers in paths -/

/-- How an identifier is written in a path: with escapes, and without characters that do not stay
    there. -/
structure SegmentText (uniqueId : String) (text : List Char) : Prop where
  escapes : Text.Escapes (Text.utf8Bytes uniqueId.toList) text
  stays : Http.isPathText text = true

/-- An identifier is written in a path by a writer that escapes percent signs, and the characters
    that do not stay there. -/
theorem segmentText_percentEncode {keep : Char → Bool} (percent : keep '%' = false)
    (marks : ∀ c, Http.endsPath c = true → keep c = false) (uniqueId : String) :
    SegmentText uniqueId (Text.percentEncode keep uniqueId.toList) where
  escapes := Text.escapes_percentEncode percent uniqueId.toList
  stays := by
    have digits : ∀ n, n < 16 → Http.endsPath (Text.hexDigit n).toUpper = false := by decide
    -- What is written is a character that stays, a percent sign or a digit.
    refine List.all_eq_true.mpr fun c among => ?_
    rw [Bool.not_eq_true', Bool.eq_false_iff]
    intro ends
    refine Text.notMem_percentEncode (marks c ends) ?_ (fun n small => ?_) _ among
    · rintro rfl
      cases ends
    · rintro rfl
      rw [digits n small] at ends
      cases ends

/-- Letters and digits stay in a path. -/
theorem isAlphanum_of_endsPath {c : Char} (ends : Http.endsPath c = true) :
    c.isAlphanum = false := by
  simp only [Http.endsPath, Http.isInnerNoise, Bool.or_eq_true, decide_eq_true_eq, or_assoc]
    at ends
  rcases ends with rfl | rfl | rfl | rfl | rfl <;> rfl

variable {uniqueId : String} {text : List Char}

/-- The URL of commands tells the path that it is. -/
theorem SegmentText.read (segment : SegmentText uniqueId text) :
    Http.Url.read (commandsPath text) = .ok ⟨commandsPath text, []⟩ := by
  have stays : Http.isPathText (commandsPath text) = true := by
    have inside : text.all (!Http.endsPath ·) = true := segment.stays
    rw [Http.isPathText, commandsPath, List.all_append, List.all_append, inside]
    decide
  exact Http.Url.read_path (by decide : 'a' ≠ '/') stays

/-- The identifier in a path is read back. -/
theorem SegmentText.pathText (segment : SegmentText uniqueId text) :
    pathText (commandsPath text) = commandsPath uniqueId.toList := by
  have start : Text.Escapes (Text.utf8Bytes commandsStart.toList) commandsStart.toList :=
    Text.escapes_of_ascii (Text.ascii_of_all (by decide)) (by decide)
  have stop : Text.Escapes (Text.utf8Bytes commandsEnd.toList) commandsEnd.toList :=
    Text.escapes_of_ascii (Text.ascii_of_all (by decide)) (by decide)
  refine pathText_of_escapes (by simp [commandsPath, commandsEnd]) ?_
  rw [commandsPath, Text.utf8Bytes_append, Text.utf8Bytes_append]
  exact (start.append segment.escapes).append stop

end Api

end Telematics
