import Mathlib.Data.List.Basic
import Telematics.Json.Parser

/-!
How deep documents may be nested. The reader stops at a list or an object that stands in as many
others as the limit allows. It stops for nothing else in this way: a document is never so long that
the bound on the recursion is met, and one that opens fewer lists and objects than the limit allows
is read as deep as it goes.

* `IsBehind`: what is left of a text behind something that has been read.
* `brackets`: the number of lists and objects that a text opens.
* `Bounded`: what reading with a bound on the recursion and a bound on the depth comes to.
* `brackets_of_tooDeep`: a document that is nested too deeply opens more lists and objects than the
  limit allows. `parse_lists`: so many lists inside each other are nested too deeply.
-/

namespace Telematics.Json

/-! ## What is left of a text -/

/-- A text is left of another behind at least one character. -/
structure IsBehind (rest text : List Char) : Prop where
  suffix : rest <:+ text
  shorter : rest.length < text.length

theorem IsBehind.trans {first second third : List Char} (one : IsBehind first second)
    (two : IsBehind second third) : IsBehind first third :=
  ⟨one.suffix.trans two.suffix, Nat.lt_trans one.shorter two.shorter⟩

theorem isBehind_cons (c : Char) (rest : List Char) : IsBehind rest (c :: rest) :=
  ⟨List.suffix_cons c rest, Nat.lt_succ_self _⟩

theorem IsBehind.cons {rest text : List Char} (behind : IsBehind rest text) (c : Char) :
    IsBehind rest (c :: text) :=
  behind.trans (isBehind_cons c text)

/-- Blanks may be passed over on either side. -/
theorem IsBehind.skipGap {rest text : List Char} (behind : IsBehind rest text) :
    IsBehind (skipGap rest) text := by
  have gone : Json.skipGap rest <:+ rest := List.dropWhile_suffix _
  exact ⟨gone.trans behind.suffix, Nat.lt_of_le_of_lt gone.length_le behind.shorter⟩

theorem isBehind_of_skipGap_eq {c : Char} {rest text : List Char}
    (gap : skipGap text = c :: rest) : IsBehind rest text := by
  have gone : c :: rest <:+ text := gap ▸ List.dropWhile_suffix _
  exact ⟨(List.suffix_cons c rest).trans gone, Nat.lt_of_succ_le gone.length_le⟩

/-- Dropping characters of a text that has some leaves a text behind them. -/
theorem isBehind_drop {text : List Char} {count : Nat} (some_ : 0 < count) (filled : text ≠ []) :
    IsBehind (text.drop count) text := by
  refine ⟨List.drop_suffix count text, ?_⟩
  have positive := List.length_pos_iff.mpr filled
  rw [List.length_drop]
  omega

theorem isBehind_of_takeString {start : Nat} {text rest : List Char} {value : Letters}
    {skip : Nat} {read : List Letter}
    (taken : takeString start read skip text = .ok (value, rest)) : IsBehind rest text := by
  induction text generalizing read skip with
  | nil => cases skip <;> cases taken
  | cons c text ih =>
    cases skip with
    | succ skip => exact (ih taken).cons c
    | zero =>
      unfold takeString at taken
      split at taken
      · cases taken
        exact isBehind_cons _ _
      split at taken
      · -- Behind a backslash there is an escape of several characters or of one.
        split at taken
        · cases taken
        split at taken
        · split at taken
          · cases taken
          · exact (ih taken).cons c
        · split at taken
          · exact (ih taken).cons c
          · cases taken
      split at taken
      · cases taken
      · exact (ih taken).cons c

theorem eq_append_of_afterWord? {word text rest : List Char}
    (found : afterWord? word text = some rest) : text = word ++ rest := by
  induction word generalizing text with
  | nil =>
    cases found
    rfl
  | cons w word ih =>
    cases text with
    | nil => cases found
    | cons c text =>
      rw [afterWord?] at found
      split at found
      · rename_i same
        rw [ih found, same, List.cons_append]
      · cases found

theorem isBehind_of_takeWord? {table : List (String × Json)}
    (words : ∀ entry ∈ table, entry.1.toList ≠ []) {text rest : List Char} {name : String}
    {value : Json} (found : takeWord? table text = some (name, value, rest)) :
    IsBehind rest text := by
  obtain ⟨⟨word, meaning⟩, listed, one⟩ := List.exists_of_findSome?_eq_some found
  obtain ⟨behind, after, same⟩ := Option.map_eq_some_iff.mp one
  cases same
  rw [eq_append_of_afterWord? after]
  refine ⟨List.suffix_append _ _, ?_⟩
  have filled : 0 < name.toList.length := List.length_pos_iff.mpr (words _ listed)
  rw [List.length_append]
  omega

theorem isBehind_of_takeNumber {text rest : List Char} {value : Json}
    (taken : takeNumber text = .ok (value, rest)) : IsBehind rest text := by
  unfold takeNumber at taken
  extract_lets sign unsigned whole fraction exponent numeral behind at taken
  split at taken
  · cases taken
  rename_i digits
  -- Whatever kind of number it is, its whole part is gone.
  have gone : IsBehind behind text := by
    have some_ : 0 < whole.length := List.length_pos_iff.mpr (by simpa using digits)
    have filled : unsigned ≠ [] := by
      intro none
      have : whole = [] := by simp only [whole, none]; rfl
      exact digits (by rw [this]; rfl)
    have inside : IsBehind behind unsigned := isBehind_drop (by omega) filled
    have front : unsigned <:+ text := List.drop_suffix _ _
    exact ⟨inside.suffix.trans front, Nat.lt_of_lt_of_le inside.shorter front.length_le⟩
  have kept : behind = rest := by
    split at taken <;> split at taken
    · exact congrArg Prod.snd (Except.ok.inj taken)
    · cases taken
    · exact congrArg Prod.snd (Except.ok.inj taken)
    · cases taken
  exact kept ▸ gone

theorem isBehind_of_takeScalar {lenient : Bool} {text rest : List Char} {value : Json}
    (taken : takeScalar lenient text = .ok (value, rest)) : IsBehind rest text := by
  unfold takeScalar at taken
  split at taken
  · rename_i found
    cases taken
    exact isBehind_of_takeWord? (by decide) found
  · split at taken
    · rename_i found
      split at taken
      · cases taken
        exact isBehind_of_takeWord? (by decide) found
      · cases taken
    · exact isBehind_of_takeNumber taken

/-! ## Depth -/

/-- The number of lists and objects that a text opens. -/
def brackets (text : List Char) : Nat := text.count '[' + text.count '\x7b'

theorem IsBehind.brackets_le {rest text : List Char} (behind : IsBehind rest text) :
    brackets rest ≤ brackets text :=
  Nat.add_le_add (behind.suffix.sublist.count_le _) (behind.suffix.sublist.count_le _)

theorem brackets_opened {c : Char} (opens : c = '[' ∨ c = '\x7b') (rest : List Char) :
    brackets (c :: rest) = brackets rest + 1 := by
  rcases opens with rfl | rfl <;> simp [brackets] <;> omega

/-- What reading at a bounded depth comes to: something is left behind what is read, and it is
    nested too deeply only if the text opens more than the depth allows, as long as the bound on the
    recursion is not met. -/
structure Bounded (depth : Nat) (enough : Prop) (text : List Char)
    (result : Except Stop (Json × List Char)) : Prop where
  behind : ∀ {value rest}, result = .ok (value, rest) → IsBehind rest text
  deep : result = .error .tooDeep → enough → depth < brackets text

/-- What is bounded behind the beginning of a text is bounded from there on. -/
theorem Bounded.of_behind {depth : Nat} {enough less : Prop} {rest text : List Char}
    {result : Except Stop (Json × List Char)} (bounded : Bounded depth less rest result)
    (behind : IsBehind rest text) (suffices_ : enough → less) :
    Bounded depth enough text result where
  behind read := (bounded.behind read).trans behind
  deep stopped fuel := Nat.lt_of_lt_of_le (bounded.deep stopped (suffices_ fuel)) behind.brackets_le

theorem bounded_ok {depth : Nat} {enough : Prop} {rest text : List Char} {value : Json}
    (behind : IsBehind rest text) : Bounded depth enough text (.ok (value, rest)) where
  behind read := by
    cases read
    exact behind
  deep := nofun

/-- A complaint is no matter of depth. -/
theorem bounded_error {depth : Nat} {enough : Prop} {text : List Char} {stop : Stop}
    (other : stop ≠ .tooDeep) : Bounded depth enough text (.error stop) where
  behind := nofun
  deep stopped := absurd (Except.error.inj stopped) other

theorem takeUnicode_ne_tooDeep (text : List Char) : takeUnicode text ≠ .error .tooDeep := by
  unfold takeUnicode
  repeat' split
  all_goals nofun

theorem takeString_ne_tooDeep (start : Nat) (read : List Letter) (skip : Nat) (text : List Char) :
    takeString start read skip text ≠ .error .tooDeep := by
  induction text generalizing read skip with
  | nil => cases skip <;> nofun
  | cons c text ih =>
    cases skip with
    | succ skip => exact ih _ _
    | zero =>
      unfold takeString
      split
      · nofun
      split
      · split
        · nofun
        split
        · split
          · rename_i failed
            intro same
            cases same
            exact takeUnicode_ne_tooDeep _ failed
          · exact ih _ _
        · split
          · exact ih _ _
          · nofun
      split
      · nofun
      · exact ih _ _

theorem takeScalar_ne_tooDeep (lenient : Bool) (text : List Char) :
    takeScalar lenient text ≠ .error .tooDeep := by
  unfold takeScalar takeNumber
  dsimp only
  repeat' split
  all_goals nofun

/-- A value is read within the bounds if lists and objects are. -/
theorem takeValue_bounded {lenient : Bool} {fuel : Nat}
    (items : ∀ depth read text, Bounded depth (2 * text.length + 2 ≤ fuel) text
      (takeItems lenient fuel depth read text))
    (members : ∀ depth read text, Bounded depth (2 * text.length + 2 ≤ fuel) text
      (takeMembers lenient fuel depth read text))
    (depth : Nat) (text : List Char) :
    Bounded depth (2 * text.length + 1 ≤ fuel + 1) text
      (takeValue lenient (fuel + 1) depth text) := by
  -- A list or an object takes one from the depth, and its bracket is counted for it.
  have inside : ∀ {c : Char} {rest behind : List Char} {below : Nat}
      {result : Except Stop (Json × List Char)}, c = '[' ∨ c = '\x7b' → behind <:+ rest →
      Bounded below (2 * behind.length + 2 ≤ fuel) behind result →
      Bounded (below + 1) (2 * (c :: rest).length + 1 ≤ fuel + 1) (c :: rest) result := by
    intro c rest behind below result opens left bounded
    have shorter := left.length_le
    have counted : brackets behind ≤ brackets rest :=
      Nat.add_le_add (left.sublist.count_le _) (left.sublist.count_le _)
    refine ⟨fun read => (bounded.behind read).trans
      ⟨left.trans (List.suffix_cons c rest), Nat.lt_succ_of_le shorter⟩, fun stopped fuel => ?_⟩
    have deep := bounded.deep stopped (by simp only [List.length_cons] at fuel; omega)
    rw [brackets_opened opens]
    omega
  unfold takeValue
  split
  · split
    · rename_i taken
      exact bounded_ok ((isBehind_of_takeString taken).cons _)
    · rename_i stop failed
      exact bounded_error fun same => takeString_ne_tooDeep _ _ _ _ (same ▸ failed)
  · rename_i rest
    split
    · exact ⟨nofun, fun _ _ => by rw [brackets_opened (.inl rfl)]; omega⟩
    · split
      · rename_i closed
        exact bounded_ok ((isBehind_of_skipGap_eq closed).cons _)
      · exact inside (.inl rfl) (List.dropWhile_suffix _) (items _ _ _)
  · rename_i rest
    split
    · exact ⟨nofun, fun _ _ => by rw [brackets_opened (.inr rfl)]; omega⟩
    · split
      · rename_i closed
        exact bounded_ok ((isBehind_of_skipGap_eq closed).cons _)
      · exact inside (.inr rfl) (List.dropWhile_suffix _) (members _ _ _)
  · exact ⟨isBehind_of_takeScalar, fun stopped => absurd stopped (takeScalar_ne_tooDeep _ _)⟩

/-- Items are read within the bounds if values and fewer items are. -/
theorem takeItems_bounded {lenient : Bool} {fuel : Nat}
    (values : ∀ depth text, Bounded depth (2 * text.length + 1 ≤ fuel) text
      (takeValue lenient fuel depth text))
    (items : ∀ depth read text, Bounded depth (2 * text.length + 2 ≤ fuel) text
      (takeItems lenient fuel depth read text))
    (depth : Nat) (read : List Json) (text : List Char) :
    Bounded depth (2 * text.length + 2 ≤ fuel + 1) text
      (takeItems lenient (fuel + 1) depth read text) := by
  have value := values depth text
  unfold takeItems
  split
  · rename_i stop failed
    rw [failed] at value
    exact ⟨nofun, fun stopped enough => value.deep (by rw [Except.error.inj stopped]) (by omega)⟩
  · rename_i item rest taken
    have behind := value.behind taken
    split
    · rename_i closed
      exact bounded_ok ((isBehind_of_skipGap_eq closed).trans behind)
    · rename_i next more
      have gone := (isBehind_of_skipGap_eq more).trans behind
      have shorter := (isBehind_of_skipGap_eq more).shorter
      have left := behind.shorter
      refine (items depth (item :: read) (skipGap next)).of_behind gone.skipGap fun enough => ?_
      have skipped : (skipGap next).length ≤ next.length := (List.dropWhile_suffix _).length_le
      omega
    · exact bounded_error nofun

/-- Members are read within the bounds if values and fewer members are. -/
theorem takeMembers_bounded {lenient : Bool} {fuel : Nat}
    (values : ∀ depth text, Bounded depth (2 * text.length + 1 ≤ fuel) text
      (takeValue lenient fuel depth text))
    (members : ∀ depth read text, Bounded depth (2 * text.length + 2 ≤ fuel) text
      (takeMembers lenient fuel depth read text))
    (depth : Nat) (read : Members) (text : List Char) :
    Bounded depth (2 * text.length + 2 ≤ fuel + 1) text
      (takeMembers lenient (fuel + 1) depth read text) := by
  unfold takeMembers
  split
  case h_2 => exact bounded_error nofun
  rename_i rest
  split
  · rename_i stop failed
    exact bounded_error fun same => takeString_ne_tooDeep _ _ _ _ (same ▸ failed)
  rename_i key behind taken
  have keyed : IsBehind behind ('"' :: rest) := (isBehind_of_takeString taken).cons _
  split
  case h_2 => exact bounded_error nofun
  rename_i after colon
  have begun := ((isBehind_of_skipGap_eq colon).trans keyed).skipGap
  have value := values depth (skipGap after)
  split
  · rename_i stop failed
    rw [failed] at value
    have shorter := begun.shorter
    refine ⟨nofun, fun stopped enough => ?_⟩
    have deep := value.deep (by rw [Except.error.inj stopped]) (by omega)
    exact Nat.lt_of_lt_of_le deep begun.brackets_le
  · rename_i member left taken
    have gone := (value.behind taken).trans begun
    split
    · rename_i closed
      exact bounded_ok ((isBehind_of_skipGap_eq closed).trans gone)
    · rename_i next more
      have behind := (isBehind_of_skipGap_eq more).trans gone
      have shorter := (isBehind_of_skipGap_eq more).shorter
      have left := gone.shorter
      refine (members depth (read.put key member) (skipGap next)).of_behind behind.skipGap
        fun enough => ?_
      have skipped : (skipGap next).length ≤ next.length := (List.dropWhile_suffix _).length_le
      omega
    · exact bounded_error nofun

/-- Reading keeps the bounds, by induction on the bound on the recursion. -/
theorem reading_bounded (lenient : Bool) (fuel : Nat) :
    (∀ depth text, Bounded depth (2 * text.length + 1 ≤ fuel) text
      (takeValue lenient fuel depth text)) ∧
    (∀ depth read text, Bounded depth (2 * text.length + 2 ≤ fuel) text
      (takeItems lenient fuel depth read text)) ∧
    (∀ depth read text, Bounded depth (2 * text.length + 2 ≤ fuel) text
      (takeMembers lenient fuel depth read text)) := by
  induction fuel with
  | zero =>
    refine ⟨fun _ _ => ?_, fun _ _ _ => ?_, fun _ _ _ => ?_⟩
    all_goals exact ⟨fun read => (by cases read), fun _ enough => absurd enough (by omega)⟩
  | succ fuel ih =>
    obtain ⟨values, items, members⟩ := ih
    exact ⟨takeValue_bounded items members, takeItems_bounded values items,
      takeMembers_bounded values members⟩

theorem parse_eq_tooDeep_iff {lenient : Bool} {depth : Nat} {text : List Char} :
    parse lenient depth text = .error .tooDeep ↔
      takeDocument lenient depth text = .error .tooDeep := by
  unfold parse
  cases takeDocument lenient depth text with
  | ok value => exact iff_of_false nofun nofun
  | error stop => cases stop <;> simp [Except.mapError, Stop.locate]

/-- A document that is nested too deeply opens more lists and objects than the limit allows. -/
theorem brackets_of_tooDeep {lenient : Bool} {depth : Nat} {text : List Char}
    (deep : parse lenient depth text = .error .tooDeep) : depth < brackets text := by
  rw [parse_eq_tooDeep_iff] at deep
  have bounded := (reading_bounded lenient (2 * text.length + 2)).1 depth (skipGap text)
  have skipped : skipGap text <:+ text := List.dropWhile_suffix _
  have counted : brackets (skipGap text) ≤ brackets text :=
    Nat.add_le_add (skipped.sublist.count_le _) (skipped.sublist.count_le _)
  unfold takeDocument at deep
  split at deep
  · cases deep
  split at deep
  · rename_i stop failed
    cases deep
    have shorter := skipped.length_le
    exact Nat.lt_of_lt_of_le (bounded.deep failed (by omega)) counted
  · split at deep <;> cases deep

/-! ## Lists in lists -/

theorem skipGap_of_not_isGap {c : Char} (solid : isGap c = false) (rest : List Char) :
    skipGap (c :: rest) = c :: rest :=
  List.dropWhile_cons_of_neg (by simp [solid])

/-- More lists inside each other than the depth allows are too deep, whatever follows. -/
theorem takeValue_lists (lenient : Bool) (rest : List Char) (depth fuel count : Nat)
    (many : depth < count) :
    takeValue lenient fuel depth (List.replicate count '[' ++ rest) = .error .tooDeep := by
  induction depth generalizing fuel count with
  | zero =>
    obtain ⟨count, rfl⟩ := Nat.exists_eq_succ_of_ne_zero (Nat.pos_iff_ne_zero.mp many)
    cases fuel <;> rfl
  | succ depth ih =>
    obtain ⟨count, rfl⟩ : ∃ more, count = more + 2 := ⟨count - 2, by omega⟩
    -- The first item of the list is again a list.
    have item : ∀ fuel, takeValue lenient fuel depth ('[' :: (List.replicate count '[' ++ rest)) =
        .error .tooDeep := fun fuel => ih fuel (count + 1) (by omega)
    cases fuel with
    | zero => rfl
    | succ fuel =>
      have solid : skipGap ('[' :: (List.replicate count '[' ++ rest)) =
          '[' :: (List.replicate count '[' ++ rest) := skipGap_of_not_isGap rfl _
      show takeValue lenient (fuel + 1) (depth + 1)
        ('[' :: '[' :: (List.replicate count '[' ++ rest)) = _
      rw [takeValue, solid]
      cases fuel with
      | zero => rfl
      | succ fuel =>
        show takeItems lenient (fuel + 1) depth [] _ = _
        rw [takeItems, item fuel]

/-- More lists inside each other than the limit allows are nested too deeply. -/
theorem parse_lists {lenient : Bool} {depth count : Nat} (many : depth < count)
    (rest : List Char) :
    parse lenient depth (List.replicate count '[' ++ rest) = .error .tooDeep := by
  rw [parse_eq_tooDeep_iff]
  obtain ⟨count, rfl⟩ := Nat.exists_eq_succ_of_ne_zero (by omega : count ≠ 0)
  have solid : skipGap (List.replicate (count + 1) '[' ++ rest) =
      List.replicate (count + 1) '[' ++ rest := skipGap_of_not_isGap rfl _
  unfold takeDocument
  split
  · rename_i marked
    cases marked
  · rw [solid, takeValue_lists lenient rest _ _ _ many]

end Telematics.Json
