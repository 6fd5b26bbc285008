import Telematics.Proofs.Report.Acceptance

/-!
Members of documents. An object has to have a member of some shape, or may have one; what is read
from a member is compared with its shape.

* `Json.IsNumber`, `Json.IsText`, `Json.IsBoolean`, `Json.IsObject`: shapes of values.
* `Members.Requires`, `Members.Allows`, `Members.Checks`: how an object may have a member of a
  shape.
* `Succeeds`: a fallible part gives a value.
* `requiredNumber_succeeds_iff`, `optionalNumber_succeeds_iff` and the like: a member is read
  exactly if it has its shape. `requiredNumber_eq_ok_iff` and the like: what is read from it.
-/

namespace Telematics

/-! ## Shapes -/

namespace Json

/-- The double-precision number nearest to a number. -/
def double? : Json → Option Binary64
  | .int value => some (.ofInt value)
  | .float value => some value
  | _ => none

/-- The value is a number, and finite as a double-precision number. -/
def IsNumber (value : Json) : Prop := ∃ double, value.double? = some double ∧ double.isFinite = true

theorem isNumber_int {n : Int} (finite : (Binary64.ofInt n).isFinite = true) :
    (int n).IsNumber :=
  ⟨.ofInt n, rfl, finite⟩

/-- The value is a number that is at least zero. -/
def IsMeasure (value : Json) : Prop :=
  ∃ double, value.double? = some double ∧ double.isFinite = true ∧ double.isNonnegative = true

/-- The value is a text. -/
def IsText (value : Json) : Prop := ∃ text, value = .text text

/-- The value is a boolean. -/
def IsBoolean (value : Json) : Prop := ∃ truth, value = .bool truth

/-- The value is an object of a shape. -/
def IsObject (shape : Members → Prop) (value : Json) : Prop :=
  ∃ members, value = .object members ∧ shape members

namespace Members

variable (members : Members) (key : String) (shape : Json → Prop)

/-- There is a member of a shape. -/
def Requires : Prop := ∃ value, members.get? key = some value ∧ shape value

/-- A member is missing or null, or it has a shape. -/
def Allows : Prop := ∀ value, members.get? key = some value → value = .null ∨ shape value

/-- A member is missing, or it has a shape. -/
def Checks : Prop := ∀ value, members.get? key = some value → shape value

variable {members key shape}

theorem requires_iff_checks {value : Json} (found : members.get? key = some value) :
    members.Requires key shape ↔ members.Checks key shape := by
  constructor
  · rintro ⟨other, given, shaped⟩ again same
    cases given.symm.trans same
    exact shaped
  · intro checked
    exact ⟨value, found, checked value found⟩

theorem requires_isObject_iff {inner : Members} {shape : Members → Prop}
    (found : members.get? key = some (.object inner)) :
    members.Requires key (IsObject shape) ↔ shape inner := by
  constructor
  · rintro ⟨_, again, other, rfl, shaped⟩
    cases found.symm.trans again
    exact shaped
  · intro shaped
    exact ⟨_, found, inner, rfl, shaped⟩

end Members

end Json

/-! ## What is read from a member -/

/-- A fallible part gives a value. -/
def Succeeds {ε α : Type} (part : Except ε α) : Prop := ∃ value, part = .ok value

section Fallible

variable {ε α β : Type}

theorem succeeds_ok (value : α) : Succeeds (.ok value : Except ε α) := ⟨value, rfl⟩

theorem not_succeeds_error (fault : ε) : ¬ Succeeds (.error fault : Except ε α) := nofun

theorem succeeds_bind_iff {part : Except ε α} {next : α → Except ε β} :
    Succeeds (part >>= next) ↔ ∃ middle, part = .ok middle ∧ Succeeds (next middle) := by
  cases part with
  | error fault => exact iff_of_false (not_succeeds_error fault) nofun
  | ok middle =>
    constructor
    · intro given
      exact ⟨middle, rfl, given⟩
    · rintro ⟨_, ⟨⟩, given⟩
      exact given

theorem succeeds_map_iff {part : Except ε α} {change : α → β} :
    Succeeds (change <$> part) ↔ Succeeds part := by
  cases part with
  | error fault => exact iff_of_false (not_succeeds_error fault) (not_succeeds_error fault)
  | ok value => exact iff_of_true ⟨_, rfl⟩ ⟨_, rfl⟩

theorem succeeds_mapError_iff {φ : Type} {part : Except ε α} {rename : ε → φ} :
    Succeeds (part.mapError rename) ↔ Succeeds part :=
  exists_congr fun _ => mapError_eq_ok_iff

end Fallible

namespace Report

section Readers

variable {members : Json.Members} {key : String}

theorem number_eq_ok_iff {value : Json} {double : Binary64} :
    number key value = .ok double ↔ value.double? = some double ∧ double.isFinite = true := by
  have checks : ∀ {given : Binary64} {rejection : Rejection},
      ((if given.isFinite then .ok given else .error rejection : Except Rejection Binary64) =
          .ok double ↔
        some given = some double ∧ double.isFinite = true) := by
    intro given rejection
    by_cases finite : given.isFinite = true
    · rw [if_pos finite]
      constructor
      · rintro ⟨⟩
        exact ⟨rfl, finite⟩
      · rintro ⟨⟨⟩, -⟩
        rfl
    · rw [if_neg finite]
      refine iff_of_false nofun ?_
      rintro ⟨⟨⟩, bounded⟩
      exact finite bounded
  cases value with
  | int value => exact checks
  | float value => exact checks
  | _ => exact iff_of_false nofun nofun

theorem requiredNumber_eq_ok_iff {double : Binary64} :
    requiredNumber members key = .ok double ↔
      ∃ value, members.get? key = some value ∧ value.double? = some double ∧
        double.isFinite = true := by
  unfold requiredNumber
  split
  · rename_i found
    refine iff_of_false nofun ?_
    rintro ⟨value, given, number, -⟩
    cases found.symm.trans given
    cases number
  · rename_i missing
    refine iff_of_false nofun ?_
    rintro ⟨value, given, -⟩
    cases missing.symm.trans given
  · rename_i value _ found
    rw [number_eq_ok_iff]
    constructor
    · intro read
      exact ⟨value, found, read⟩
    · rintro ⟨_, given, read⟩
      cases found.symm.trans given
      exact read

theorem requiredNumber_succeeds_iff :
    Succeeds (requiredNumber members key) ↔ members.Requires key Json.IsNumber := by
  constructor
  · rintro ⟨double, read⟩
    obtain ⟨value, given, read⟩ := requiredNumber_eq_ok_iff.mp read
    exact ⟨value, given, double, read⟩
  · rintro ⟨value, given, double, read⟩
    exact ⟨double, requiredNumber_eq_ok_iff.mpr ⟨value, given, read⟩⟩

/-- A number that may be missing is read as what the member is. -/
theorem optionalNumber_eq_ok_iff {double : Option Binary64} :
    optionalNumber members key = .ok double ↔
      (double = none ∧ members.Checks key (· = .null)) ∨
        ∃ value given, double = some given ∧ members.get? key = some value ∧
          value.double? = some given ∧ given.isFinite = true := by
  unfold optionalNumber
  split
  · rename_i found
    constructor
    · rintro ⟨⟩
      exact .inl ⟨rfl, fun value given => (Option.some.inj (found.symm.trans given)).symm⟩
    · rintro (⟨rfl, -⟩ | ⟨value, given, -, other, number, -⟩)
      · rfl
      · cases found.symm.trans other
        cases number
  · rename_i missing
    constructor
    · rintro ⟨⟩
      refine .inl ⟨rfl, fun value given => ?_⟩
      cases missing.symm.trans given
    · rintro (⟨rfl, -⟩ | ⟨value, given, -, other, -⟩)
      · rfl
      · cases missing.symm.trans other
  · rename_i value notNull found
    constructor
    · intro read
      obtain ⟨given, read, same⟩ := map_eq_ok_iff.mp read
      exact .inr ⟨value, given, same.symm, found, number_eq_ok_iff.mp read⟩
    · rintro (⟨-, null⟩ | ⟨other, given, rfl, same, read⟩)
      · exact absurd (null value found) notNull
      · cases found.symm.trans same
        exact map_eq_ok_iff.mpr ⟨given, number_eq_ok_iff.mpr read, rfl⟩

theorem optionalNumber_succeeds_iff :
    Succeeds (optionalNumber members key) ↔ members.Allows key Json.IsNumber := by
  constructor
  · rintro ⟨double, read⟩ value given
    rcases optionalNumber_eq_ok_iff.mp read with ⟨-, null⟩ | ⟨other, double, -, same, read⟩
    · exact .inl (null value given)
    · cases given.symm.trans same
      exact .inr ⟨double, read⟩
  · intro allowed
    cases found : members.get? key with
    | none =>
      refine ⟨none, optionalNumber_eq_ok_iff.mpr (.inl ⟨rfl, fun value given => ?_⟩)⟩
      cases found.symm.trans given
    | some value =>
      rcases allowed value found with rfl | ⟨double, read⟩
      · refine ⟨none, optionalNumber_eq_ok_iff.mpr (.inl ⟨rfl, fun value given => ?_⟩)⟩
        exact (Option.some.inj (found.symm.trans given)).symm
      · exact ⟨some double, optionalNumber_eq_ok_iff.mpr (.inr ⟨value, double, rfl, found, read⟩)⟩

/-- A number counts if the member is a number that is at least zero. -/
theorem isSome_notNegative_iff {double : Option Binary64}
    (read : optionalNumber members key = .ok double) :
    (notNegative double).isSome = true ↔ members.Requires key Json.IsMeasure := by
  rcases optionalNumber_eq_ok_iff.mp read with
    ⟨rfl, null⟩ | ⟨value, given, rfl, found, number, finite⟩
  · refine iff_of_false Bool.false_ne_true ?_
    rintro ⟨value, given, _, number, -⟩
    cases null value given
    cases number
  · rw [notNegative, Option.isSome_filter, Option.any_some]
    constructor
    · intro nonnegative
      exact ⟨value, found, given, number, finite, nonnegative⟩
    · rintro ⟨_, same, _, again, -, nonnegative⟩
      cases found.symm.trans same
      cases number.symm.trans again
      exact nonnegative

theorem requiredText_succeeds_iff :
    Succeeds (requiredText members key) ↔ members.Requires key Json.IsText := by
  unfold requiredText
  split
  · rename_i text found
    exact iff_of_true ⟨text, rfl⟩ ⟨_, found, text, rfl⟩
  · rename_i other
    refine iff_of_false nofun ?_
    rintro ⟨_, found, text, rfl⟩
    exact other text found

theorem requiredText_eq_ok_iff {text : Letters} :
    requiredText members key = .ok text ↔ members.get? key = some (.text text) := by
  unfold requiredText
  split
  · rename_i given found
    rw [found]
    simp
  · rename_i other
    exact iff_of_false nofun (other text)

theorem requiredBoolean_succeeds_iff :
    Succeeds (requiredBoolean members key) ↔ members.Requires key Json.IsBoolean := by
  unfold requiredBoolean
  split
  · rename_i truth found
    exact iff_of_true ⟨truth, rfl⟩ ⟨_, found, truth, rfl⟩
  · rename_i other
    refine iff_of_false nofun ?_
    rintro ⟨_, found, truth, rfl⟩
    exact other truth found

theorem requiredObject_eq_ok_iff {inner : Json.Members} :
    requiredObject members key = .ok inner ↔ members.get? key = some (.object inner) := by
  unfold requiredObject
  split
  · rename_i given found
    rw [found]
    simp
  · rename_i found
    simp [found]
  · rename_i found
    simp [found]
  · rename_i value other _ found
    rw [found]
    refine iff_of_false nofun ?_
    rintro ⟨⟩
    exact other inner rfl

/-- What is read from an object that has to be there succeeds if the object is of a shape. -/
theorem requiredObject_bind_succeeds_iff {α : Type} {next : Json.Members → Except Rejection α}
    {shape : Json.Members → Prop} (reads : ∀ inner, Succeeds (next inner) ↔ shape inner) :
    Succeeds (requiredObject members key >>= next) ↔
      members.Requires key (Json.IsObject shape) := by
  rw [succeeds_bind_iff]
  constructor
  · rintro ⟨inner, found, given⟩
    exact ⟨_, requiredObject_eq_ok_iff.mp found, inner, rfl, (reads inner).mp given⟩
  · rintro ⟨_, found, inner, rfl, shaped⟩
    exact ⟨inner, requiredObject_eq_ok_iff.mpr found, (reads inner).mpr shaped⟩

/-- An object that may be missing is read as what the member is. -/
theorem optionalObject_eq_ok_iff {inner : Option Json.Members} :
    optionalObject members key = .ok inner ↔
      (inner = none ∧ members.Checks key (· = .null)) ∨
        ∃ given, inner = some given ∧ members.get? key = some (.object given) := by
  unfold optionalObject
  split
  · rename_i given found
    constructor
    · rintro ⟨⟩
      exact .inr ⟨given, rfl, found⟩
    · rintro (⟨-, null⟩ | ⟨other, rfl, same⟩)
      · cases null _ found
      · cases found.symm.trans same
        rfl
  · rename_i found
    constructor
    · rintro ⟨⟩
      exact .inl ⟨rfl, fun value given => (Option.some.inj (found.symm.trans given)).symm⟩
    · rintro (⟨rfl, -⟩ | ⟨other, -, same⟩)
      · rfl
      · cases found.symm.trans same
  · rename_i missing
    constructor
    · rintro ⟨⟩
      refine .inl ⟨rfl, fun value given => ?_⟩
      cases missing.symm.trans given
    · rintro (⟨rfl, -⟩ | ⟨other, -, same⟩)
      · rfl
      · cases missing.symm.trans same
  · rename_i value noObject notNull found
    refine iff_of_false nofun ?_
    rintro (⟨-, null⟩ | ⟨other, -, same⟩)
    · exact notNull (null value found)
    · cases found.symm.trans same
      exact noObject other rfl

theorem optionalObject_succeeds {shape : Json.Members → Prop}
    (allowed : members.Allows key (Json.IsObject shape)) :
    Succeeds (optionalObject members key) := by
  cases found : members.get? key with
  | none =>
    refine ⟨none, optionalObject_eq_ok_iff.mpr (.inl ⟨rfl, fun value given => ?_⟩)⟩
    cases found.symm.trans given
  | some value =>
    rcases allowed value found with rfl | ⟨inner, rfl, -⟩
    · refine ⟨none, optionalObject_eq_ok_iff.mpr (.inl ⟨rfl, fun value given => ?_⟩)⟩
      exact (Option.some.inj (found.symm.trans given)).symm
    · exact ⟨some inner, optionalObject_eq_ok_iff.mpr (.inr ⟨inner, rfl, found⟩)⟩

/-- What is read from a member if the key is there succeeds if the member has its shape. -/
theorem ifPresent_succeeds_iff {α : Type} {shape : Json → Prop}
    {read : Json.Members → String → Except Rejection α}
    (reads : Succeeds (read members key) ↔ members.Requires key shape) :
    Succeeds (ifPresent members key read) ↔ members.Checks key shape := by
  unfold ifPresent
  split
  · rename_i value found
    rw [succeeds_map_iff, reads]
    exact Json.Members.requires_iff_checks found
  · rename_i missing
    refine iff_of_true (succeeds_ok none) fun value given => ?_
    cases missing.symm.trans given

theorem integerPart_succeeds_iff {value : Binary64} :
    Succeeds (integerPart key value) ↔ value.isFinite = true := by
  cases value with
  | finite negative significand exponent canonical => exact iff_of_true ⟨_, rfl⟩ rfl
  | nan => exact iff_of_false nofun nofun
  | infinite negative => exact iff_of_false nofun nofun

end Readers

end Report

end Telematics
