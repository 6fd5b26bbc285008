import Telematics.Proofs.Json.Members
import Telematics.Proofs.Report.Schema

/-!
Documents that differ where nobody looks. The members of an object may come in another order, and an
object that is read member by member may have others that are not known there. Every reader of a
part finds the same in such documents, so they are decoded to the same end.

* `Part`, `Part.known`: the parts of a report and the members that are known in each of them.
* `Varies`: values that differ in order and in unknown members alone. `Varies.get?`: what is found
  in them under a key that is known.
* `Concur`: two fallible parts give related values, or both reject.
* `readSpot_concur`, `readExtras_concur` and the like: the readers of documents that vary.
* `SameEnd`, `Action.Concur`: two actions come to the same end.
* `decode_varied`: documents that vary are decoded to the same end, with the same calls of services.
-/

namespace Telematics

open Calendar (Clock Moment)

/-! ## Values of one kind -/

/-- Two values are equal, or both of them are lists, or both are objects. -/
inductive Json.Resembles : Json → Json → Prop where
  | same (value : Json) : Resembles value value
  | lists (items others : List Json) : Resembles (.list items) (.list others)
  | objects (members others : Json.Members) : Resembles (.object members) (.object others)

theorem Json.Resembles.exists_object {members : Json.Members} {value : Json}
    (resembles : (Json.object members).Resembles value) : ∃ others, value = .object others := by
  cases resembles with
  | same => exact ⟨members, rfl⟩
  | objects _ others => exact ⟨others, rfl⟩

namespace Report

/-! ## Parts of documents -/

/-- A part of a document, by what is read from it. -/
inductive Part where
  | report
  | location
  | coords
  | battery
  | activity
  | extras
  /-- A value that is read as a whole, or not at all. -/
  | value
deriving DecidableEq, Repr

/-- The members that are known in a part, and the part that each of them is. -/
def Part.known : Part → List (Letters × Part)
  | .report => [("device_id", .value), ("location", .location)]
  | .location => [("timestamp", .value), ("coords", .coords), ("event", .value),
      ("is_moving", .value), ("odometer", .value), ("mock", .value), ("activity", .activity),
      ("battery", .battery), ("alarm", .value), ("extras", .extras)]
  | .coords => [("latitude", .value), ("longitude", .value), ("speed", .value),
      ("heading", .value), ("accuracy", .value), ("altitude", .value)]
  | .battery => [("level", .value), ("is_charging", .value)]
  | .activity => [("type", .value)]
  | .extras => [("alarm", .value)]
  | .value => []

/-- The part that a member of a part is. Every member of a value belongs to it, and of the other
    parts those that are known. -/
def Part.member? (part : Part) (key : Letters) : Option Part :=
  if part = .value then some .value else part.known.lookup key

/-- Two values differ only in the order of members and in members that are not known, read as a
    part of a report. -/
inductive Varies : Part → Json → Json → Prop where
  | refl (part : Part) (value : Json) : Varies part value value
  | symm {part : Part} {value other : Json} : Varies part value other → Varies part other value
  | trans {part : Part} {value middle other : Json} :
      Varies part value middle → Varies part middle other → Varies part value other
  /-- The members of an object come in another order. -/
  | reordered {part : Part} {members others : Json.Members} :
      (members.map Prod.fst).Nodup → members.Perm others →
      Varies part (.object members) (.object others)
  /-- An object has a member more, which is not known. -/
  | added {part : Part} {key : Letters} (value : Json) (members : Json.Members) :
      part.member? key = none → Varies part (.object members) (.object ((key, value) :: members))
  /-- The values vary that stand under a key. -/
  | member {part inner : Part} {key : Letters} {value other : Json} (front back : Json.Members) :
      part.member? key = some inner → Varies inner value other →
      Varies part (.object (front ++ (key, value) :: back))
        (.object (front ++ (key, other) :: back))
  /-- The values vary that stand in a list. -/
  | item {part : Part} {value other : Json} (front back : List Json) :
      Varies .value value other →
      Varies part (.list (front ++ value :: back)) (.list (front ++ other :: back))

variable {part inner : Part} {value other : Json} {members others : Json.Members} {key : Letters}

/-- Values that vary are of one kind, and equal unless they are lists or objects. -/
theorem Varies.resembles (varies : Varies part value other) : value.Resembles other := by
  induction varies with
  | refl part value => exact .same value
  | symm _ ih => cases ih <;> constructor
  | trans _ _ first second => cases first <;> cases second <;> constructor
  | reordered _ _ => exact .objects _ _
  | added _ _ _ => exact .objects _ _
  | member _ _ _ _ _ => exact .objects _ _
  | item _ _ _ _ => exact .lists _ _

section Rel

variable {α : Type} {related : α → α → Prop} {one two three : Option α}

theorem rel_refl (refl : ∀ value, related value value) (found : Option α) :
    Option.Rel related found found := by
  cases found with
  | none => exact .none
  | some value => exact .some (refl value)

theorem rel_symm (symm : ∀ {value other}, related value other → related other value)
    (found : Option.Rel related one two) : Option.Rel related two one := by
  cases found with
  | none => exact .none
  | some found => exact .some (symm found)

theorem rel_trans
    (trans : ∀ {value middle other}, related value middle → related middle other →
      related value other)
    (found : Option.Rel related one two) (again : Option.Rel related two three) :
    Option.Rel related one three := by
  cases found with
  | none =>
    cases again
    exact .none
  | some found =>
    cases again with
    | some again => exact .some (trans found again)

theorem rel_mono {related' : α → α → Prop}
    (weaker : ∀ {value other}, related value other → related' value other)
    (found : Option.Rel related one two) : Option.Rel related' one two := by
  cases found with
  | none => exact .none
  | some found => exact .some (weaker found)

end Rel

/-- Beside a member whose value has changed, everything is found as before. -/
theorem rel_get?_append {related : Json → Json → Prop} (refl : ∀ value, related value value)
    (front back : Json.Members) {changed : Letters}
    (change : changed = key → related value other) :
    Option.Rel related (Json.Members.get? (front ++ (changed, value) :: back) key)
      (Json.Members.get? (front ++ (changed, other) :: back) key) := by
  rw [Json.Members.get?_append, Json.Members.get?_append]
  cases front.get? key with
  | some found => exact .some (refl found)
  | none =>
    rw [Option.none_or, Option.none_or, Json.Members.get?_cons, Json.Members.get?_cons]
    by_cases own : changed = key
    · rw [if_pos own, if_pos own]
      exact .some (change own)
    · rw [if_neg own, if_neg own]
      exact rel_refl refl _

/-- Under a key that is known in a part, objects that vary hold values that vary, or nothing. -/
theorem Varies.get? (varies : Varies part (.object members) (.object others))
    (known : part.member? key = some inner) :
    Option.Rel (Varies inner) (members.get? key) (others.get? key) := by
  generalize first : Json.object members = value at varies
  generalize second : Json.object others = other at varies
  induction varies generalizing members others with
  | refl part value =>
    cases first
    cases second
    exact rel_refl (.refl inner) _
  | symm _ ih => exact rel_symm .symm (ih known second first)
  | trans one two ih ih' =>
    subst first
    obtain ⟨middle, rfl⟩ := one.resembles.exists_object
    exact rel_trans .trans (ih known rfl rfl) (ih' known rfl second)
  | reordered distinct order =>
    cases first
    cases second
    rw [Json.Members.get?_of_perm distinct order key]
    exact rel_refl (.refl inner) _
  | added value members unknown =>
    cases first
    cases second
    rw [Json.Members.get?_cons, if_neg fun same => ?_]
    · exact rel_refl (.refl inner) _
    · subst same
      cases unknown.symm.trans known
  | member front back known' varies _ =>
    cases first
    cases second
    refine rel_get?_append (.refl inner) front back ?_
    rintro rfl
    cases known.symm.trans known'
    exact varies
  | item _ _ _ _ => cases first

/-- Values under a known key that are read as a whole are of one kind. -/
theorem Varies.get?_resembles (varies : Varies part (.object members) (.object others))
    (known : part.member? key = some inner) :
    Option.Rel Json.Resembles (members.get? key) (others.get? key) :=
  rel_mono Varies.resembles (varies.get? known)

/-! ## Fallible parts that concur -/

/-- Two fallible parts give related values, or both reject. -/
inductive Concur {α β : Type} (related : α → β → Prop) :
    Except Rejection α → Except Rejection β → Prop where
  | given {value : α} {other : β} : related value other → Concur related (.ok value) (.ok other)
  | rejected (one two : Rejection) : Concur related (.error one) (.error two)

section Concur

variable {α β γ δ : Type} {related : α → β → Prop} {relatedNext : γ → δ → Prop}

theorem Concur.refl (part : Except Rejection α) : Concur Eq part part := by
  cases part with
  | error rejection => exact .rejected rejection rejection
  | ok value => exact .given rfl

theorem Concur.bind {part : Except Rejection α} {part' : Except Rejection β}
    {next : α → Except Rejection γ} {next' : β → Except Rejection δ}
    (concur : Concur related part part')
    (rest : ∀ value other, related value other → Concur relatedNext (next value) (next' other)) :
    Concur relatedNext (part >>= next) (part' >>= next') := by
  cases concur with
  | given same => exact rest _ _ same
  | rejected one two => exact .rejected one two

/-- Parts that give the same may come first. -/
theorem Concur.bind_eq {part part' : Except Rejection α} {next : α → Except Rejection γ}
    {next' : α → Except Rejection δ} (concur : Concur Eq part part')
    (rest : ∀ value, Concur relatedNext (next value) (next' value)) :
    Concur relatedNext (part >>= next) (part' >>= next') := by
  refine concur.bind ?_
  rintro value _ rfl
  exact rest value

theorem Concur.map {part part' : Except Rejection α} (concur : Concur Eq part part')
    (change : α → γ) : Concur Eq (change <$> part) (change <$> part') := by
  cases concur with
  | given same => exact .given (congrArg change same)
  | rejected one two => exact .rejected one two

end Concur

/-! ## Readers of members that vary -/

/-- The members of two objects vary, read as those of a part. -/
def MembersVary (part : Part) (members others : Json.Members) : Prop :=
  Varies part (.object members) (.object others)

/-- A list or an object stands under a key. -/
def Nests (members : Json.Members) (key : Letters) : Prop :=
  (∃ items, members.get? key = some (.list items)) ∨
    ∃ inner, members.get? key = some (.object inner)

section Readers

variable {α : Type} {members others : Json.Members} {key : String} {part inner : Part}

/-- A reader of a single value that refuses lists and objects reads the same from values of one
    kind. -/
theorem concur_of_resembles (read : Json.Members → String → Except Rejection α)
    (looks : ∀ {members others : Json.Members},
      members.get? key = others.get? key → read members key = read others key)
    (refuses : ∀ {members}, Nests members key → ∃ rejection, read members key = .error rejection)
    (alike : Option.Rel Json.Resembles (members.get? key) (others.get? key)) :
    Concur Eq (read members key) (read others key) := by
  have split : members.get? key = others.get? key ∨ Nests members key ∧ Nests others key := by
    unfold Nests
    generalize members.get? key = found at alike ⊢
    generalize others.get? key = found' at alike ⊢
    cases alike with
    | none => exact .inl rfl
    | some alike =>
      cases alike with
      | same value => exact .inl rfl
      | lists items items' => exact .inr ⟨.inl ⟨items, rfl⟩, .inl ⟨items', rfl⟩⟩
      | objects inner inner' => exact .inr ⟨.inr ⟨inner, rfl⟩, .inr ⟨inner', rfl⟩⟩
  rcases split with same | ⟨nested, nested'⟩
  · rw [looks same]
    exact .refl _
  · obtain ⟨rejection, refused⟩ := refuses nested
    obtain ⟨rejection', refused'⟩ := refuses nested'
    rw [refused, refused']
    exact .rejected rejection rejection'

variable (varies : MembersVary part members others)

include varies

theorem requiredNumber_concur (known : part.member? key = some inner) :
    Concur Eq (requiredNumber members key) (requiredNumber others key) := by
  refine concur_of_resembles requiredNumber (fun same => ?_) ?_ (varies.get?_resembles known)
  · unfold requiredNumber
    rw [same]
  · rintro members (⟨items, found⟩ | ⟨inner, found⟩) <;>
      exact ⟨_, by unfold requiredNumber; rw [found]; rfl⟩

theorem optionalNumber_concur (known : part.member? key = some inner) :
    Concur Eq (optionalNumber members key) (optionalNumber others key) := by
  refine concur_of_resembles optionalNumber (fun same => ?_) ?_ (varies.get?_resembles known)
  · unfold optionalNumber
    rw [same]
  · rintro members (⟨items, found⟩ | ⟨inner, found⟩) <;>
      exact ⟨_, by unfold optionalNumber; rw [found]; rfl⟩

theorem requiredText_concur (known : part.member? key = some inner) :
    Concur Eq (requiredText members key) (requiredText others key) := by
  refine concur_of_resembles requiredText (fun same => ?_) ?_ (varies.get?_resembles known)
  · unfold requiredText
    rw [same]
  · rintro members (⟨items, found⟩ | ⟨inner, found⟩) <;>
      exact ⟨_, by unfold requiredText; rw [found]⟩

theorem requiredBoolean_concur (known : part.member? key = some inner) :
    Concur Eq (requiredBoolean members key) (requiredBoolean others key) := by
  refine concur_of_resembles requiredBoolean (fun same => ?_) ?_ (varies.get?_resembles known)
  · unfold requiredBoolean
    rw [same]
  · rintro members (⟨items, found⟩ | ⟨inner, found⟩) <;>
      exact ⟨_, by unfold requiredBoolean; rw [found]⟩

theorem readIdentifier_concur (known : part.member? "device_id" = some inner) :
    Concur Eq (readIdentifier members) (readIdentifier others) := by
  refine concur_of_resembles (fun members _ => readIdentifier members) (fun same => ?_) ?_
    (varies.get?_resembles known)
  · unfold readIdentifier
    rw [same]
  · rintro members (⟨items, found⟩ | ⟨inner, found⟩) <;>
      exact ⟨_, by unfold readIdentifier; rw [found]⟩

theorem requiredObject_concur (known : part.member? key = some inner) :
    Concur (MembersVary inner) (requiredObject members key) (requiredObject others key) := by
  have alike := varies.get? known
  unfold requiredObject
  generalize members.get? key = found at alike ⊢
  generalize others.get? key = found' at alike ⊢
  cases alike with
  | none => exact .rejected _ _
  | @some value other alike =>
    have kind := alike.resembles
    cases kind with
    | same value =>
      cases value with
      | object members => exact .given (.refl inner _)
      | _ => exact .rejected _ _
    | lists items items' => exact .rejected _ _
    | objects members members' => exact .given alike

theorem optionalObject_concur (known : part.member? key = some inner) :
    Concur (Option.Rel (MembersVary inner)) (optionalObject members key)
      (optionalObject others key) := by
  have alike := varies.get? known
  unfold optionalObject
  generalize members.get? key = found at alike ⊢
  generalize others.get? key = found' at alike ⊢
  cases alike with
  | none => exact .given .none
  | @some value other alike =>
    have kind := alike.resembles
    cases kind with
    | same value =>
      cases value with
      | object members => exact .given (.some (.refl inner _))
      | null => exact .given .none
      | _ => exact .rejected _ _
    | lists items items' => exact .rejected _ _
    | objects members members' => exact .given (.some alike)

/-- What is read if a key is there is read alike if the key is known. -/
theorem ifPresent_concur {read : Json.Members → String → Except Rejection α}
    (known : part.member? key = some inner)
    (reads : Concur Eq (read members key) (read others key)) :
    Concur Eq (ifPresent members key read) (ifPresent others key read) := by
  have alike := varies.get? known
  unfold ifPresent
  generalize members.get? key = found at alike ⊢
  generalize others.get? key = found' at alike ⊢
  cases alike with
  | none => exact .refl _
  | some alike => exact reads.map some

end Readers

section Parts

variable {members others : Json.Members}

theorem readOdometer_concur (varies : MembersVary .location members others) :
    Concur Eq (readOdometer members "odometer") (readOdometer others "odometer") :=
  (requiredNumber_concur varies rfl).bind_eq fun _ => .refl _

theorem readActivity_concur (varies : MembersVary .location members others) :
    Concur Eq (readActivity members "activity") (readActivity others "activity") :=
  (requiredObject_concur varies rfl).bind fun _ _ inside => requiredText_concur inside rfl

theorem readBattery_concur (varies : MembersVary .location members others) :
    Concur Eq (readBattery members "battery") (readBattery others "battery") := by
  rw [readBattery_eq, readBattery_eq]
  refine (requiredObject_concur varies rfl).bind fun battery battery' inside => ?_
  refine (optionalNumber_concur inside rfl).bind_eq fun level => ?_
  refine (Concur.refl (readPercents level)).bind_eq fun percents => ?_
  -- Lists and objects are no charging flag, and other values are equal.
  have charging : (battery.get? "is_charging" = some (.bool true)) =
      (battery'.get? "is_charging" = some (.bool true)) := by
    have alike : Option.Rel Json.Resembles (battery.get? "is_charging")
        (battery'.get? "is_charging") := Varies.get?_resembles inside rfl
    generalize battery.get? "is_charging" = found at alike ⊢
    generalize battery'.get? "is_charging" = found' at alike ⊢
    cases alike with
    | none => rfl
    | some alike => cases alike <;> simp
  simp only [charging]
  exact .refl _

theorem readAlarm_concur (varies : MembersVary .location members others) :
    Concur Eq (readAlarm members) (readAlarm others) := by
  have alarm : Option.Rel (Varies _) (members.get? "alarm") (others.get? "alarm") :=
    varies.get? rfl
  have extras : Option.Rel (Varies _) (members.get? "extras") (others.get? "extras") :=
    varies.get? rfl
  have text : Concur Eq (requiredText members "alarm") (requiredText others "alarm") :=
    requiredText_concur varies rfl
  have inside : Concur Eq
      (do ifPresent (← requiredObject members "extras") "alarm" requiredText)
      (do ifPresent (← requiredObject others "extras") "alarm" requiredText) :=
    (requiredObject_concur varies rfl).bind fun _ _ inside =>
      ifPresent_concur inside rfl (requiredText_concur inside rfl)
  unfold readAlarm
  generalize members.get? "alarm" = found at alarm ⊢
  generalize others.get? "alarm" = found' at alarm ⊢
  cases alarm with
  | some alarm => exact text.map some
  | none =>
    generalize members.get? "extras" = found at extras ⊢
    generalize others.get? "extras" = found' at extras ⊢
    cases extras with
    | none => exact .refl _
    | some extras => exact inside

/-- The attributes of locations that vary are the same, if they can be read. -/
theorem readExtras_concur (varies : MembersVary .location members others) :
    Concur Eq (readExtras members) (readExtras others) := by
  unfold readExtras
  refine (ifPresent_concur varies rfl (requiredText_concur varies rfl)).bind_eq fun event => ?_
  refine (ifPresent_concur varies rfl (requiredBoolean_concur varies rfl)).bind_eq fun motion => ?_
  refine (ifPresent_concur varies rfl (readOdometer_concur varies)).bind_eq fun odometer => ?_
  refine (ifPresent_concur varies rfl (requiredBoolean_concur varies rfl)).bind_eq fun mock => ?_
  refine (ifPresent_concur varies rfl (readActivity_concur varies)).bind_eq fun activity => ?_
  refine (ifPresent_concur varies rfl (readBattery_concur varies)).bind_eq fun battery => ?_
  exact (readAlarm_concur varies).bind_eq fun alarm => .refl _

/-- The measures of places that vary are the same, if they can be read. -/
theorem readSpot_concur (varies : MembersVary .coords members others) :
    Concur Eq (readSpot members) (readSpot others) := by
  have accuracy : ∀ counts,
      Concur Eq (readAccuracy members counts) (readAccuracy others counts) := by
    rintro (_ | _)
    · exact .refl _
    · exact optionalNumber_concur varies rfl
  rw [readSpot_eq, readSpot_eq]
  refine (requiredNumber_concur varies rfl).bind_eq fun latitude => ?_
  refine (requiredNumber_concur varies rfl).bind_eq fun longitude => ?_
  refine (optionalNumber_concur varies rfl).bind_eq fun speed => ?_
  refine (optionalNumber_concur varies rfl).bind_eq fun heading => ?_
  refine (accuracy _).bind_eq fun accuracy => ?_
  exact (optionalNumber_concur varies rfl).bind_eq fun altitude => .refl _

end Parts

/-! ## Actions that come to the same end -/

section Ends

variable {ε σ α β γ : Type}

/-- Two results are one value, or both of them are rejections, or they are one fault of a
    service. -/
inductive SameEnd : Except (Failure ε) α → Except (Failure ε) α → Prop where
  | given (value : α) : SameEnd (.ok value) (.ok value)
  | rejected (one two : Rejection) :
      SameEnd (.error (.rejected one)) (.error (.rejected two))
  | broken (fault : ε) : SameEnd (.error (.service fault)) (.error (.service fault))

namespace Action

/-- From every state two actions lead to one state, and to the same end. -/
def Concur (action other : Action (Failure ε) σ α) : Prop :=
  ∀ state, (action.run state).2 = (other.run state).2 ∧
    SameEnd (action.run state).1 (other.run state).1

theorem concur_pure (value : α) : Concur (pure value : Action (Failure ε) σ α) (pure value) :=
  fun _ => ⟨rfl, .given value⟩

theorem concur_call (action : Action ε σ α) : Concur (call action) (call action) := by
  intro state
  rw [run_call]
  rcases action.run state with ⟨fault | value, after⟩
  · exact ⟨rfl, .broken fault⟩
  · exact ⟨rfl, .given value⟩

theorem concur_bind {action other : Action (Failure ε) σ α}
    {next next' : α → Action (Failure ε) σ β} (begins : action.Concur other)
    (rest : ∀ value, (next value).Concur (next' value)) :
    Concur (action >>= next) (other >>= next') := by
  intro state
  obtain ⟨reached, ends⟩ := begins state
  rw [run_bind, run_bind]
  generalize action.run state = one at reached ends ⊢
  generalize other.run state = two at reached ends ⊢
  obtain ⟨result, middle⟩ := one
  obtain ⟨result', middle'⟩ := two
  cases reached
  cases ends with
  | given value => exact rest value middle
  | rejected one two => exact ⟨rfl, .rejected one two⟩
  | broken fault => exact ⟨rfl, .broken fault⟩

/-- Parts that give related values may be read first. -/
theorem concur_orReject_bind {related : α → β → Prop} {part : Except Rejection α}
    {part' : Except Rejection β} {next : α → Action (Failure ε) σ γ}
    {next' : β → Action (Failure ε) σ γ} (concur : Report.Concur related part part')
    (rest : ∀ value other, related value other → (next value).Concur (next' other)) :
    Concur (orReject part >>= next) (orReject part' >>= next') := by
  intro state
  rw [run_bind, run_orReject, run_bind, run_orReject]
  cases concur with
  | given same => exact rest _ _ same state
  | rejected one two => exact ⟨rfl, .rejected one two⟩

/-- Parts that give the same may be read first. -/
theorem concur_orReject_bind_eq {part part' : Except Rejection α}
    {next next' : α → Action (Failure ε) σ β} (concur : Report.Concur Eq part part')
    (rest : ∀ value, (next value).Concur (next' value)) :
    Concur (orReject part >>= next) (orReject part' >>= next') := by
  refine concur_orReject_bind concur ?_
  rintro value _ rfl
  exact rest value

end Action

/-! ## Documents that vary -/

open Report.Action

variable {services : Services ε σ}

theorem concur_fallBack (device : Int) (position : Position) (time : Moment) :
    (fallBack services device position time).Concur (fallBack services device position time) := by
  unfold fallBack
  split
  · exact concur_pure _
  · exact concur_bind (concur_call _) fun last => concur_pure _

theorem concur_decodeKnown (decoder : Decoder) (clock : Clock) (device : Int)
    {document document' : Json.Members} (varies : MembersVary .report document document') :
    (decodeKnown decoder clock services device document).Concur
      (decodeKnown decoder clock services device document') := by
  refine concur_orReject_bind (requiredObject_concur varies rfl) fun location location' inside => ?_
  refine concur_orReject_bind_eq (requiredText_concur inside rfl) fun timestamp => ?_
  refine concur_orReject_bind_eq (.refl _) fun time => ?_
  refine concur_orReject_bind (optionalObject_concur inside rfl) fun coords coords' placed => ?_
  -- Whatever position the coordinates lead to, the attributes come last.
  have conclude : ∀ position : Position,
      (do
        let attributes ← orReject (readExtras location)
        pure ⟨some { position with attributes := .object attributes }, .plain 200 ""⟩ :
          Action (Failure ε) σ Decoded).Concur (do
        let attributes ← orReject (readExtras location')
        pure ⟨some { position with attributes := .object attributes }, .plain 200 ""⟩) :=
    fun position => concur_orReject_bind_eq (readExtras_concur inside) fun attributes =>
      concur_pure _
  cases placed with
  | none => exact concur_bind (concur_fallBack _ _ _) conclude
  | some placed =>
    exact concur_orReject_bind_eq (readSpot_concur placed) fun spot => conclude _

theorem concur_decodeDocument (decoder : Decoder) (clock : Clock) (remote : Option String)
    {document document' : Json.Members} (varies : MembersVary .report document document') :
    (decodeDocument decoder clock services remote document).Concur
      (decodeDocument decoder clock services remote document') := by
  rw [decodeDocument_eq, decodeDocument_eq]
  refine concur_orReject_bind_eq (readIdentifier_concur varies rfl) fun identifier => ?_
  refine concur_bind (concur_call _) fun found => ?_
  cases found with
  | none => exact concur_pure _
  | some device => exact concur_decodeKnown decoder clock device varies

/-- Documents whose members come in another order, and which differ in members that are not known,
    are decoded to the same end: the same position and the same response, or a rejection in both
    cases, unless a service fails. The calls of services are the same, and so is the state in the
    end. -/
theorem decode_varied (decoder : Decoder) (clock : Clock) {request request' : Http.Request}
    (json : isJson request = true) (json' : isJson request' = true)
    (sender : request.remote = request'.remote)
    (short : request.body.length ≤ Http.bodyLimit) (short' : request'.body.length ≤ Http.bodyLimit)
    {text text' : List Char} (read : Text.readUtf8 request.body = .ok text)
    (read' : Text.readUtf8 request'.body = .ok text') {value value' : Json}
    (parsed : Json.parse false request.depth text = .ok value)
    (parsed' : Json.parse false request'.depth text' = .ok value')
    (varies : Varies .report value value') (state : σ) :
    let run := (decode decoder clock services.recorded request).run (state, [])
    let run' := (decode decoder clock services.recorded request').run (state, [])
    run.2 = run'.2 ∧ SameEnd run.1 run'.1 := by
  rw [decode_of_kept json short, decode_of_kept json' short', ← sender, run_bind, run_bind]
  rcases run_readDocument_of_parse (ε := ε) read parsed (state, []) with
    ⟨document, rfl, begun⟩ | ⟨other, begun⟩
  · obtain ⟨document', rfl⟩ := varies.resembles.exists_object
    rcases run_readDocument_of_parse (ε := ε) read' parsed' (state, []) with
      ⟨_, ⟨⟩, begun'⟩ | ⟨other', -⟩
    · rw [begun, begun']
      exact concur_decodeDocument decoder clock request.remote varies (state, [])
    · exact absurd rfl (other' document')
  · rcases run_readDocument_of_parse (ε := ε) read' parsed' (state, []) with
      ⟨document', rfl, -⟩ | ⟨-, begun'⟩
    · obtain ⟨document, same⟩ := varies.symm.resembles.exists_object
      exact absurd same (other document)
    · rw [begun, begun']
      exact ⟨rfl, .rejected _ _⟩

end Ends

/-- A report of an alarm. -/
def alarmText : List Char :=
  ("\x7b\"device_id\":\"a\",\"location\":\x7b\"timestamp\":\"2024-01-01\"," ++
    "\"extras\":\x7b\"alarm\":\"sos\"\x7d\x7d\x7d").toList

/-- The same report with its members in another order, and with others that are not known in three
    of its parts. -/
def variedAlarmText : List Char :=
  ("\x7b\"v\":1,\"location\":\x7b\"extras\":\x7b\"x\":[],\"alarm\":\"sos\"\x7d,\"y\":null," ++
    "\"timestamp\":\"2024-01-01\"\x7d,\"device_id\":\"a\"\x7d").toList

/-- The location of a report of an alarm. -/
def alarmLocation : Json.Members :=
  [("timestamp", .text "2024-01-01"), ("extras", .object [("alarm", .text "sos")])]

/-- The location of that report in another form. -/
def variedAlarmLocation : Json.Members :=
  [("extras", .object [("x", .list []), ("alarm", .text "sos")]), ("y", .null),
    ("timestamp", .text "2024-01-01")]

/-- The document of the report of an alarm. -/
def alarmDocument : Json.Members :=
  [("device_id", .text "a"), ("location", .object alarmLocation)]

/-- The document of that report in the other form. -/
def variedAlarmDocument : Json.Members :=
  [("v", .int 1), ("location", .object variedAlarmLocation), ("device_id", .text "a")]

theorem varies_variedAlarmLocation :
    Varies .location (.object alarmLocation) (.object variedAlarmLocation) := by
  have inside : Varies .extras (.object [("alarm", .text "sos")])
      (.object [("x", .list []), ("alarm", .text "sos")]) := .added _ _ rfl
  have extras : Varies .location (.object alarmLocation)
      (.object [("timestamp", .text "2024-01-01"),
        ("extras", .object [("x", .list []), ("alarm", .text "sos")])]) :=
    .member [("timestamp", .text "2024-01-01")] [] rfl inside
  have added : Varies .location
      (.object [("timestamp", .text "2024-01-01"),
        ("extras", .object [("x", .list []), ("alarm", .text "sos")])])
      (.object [("y", .null), ("timestamp", .text "2024-01-01"),
        ("extras", .object [("x", .list []), ("alarm", .text "sos")])]) := .added _ _ rfl
  exact extras.trans (added.trans (.reordered (by decide) (by decide)))

theorem varies_variedAlarmDocument :
    Varies .report (.object alarmDocument) (.object variedAlarmDocument) := by
  have location : Varies .report (.object alarmDocument)
      (.object [("device_id", .text "a"), ("location", .object variedAlarmLocation)]) :=
    .member [("device_id", .text "a")] [] rfl varies_variedAlarmLocation
  exact location.trans (.trans (.reordered (by decide) (List.Perm.swap _ _ _))
    (.added (.int 1) _ rfl))

theorem parse_alarmText :
    Json.parse false (documentRequest alarmText).depth alarmText = .ok (.object alarmDocument) := by
  decide +kernel

theorem parse_variedAlarmText :
    Json.parse false (documentRequest variedAlarmText).depth variedAlarmText =
      .ok (.object variedAlarmDocument) := by
  decide +kernel

theorem remote_documentRequest (text text' : List Char) :
    (documentRequest text).remote = (documentRequest text').remote := rfl

/-- What a document leads to, with the calls of services. -/
def documentRun (text : List Char) : Except (Failure String) Decoded × Unit × List Call :=
  (decode ⟨.text "osmand", .knots⟩ ⟨noFixTime, .utc⟩
    (idleServices : Services String Unit).recorded (documentRequest text)).run ((), [])

/-- The report of an alarm is decoded alike in both forms, to a position. -/
theorem decode_varied_alarm :
    Varies .report (.object alarmDocument) (.object variedAlarmDocument) ∧
      Json.parse false (documentRequest alarmText).depth alarmText =
        .ok (.object alarmDocument) ∧
      Json.parse false (documentRequest variedAlarmText).depth variedAlarmText =
        .ok (.object variedAlarmDocument) ∧
      ((documentRun alarmText).1.toOption.bind (·.position)).isSome = true ∧
      (documentRun alarmText).2 = (documentRun variedAlarmText).2 ∧
      SameEnd (documentRun alarmText).1 (documentRun variedAlarmText).1 := by
  have short : (documentRequest alarmText).body.length ≤ Http.bodyLimit := by decide +kernel
  have short' : (documentRequest variedAlarmText).body.length ≤ Http.bodyLimit := by
    decide +kernel
  exact ⟨varies_variedAlarmDocument, parse_alarmText, parse_variedAlarmText, by decide +kernel,
    decode_varied _ _ (isJson_documentRequest _) (isJson_documentRequest _)
      (remote_documentRequest _ _) short short' (readUtf8_documentRequest _)
      (readUtf8_documentRequest _) parse_alarmText parse_variedAlarmText
      varies_variedAlarmDocument ()⟩

end Report

end Telematics
