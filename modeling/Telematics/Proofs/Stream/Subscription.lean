import Telematics.Proofs.Number.Scripts
import Telematics.Proofs.Stream.Hub

/-!
What comes of opening a connection to the stream of positions. An anonymous one is closed. That of a
user joins a group or is closed, unless its query cannot be read, or its device filter is of digits
that make no number, or make one that is too long.

* `IsDigits`, `IsDecimal`, `NamesDevice`: filters of digits in the wide sense, decimal numbers, and
  those of them that have a group.
* `admission_of_not_isDigits`, `admission_of_namesDevice`, `admission_of_isDigits`: what becomes of
  a filter.
* `admission_joined`: which groups are joined.
* `subscribe_failed_iff`: when a connection fails.
* `Hub.Accepts`, `Hub.Closes`: a connection is accepted with a membership, or closed without one.
  `Hub.connect_answered_iff`: one of them happens unless the connection fails.
-/

namespace Telematics.Stream

open Number (readInteger readInteger_of_decimals readInteger_of_digits)

/-! ## Filters -/

/-- A filter is of digits in the wide sense. -/
def IsDigits (filter : String) : Prop :=
  filter ≠ "" ∧ ∀ c ∈ filter.toList, Text.isDigit c = true

/-- A filter is a decimal number. -/
def IsDecimal (filter : String) : Prop :=
  filter ≠ "" ∧ ∀ c ∈ filter.toList, Text.isDecimal c = true

/-- The value of a decimal number. -/
def filterNumber (filter : String) : Nat := Number.ofDigits (Number.values filter.toList)

/-- A filter is a decimal number that can be read and has a place in the name of a group. -/
structure NamesDevice (filter : String) : Prop where
  decimal : IsDecimal filter
  short : filter.toList.length ≤ Number.digitLimit
  fits : filterNumber filter < 10 ^ 92

variable {filter group : String} {opening : Opening}

theorem isDigits_iff :
    (filter ≠ "" && filter.toList.all Text.isDigit) = true ↔ IsDigits filter := by
  simp [IsDigits]

instance (filter : String) : Decidable (IsDigits filter) := decidable_of_iff _ isDigits_iff

theorem IsDecimal.isDigits (decimal : IsDecimal filter) : IsDigits filter :=
  ⟨decimal.1, fun c among => Text.isDigit_of_isDecimal (decimal.2 c among)⟩

/-- Numbers of up to 92 digits have a place in the name of a group. -/
theorem isGroupName_deviceGroup_natural (number : Nat) :
    isGroupName (deviceGroup (.int number)) = true ↔ number < 10 ^ 92 := by
  have written : (Number.decimal number).toList = Nat.toDigits 10 number := by
    unfold Number.decimal Number.decimalDigits
    rw [if_neg (Int.not_lt.mpr (Int.natCast_nonneg number)), String.toList_ofList,
      Int.natAbs_natCast]
  rw [isGroupName_deviceGroup_iff, written, Nat.length_toDigits_le_iff (by decide) (by decide)]

theorem admission_of_not_isDigits (other : ¬ IsDigits filter) :
    admission (some filter) = .closed :=
  if_neg (isDigits_iff.not.mpr other)

/-- The number of digits decides. -/
theorem admission_of_isDigits (digits : IsDigits filter) :
    admission (some filter) =
      match readInteger filter with
      | .ok device => joinGroup (deviceGroup (.int device))
      | .error fault => .failed (.number fault) :=
  if_pos (isDigits_iff.mpr digits)

theorem admission_of_isDecimal (decimal : IsDecimal filter)
    (short : filter.toList.length ≤ Number.digitLimit) :
    admission (some filter) = joinGroup (deviceGroup (.int (filterNumber filter))) := by
  rw [admission_of_isDigits decimal.isDigits, readInteger_of_decimals decimal.1 decimal.2,
    if_neg (Nat.not_lt.mpr short)]
  rfl

/-- A number that has a place in the name of a group is that of the device. -/
theorem admission_of_namesDevice (names : NamesDevice filter) :
    admission (some filter) = .joined (deviceGroup (.int (filterNumber filter))) := by
  rw [admission_of_isDecimal names.decimal names.short]
  exact if_pos ((isGroupName_deviceGroup_natural _).mpr names.fits)

/-- Digits that name no device make the connection fail. -/
theorem admission_failed (digits : IsDigits filter) (unnamed : ¬ NamesDevice filter) :
    ∃ fault, admission (some filter) = .failed fault := by
  by_cases decimal : IsDecimal filter
  · by_cases short : filter.toList.length ≤ Number.digitLimit
    · have large : ¬ filterNumber filter < 10 ^ 92 := fun fits => unnamed ⟨decimal, short, fits⟩
      rw [admission_of_isDecimal decimal short]
      exact ⟨_, if_neg ((isGroupName_deviceGroup_natural _).not.mpr large)⟩
    · rw [admission_of_isDigits digits, readInteger_of_decimals decimal.1 decimal.2,
        if_pos (Nat.not_le.mp short)]
      exact ⟨_, rfl⟩
  · -- Among the digits there is one that is not decimal.
    obtain ⟨c, among, other⟩ : ∃ c ∈ filter.toList, Text.isDecimal c = false := by
      simpa [IsDecimal, digits.1] using decimal
    obtain ⟨fault, refused⟩ := readInteger_of_digits digits.2 among other
    rw [admission_of_isDigits digits, refused]
    exact ⟨_, rfl⟩

theorem admission_failed_iff :
    (∃ fault, admission (some filter) = .failed fault) ↔
      IsDigits filter ∧ ¬ NamesDevice filter := by
  constructor
  · rintro ⟨fault, failed⟩
    refine ⟨Decidable.byContradiction fun other => ?_, fun names => ?_⟩
    · rw [admission_of_not_isDigits other] at failed
      cases failed
    · rw [admission_of_namesDevice names] at failed
      cases failed
  · exact fun ⟨digits, unnamed⟩ => admission_failed digits unnamed

/-- A group that is joined has a name that groups may have. It is that of the fleet without a
    filter, and otherwise that of the device whose number the filter denotes. -/
theorem admission_joined {filter : Option String} (joined : admission filter = .joined group) :
    isGroupName group = true ∧
      (filter = none ∧ group = fleetGroup ∨
        ∃ text device, filter = some text ∧ readInteger text = .ok device ∧
          group = deviceGroup (.int device)) := by
  unfold admission at joined
  split at joined
  · cases joined
    exact ⟨isGroupName_fleetGroup, .inl ⟨rfl, rfl⟩⟩
  · rename_i text
    split at joined
    · split at joined
      · rename_i device denotes
        unfold joinGroup at joined
        split at joined
        · rename_i named
          cases joined
          exact ⟨named, .inr ⟨text, device, rfl, denotes, rfl⟩⟩
        · cases joined
      · cases joined
    · cases joined

/-! ## Openings -/

/-- The connection of a user has a query that cannot be read, or a filter of digits that names no
    device. -/
def Opening.Chokes (opening : Opening) : Prop :=
  opening.byUser = true ∧
    ((Text.readUtf8 opening.query).toOption = none ∨
      ∃ filter, opening.filter? = some filter ∧ IsDigits filter ∧ ¬ NamesDevice filter)

/-- An anonymous connection is closed. -/
theorem subscribe_anonymous (routed : withoutSlashes opening.path = streamPath)
    (anonymous : opening.byUser = false) : subscribe opening = .closed := by
  simp [subscribe, routed, anonymous]

/-- The filter of a user decides, if the query can be read. -/
theorem subscribe_of_user (routed : withoutSlashes opening.path = streamPath)
    (user : opening.byUser = true) {query : List Char}
    (read : Text.readUtf8 opening.query = .ok query) :
    subscribe opening = admission opening.filter? := by
  simp [subscribe, Opening.filter?, Except.toOption, routed, user, read]

theorem subscribe_of_unread (routed : withoutSlashes opening.path = streamPath)
    (user : opening.byUser = true) {fault : Text.TextFault}
    (refused : Text.readUtf8 opening.query = .error fault) :
    subscribe opening = .failed (.query fault) := by
  simp [subscribe, routed, user, refused]

theorem subscribe_of_filter (routed : withoutSlashes opening.path = streamPath)
    (user : opening.byUser = true) (filtered : opening.filter? = some filter) :
    subscribe opening = admission (some filter) := by
  cases read : Text.readUtf8 opening.query with
  | error fault => simp [Opening.filter?, read, Except.toOption] at filtered
  | ok query => rw [subscribe_of_user routed user read, filtered]

/-- A connection fails if it is that of a user, and its query cannot be read or its filter is of
    digits that name no device. -/
theorem subscribe_failed_iff (routed : withoutSlashes opening.path = streamPath) :
    (∃ fault, subscribe opening = .failed fault) ↔ opening.Chokes := by
  cases user : opening.byUser with
  | false => simp [subscribe_anonymous routed user, Opening.Chokes, user]
  | true =>
    cases read : Text.readUtf8 opening.query with
    | error fault =>
      rw [subscribe_of_unread routed user read, Opening.Chokes, read]
      exact iff_of_true ⟨_, rfl⟩ ⟨user, .inl rfl⟩
    | ok query =>
      rw [subscribe_of_user routed user read, Opening.Chokes, read]
      cases opening.filter? with
      | none => simp [admission, Except.toOption]
      | some filter => simp [admission_failed_iff, user, Except.toOption]

/-- A connection joins the group to which its filter is admitted. -/
theorem admission_of_joined (joined : subscribe opening = .joined group) :
    admission opening.filter? = .joined group := by
  unfold subscribe at joined
  dsimp only at joined
  split at joined
  · cases joined
  · split at joined
    · cases joined
    · split at joined
      · rename_i query read
        rw [Opening.filter?, read]
        exact joined
      · cases joined

/-! ## Connections -/

namespace Hub

/-- A connection is accepted, and its channel is a member of one group more, which has a name that
    groups may have. -/
def Accepts (hub : Hub) (name : String) (opening : Opening) : Prop :=
  ∃ group, isGroupName group = true ∧
    (hub.connect name opening).2 = [(name, [.accept .null])] ∧
    (hub.connect name opening).1.members = hub.members ++ [⟨group, hub.nextChannel⟩]

/-- A connection is closed, and no group has a member more. -/
def Closes (hub : Hub) (name : String) (opening : Opening) : Prop :=
  (hub.connect name opening).2 = [(name, [.close none])] ∧
    (hub.connect name opening).1.members = hub.members

variable {hub : Hub} {name : String}

theorem accepts_of_joined (joined : subscribe opening = .joined group) :
    hub.Accepts name opening := by
  have named := (admission_joined (admission_of_joined joined)).1
  refine ⟨group, named, ?_, ?_⟩ <;> simp [connect, joined, add, forget]

theorem closes_iff : hub.Closes name opening ↔ subscribe opening = .closed := by
  unfold Closes connect
  cases subscribe opening <;> simp [add, forget]

theorem not_accepts_of_failed {fault : Fault} (failed : subscribe opening = .failed fault) :
    ¬ hub.Accepts name opening := by
  rintro ⟨group, -, events, -⟩
  simp [connect, failed] at events

/-- A connection is accepted as a member of one group, or closed without one, unless it is that of a
    user and its query cannot be read or its filter is of digits that name no device. A filter that
    is no decimal number has the connection closed unless it is of digits in the wide sense. -/
theorem connect_answered_iff (hub : Hub) (name : String)
    (routed : withoutSlashes opening.path = streamPath) :
    (hub.Accepts name opening ∨ hub.Closes name opening ↔ ¬ opening.Chokes) ∧
      ∀ filter, opening.byUser = true → opening.filter? = some filter → ¬ IsDecimal filter →
        (hub.Closes name opening ↔ ¬ IsDigits filter) := by
  rw [← subscribe_failed_iff routed]
  refine ⟨?_, fun filter user filtered other => ?_⟩
  · cases came : subscribe opening with
    | joined group => exact iff_of_true (.inl (accepts_of_joined came)) (by simp)
    | closed => exact iff_of_true (.inr (closes_iff.mpr came)) (by simp)
    | failed fault =>
      refine iff_of_false ?_ (by simp)
      rintro (accepts | closes)
      · exact not_accepts_of_failed came accepts
      · rw [closes_iff, came] at closes
        cases closes
  · rw [closes_iff, subscribe_of_filter routed user filtered]
    by_cases digits : IsDigits filter
    · obtain ⟨fault, failed⟩ := admission_failed digits fun names => other names.decimal
      simp [failed, digits]
    · simp [admission_of_not_isDigits digits, digits]

/-- A connection that asks for a device by its name. -/
def namedOpening : Opening := { query := "device=van".toUTF8.toList }

/-- A name is no number, and not of digits. -/
theorem named_opening_answered :
    (withoutSlashes namedOpening.path = streamPath ∧ namedOpening.byUser = true ∧
        namedOpening.filter? = some "van" ∧ ¬ IsDecimal "van") ∧
      (Accepts {} "a" namedOpening ∨ Closes {} "a" namedOpening ↔ ¬ namedOpening.Chokes) ∧
        (Closes {} "a" namedOpening ↔ ¬ IsDigits "van") := by
  have routed : withoutSlashes namedOpening.path = streamPath := by decide +kernel
  have filtered : namedOpening.filter? = some "van" := by decide +kernel
  have other : ¬ IsDecimal "van" := fun decimal => absurd decimal.isDigits (by decide +kernel)
  have answered := connect_answered_iff {} "a" routed
  exact ⟨⟨routed, rfl, filtered, other⟩, answered.1, answered.2 "van" rfl filtered other⟩

/-- A connection that asks for a device by a superscript two. -/
def superscriptOpening : Opening := { query := "device=²".toUTF8.toList }

/-- The superscript is a digit that is not decimal, and the connection is neither accepted nor
    closed. -/
theorem superscript_opening_unanswered :
    withoutSlashes superscriptOpening.path = streamPath ∧
      ¬ Accepts {} "a" superscriptOpening ∧ ¬ Closes {} "a" superscriptOpening := by
  have failed : subscribe superscriptOpening = .failed (.number (.notInteger "²")) := by
    decide +kernel
  refine ⟨by decide +kernel, not_accepts_of_failed failed, fun closes => ?_⟩
  rw [closes_iff, failed] at closes
  cases closes

end Hub

end Telematics.Stream
