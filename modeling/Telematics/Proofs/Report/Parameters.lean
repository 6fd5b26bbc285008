import Telematics.Proofs.Report.Decoding

/-!
What the parameters of a report say, and how they are handled one after the other. Of several
parameters about one thing the last one counts, in the order in which they are handled.

* `latest?`: the last thing that fields say.
* `identifierOf?`, `latitudeOf?`, `longitudeOf?`: what a field says about the device and its place.
* `Says`: what parameters of each key say. `readEntry_says`: nothing else is read of them.
* `Walk`: parameters are handled, up to the last of them. `handleAll_walk`: a draft comes out of
  parameters if they are handled in this way.
* `Walk.latest`: a draft holds the last thing that its parameters said.
-/

namespace Telematics.Report

variable {ε σ α : Type} {services : Services ε σ}

/-! ## What fields say -/

/-- The last thing that fields say, where each of them says something or nothing. -/
def latest? (said : Http.Field → Option α) (fields : List Http.Field) : Option α :=
  (fields.filterMap said).getLast?

@[simp] theorem latest?_nil (said : Http.Field → Option α) : latest? said [] = none := rfl

/-- What a later field says counts, and what the first one says only if no later one says
    anything. -/
theorem latest?_cons (said : Http.Field → Option α) (field : Http.Field)
    (rest : List Http.Field) :
    latest? said (field :: rest) = (latest? said rest).or (said field) := by
  unfold latest?
  rw [List.filterMap_cons]
  cases said field with
  | none => simp
  | some value => rw [List.getLast?_cons, Option.or_some]

/-- The identifier that a field gives. -/
def identifierOf? (field : Http.Field) : Option String :=
  match field.1 with
  | "id" | "deviceid" => some field.2
  | _ => none

/-- The latitude that a field gives: its value, or the first part of a place. -/
def latitudeOf? (field : Http.Field) : Option Binary64 :=
  match field.1 with
  | "lat" => Binary64.read? field.2
  | "location" => (commaParts field.2)[0]?.bind Binary64.read?
  | _ => none

/-- The longitude that a field gives: its value, or the second part of a place. -/
def longitudeOf? (field : Http.Field) : Option Binary64 :=
  match field.1 with
  | "lon" => Binary64.read? field.2
  | "location" => (commaParts field.2)[1]?.bind Binary64.read?
  | _ => none

/-- The identifier that an entry gives. -/
def Entry.identifier? : Entry → Option String
  | .identifier text => some text
  | .token _ | .detail _ => none

/-- The latitude that an entry gives. -/
def Entry.latitude? : Entry → Option Binary64
  | .detail (.latitude value) => some value
  | .detail (.place latitude _) => some latitude
  | _ => none

/-- The longitude that an entry gives. -/
def Entry.longitude? : Entry → Option Binary64
  | .detail (.longitude value) => some value
  | .detail (.place _ longitude) => some longitude
  | _ => none

section Reading

variable {decoder : Decoder} {zone : Calendar.Zone} {key value : String} {entry : Entry}

theorem read?_of_readNumber {text : String} {number : Binary64}
    (read : readNumber text = .ok number) : Binary64.read? text = some number := by
  rw [readNumber, mapError_eq_ok_iff, Binary64.read] at read
  split at read
  · rename_i found
    rw [found, Except.ok.inj read]
  · cases read

/-- A place has two parts, which are its coordinates. -/
theorem readPlace_eq_ok {text : String} {detail : Detail} (read : readPlace text = .ok detail) :
    ∃ first second rest latitude longitude, commaParts text = first :: second :: rest ∧
      Binary64.read? first = some latitude ∧ Binary64.read? second = some longitude ∧
      detail = .place latitude longitude := by
  unfold readPlace at read
  split at read
  · rename_i first second rest parts
    obtain ⟨latitude, one, read⟩ := bind_eq_ok_iff.mp read
    obtain ⟨longitude, two, read⟩ := bind_eq_ok_iff.mp read
    cases read
    exact ⟨first, second, rest, latitude, longitude, parts, read?_of_readNumber one,
      read?_of_readNumber two, rfl⟩
  · obtain ⟨_, -, read⟩ := bind_eq_ok_iff.mp read
    cases read
  · cases read

/-- The keys of parameters with a meaning of their own. -/
def reservedKeys : List String :=
  ["id", "deviceid", "notificationToken", "valid", "timestamp", "lat", "lon", "location", "cell",
    "wifi", "speed", "bearing", "heading", "altitude", "accuracy", "hdop", "batt",
    "driverUniqueId", "charge"]

/-- What a parameter says, by its key. -/
inductive Says (decoder : Decoder) (zone : Calendar.Zone) (value : String) :
    String → Entry → Prop where
  | id : Says decoder zone value "id" (.identifier value)
  | deviceid : Says decoder zone value "deviceid" (.identifier value)
  | token : Says decoder zone value "notificationToken" (.token value)
  | valid : Says decoder zone value "valid" (.detail (.valid (readValid value)))
  | time {time : Calendar.Moment} : Timestamp.read zone value = .ok time →
      Says decoder zone value "timestamp" (.detail (.time time))
  | latitude {number : Binary64} : readNumber value = .ok number →
      Says decoder zone value "lat" (.detail (.latitude number))
  | longitude {number : Binary64} : readNumber value = .ok number →
      Says decoder zone value "lon" (.detail (.longitude number))
  | place {first second : String} {rest : List String} {latitude longitude : Binary64} :
      commaParts value = first :: second :: rest → Binary64.read? first = some latitude →
      Binary64.read? second = some longitude →
      Says decoder zone value "location" (.detail (.place latitude longitude))
  | tower {tower : CellTower} : readTower value = .ok tower →
      Says decoder zone value "cell" (.detail (.tower tower))
  | accessPoint {point : AccessPoint} : readAccessPoint value = .ok point →
      Says decoder zone value "wifi" (.detail (.accessPoint point))
  | speed {number : Binary64} : readNumber value = .ok number →
      Says decoder zone value "speed" (.detail (.speed (decoder.speedUnit.toKnots number)))
  | bearing {number : Binary64} : readNumber value = .ok number →
      Says decoder zone value "bearing" (.detail (.course number))
  | heading {number : Binary64} : readNumber value = .ok number →
      Says decoder zone value "heading" (.detail (.course number))
  | altitude {number : Binary64} : readNumber value = .ok number →
      Says decoder zone value "altitude" (.detail (.altitude number))
  | accuracy {number : Binary64} : readNumber value = .ok number →
      Says decoder zone value "accuracy" (.detail (.accuracy number))
  | hdop {number : Binary64} : readNumber value = .ok number →
      Says decoder zone value "hdop" (.detail (.attribute Position.Known.hdop.key (.float number)))
  | batt {number : Binary64} : readNumber value = .ok number →
      Says decoder zone value "batt"
        (.detail (.attribute Position.Known.batteryLevel.key (.float number)))
  | driver : Says decoder zone value "driverUniqueId"
      (.detail (.attribute Position.Known.driverUniqueId.key (.text value)))
  | charge : Says decoder zone value "charge"
      (.detail (.attribute Position.Known.charge.key (.bool (readBoolean value))))
  | other {key : String} : key ∉ reservedKeys →
      Says decoder zone value key (.detail (.attribute key (guess value)))

/-- What is read of a parameter is what it says. -/
theorem readEntry_says (read : readEntry decoder zone key value = .ok entry) :
    Says decoder zone value key entry := by
  unfold readEntry at read
  -- One case for each key, in their order.
  split at read
  case h_5 =>
    obtain ⟨time, given, read⟩ := bind_eq_ok_iff.mp read
    cases read
    exact .time (mapError_eq_ok_iff.mp given)
  case h_8 =>
    obtain ⟨detail, place, read⟩ := bind_eq_ok_iff.mp read
    obtain ⟨first, second, rest, latitude, longitude, parts, one, two, rfl⟩ := readPlace_eq_ok place
    cases read
    exact .place parts one two
  case h_20 =>
    cases read
    refine .other ?_
    simp only [reservedKeys, List.mem_cons, List.not_mem_nil, or_false, not_or]
    and_intros <;> assumption
  all_goals
    first
    | cases read
      constructor
    | obtain ⟨_, given, read⟩ := bind_eq_ok_iff.mp read
      cases read
      constructor
      exact given

/-- An entry says the same about the device and its place as its field. -/
theorem readEntry_tells (read : readEntry decoder zone key value = .ok entry) :
    identifierOf? (key, value) = entry.identifier? ∧
      latitudeOf? (key, value) = entry.latitude? ∧
      longitudeOf? (key, value) = entry.longitude? := by
  cases readEntry_says read with
  | latitude given => exact ⟨rfl, read?_of_readNumber given, rfl⟩
  | longitude given => exact ⟨rfl, rfl, read?_of_readNumber given⟩
  | place parts one two =>
    simp only [identifierOf?, latitudeOf?, longitudeOf?, parts]
    exact ⟨rfl, one, two⟩
  | other free =>
    simp only [reservedKeys, List.mem_cons, not_or] at free
    simp [identifierOf?, latitudeOf?, longitudeOf?, Entry.identifier?, Entry.latitude?,
      Entry.longitude?, free]
  | _ => exact ⟨rfl, rfl, rfl⟩

end Reading

/-! ## Handling -/

/-- How what a parameter says is handled, from a draft and a state: the draft that comes out, if one
    does, and the state afterwards. -/
inductive Handling (services : Services ε σ) (decoder : Decoder) (remote : Option String)
    (draft : Draft) (state : σ) : Entry → Option Draft → σ → Prop where
  | found {text : String} {device : Int} {after : σ} :
      (services.findDevice decoder.protocol remote [text]).run state = (.ok (some device), after) →
      Handling services decoder remote draft state (.identifier text) (some { draft with device })
        after
  | unknown {text : String} {after : σ} :
      (services.findDevice decoder.protocol remote [text]).run state = (.ok none, after) →
      Handling services decoder remote draft state (.identifier text) none after
  | registered {text : String} {after : σ} :
      draft.device ≠ 0 →
      (services.registerToken draft.device text).run state = (.ok (), after) →
      Handling services decoder remote draft state (.token text) (some draft) after
  /-- A token is skipped before the device is known. -/
  | skipped {text : String} :
      draft.device = 0 →
      Handling services decoder remote draft state (.token text) (some draft) state
  | said {detail : Detail} :
      Handling services decoder remote draft state (.detail detail) (some (draft.add detail)) state

variable {decoder : Decoder} {remote : Option String} {state after : σ}

/-- What a parameter says is handled in one of the ways of handling. -/
theorem handle_handling {draft : Draft} {entry : Entry} {next : Option Draft}
    (ran : (handle decoder services remote draft entry).run state = (.ok next, after)) :
    Handling services decoder remote draft state entry next after := by
  cases entry with
  | identifier text =>
    obtain ⟨device, middle, looked, rest⟩ := Action.run_bind_ok ran
    have looked := Action.run_call_ok looked
    cases device with
    | some device =>
      cases rest
      exact .found looked
    | none =>
      cases rest
      exact .unknown looked
  | token text =>
    simp only [handle] at ran
    split at ran
    · rename_i named
      obtain ⟨_, middle, kept, rest⟩ := Action.run_bind_ok ran
      cases rest
      exact .registered named (Action.run_call_ok kept)
    · rename_i unnamed
      cases ran
      exact .skipped (Decidable.not_not.mp unnamed)
  | detail detail =>
    cases ran
    exact .said

theorem handleField_handling {draft : Draft} {key value : String} {entry : Entry}
    {next : Option Draft}
    (ran : (handleField decoder services remote draft key value entry).run state =
      (.ok next, after)) :
    Handling services decoder remote draft state entry next after := by
  rcases Action.run_adapt_cases ran with ⟨_, _, same⟩ | ⟨_, handled, same⟩
  · cases same
  · cases same
    exact handle_handling handled

/-- Parameters are handled one after the other, and a draft comes out of every one of them. -/
inductive Walk (services : Services ε σ) (decoder : Decoder) (zone : Calendar.Zone)
    (remote : Option String) : σ → Draft → List Http.Field → Draft → σ → Prop where
  | done {state : σ} {draft : Draft} : Walk services decoder zone remote state draft [] draft state
  | step {state middle after : σ} {draft next last : Draft} {key value : String} {entry : Entry}
      {rest : List Http.Field} :
      readEntry decoder zone key value = .ok entry →
      Handling services decoder remote draft state entry (some next) middle →
      Walk services decoder zone remote middle next rest last after →
      Walk services decoder zone remote state draft ((key, value) :: rest) last after

/-- Where a draft comes out of parameters, all of them have been handled. -/
theorem handleAll_walk {zone : Calendar.Zone} {fields : List Http.Field} {draft last : Draft}
    (ran : (handleAll decoder zone services remote draft fields).run state =
      (.ok (some last), after)) :
    Walk services decoder zone remote state draft fields last after := by
  induction fields generalizing draft state with
  | nil =>
    cases ran
    exact .done
  | cons field rest ih =>
    obtain ⟨key, value⟩ := field
    obtain ⟨entry, checked, ran⟩ := run_orReject_bind_ok ran
    rw [mapError_eq_ok_iff] at checked
    obtain ⟨next, middle, handled, ran⟩ := Action.run_bind_ok ran
    cases next with
    | none => cases ran
    | some next => exact .step checked (handleField_handling handled) (ih ran)

/-- A draft holds the last thing that its parameters say, or what it held before. `kept` is what the
    draft holds of it, and `told` what an entry says about it. -/
theorem Walk.latest {zone : Calendar.Zone} {fields : List Http.Field} {draft last : Draft}
    {kept : Draft → Option α} {told : Entry → Option α} {said : Http.Field → Option α}
    (walk : Walk services decoder zone remote state draft fields last after)
    (adds : ∀ draft detail, kept (draft.add detail) = (told (.detail detail)).or (kept draft))
    (owns : ∀ draft device, kept { draft with device } = kept draft)
    (identifies : ∀ text, told (.identifier text) = none)
    (notifies : ∀ text, told (.token text) = none)
    (agrees : ∀ key value entry, readEntry decoder zone key value = .ok entry →
      said (key, value) = told entry) :
    kept last = (latest? said fields).or (kept draft) := by
  induction walk with
  | done => rfl
  | @step state middle after draft next last key value entry rest read handling walk ih =>
    have one : kept next = (told entry).or (kept draft) := by
      cases handling with
      | found looked => rw [owns, identifies, Option.none_or]
      | registered named kept => rw [notifies, Option.none_or]
      | skipped unnamed => rw [notifies, Option.none_or]
      | said => exact adds draft _
    rw [ih, one, latest?_cons, agrees key value entry read, Option.or_assoc]

theorem device_add (draft : Draft) (detail : Detail) :
    (draft.add detail).device = draft.device := by
  cases detail <;> rfl

theorem add_latitude (draft : Draft) (detail : Detail) :
    (draft.add detail).latitude = (Entry.latitude? (.detail detail)).or draft.latitude := by
  cases detail <;> rfl

theorem add_longitude (draft : Draft) (detail : Detail) :
    (draft.add detail).longitude = (Entry.longitude? (.detail detail)).or draft.longitude := by
  cases detail <;> rfl

/-- The coordinates of a draft are the last ones that its parameters give. -/
theorem Walk.coordinates {zone : Calendar.Zone} {fields : List Http.Field} {last : Draft}
    (walk : Walk services decoder zone remote state {} fields last after) :
    last.latitude = latest? latitudeOf? fields ∧ last.longitude = latest? longitudeOf? fields := by
  constructor
  · rw [walk.latest add_latitude (fun _ _ => rfl) (fun _ => rfl) (fun _ => rfl)
      fun key value entry read => (readEntry_tells read).2.1]
    exact Option.or_none
  · rw [walk.latest add_longitude (fun _ _ => rfl) (fun _ => rfl) (fun _ => rfl)
      fun key value entry read => (readEntry_tells read).2.2]
    exact Option.or_none

end Telematics.Report
