import Telematics.Proofs.Report.Breakdown
import Telematics.Proofs.Report.Depth
import Telematics.Proofs.Report.Members

/-!
The schema of reports that are documents. A document is accepted if and only if it has the shape
that is stated here; the readers of its parts are compared with their shapes one by one.

* `IsPlace`, `IsDescribed`, `IsLocation`, `IsReport`: the schema.
* `readSpot_succeeds_iff`, `readExtras_succeeds_iff`: what a location says is read exactly if it has
  its shape.
* `Action.Judges`: an action gives a value or a rejection, as a condition tells.
* `decode_judges_schema`: a document is accepted if and only if it has the shape of a report.
-/

namespace Telematics

open Calendar (Clock)

namespace Report

/-! ## The schema -/

/-- The shape of a place. The accuracy is checked only if there is a speed or a course that
    counts. -/
structure IsPlace (coords : Json.Members) : Prop where
  latitude : coords.Requires "latitude" Json.IsNumber
  longitude : coords.Requires "longitude" Json.IsNumber
  speed : coords.Allows "speed" Json.IsNumber
  heading : coords.Allows "heading" Json.IsNumber
  altitude : coords.Allows "altitude" Json.IsNumber
  accuracy : coords.Requires "speed" Json.IsMeasure ∨ coords.Requires "heading" Json.IsMeasure →
    coords.Allows "accuracy" Json.IsNumber

/-- The value is the level of a battery: a number that stays finite in percent if it counts. -/
def IsLevel (value : Json) : Prop :=
  ∃ double, value.double? = some double ∧ double.isFinite = true ∧
    (double.isNonnegative = true → (double * Binary64.ofNat 100).isFinite = true)

/-- The value is a time that can be read in a zone. -/
def IsTime (zone : Calendar.Zone) (value : Json) : Prop :=
  ∃ text, value = .text text ∧ Succeeds (Timestamp.readIso zone text)

/-- The shape of what a location says beside its time and its place. The extras are checked
    only if there is no alarm beside them. -/
structure IsDescribed (location : Json.Members) : Prop where
  event : location.Checks "event" Json.IsText
  motion : location.Checks "is_moving" Json.IsBoolean
  odometer : location.Checks "odometer" Json.IsNumber
  mock : location.Checks "mock" Json.IsBoolean
  activity : location.Checks "activity" (Json.IsObject (·.Requires "type" Json.IsText))
  battery : location.Checks "battery" (Json.IsObject (·.Allows "level" IsLevel))
  alarm : location.Checks "alarm" Json.IsText
  extras : location.get? "alarm" = none →
    location.Checks "extras" (Json.IsObject (·.Checks "alarm" Json.IsText))

/-- The shape of a location. -/
structure IsLocation (zone : Calendar.Zone) (location : Json.Members) : Prop extends
    IsDescribed location where
  timestamp : location.Requires "timestamp" (IsTime zone)
  coords : location.Allows "coords" (Json.IsObject IsPlace)

/-- The shape of a report, but for the identifier of its device. -/
def IsReport (zone : Calendar.Zone) (document : Json.Members) : Prop :=
  document.Requires "location" (Json.IsObject (IsLocation zone))

/-- The value names a device: it is a text, or an integer, which stands for its numeral. -/
def Identifies (identifier : Letters) (value : Json) : Prop :=
  value = .text identifier ∨ ∃ number, value = .int number ∧ identifier = Number.decimal number

theorem readIdentifier_eq_ok_iff {document : Json.Members} {identifier : Letters} :
    readIdentifier document = .ok identifier ↔
      document.Requires "device_id" (Identifies identifier) := by
  unfold readIdentifier
  split
  · rename_i text found
    constructor
    · rintro ⟨⟩
      exact ⟨_, found, .inl rfl⟩
    · rintro ⟨_, same, rfl | ⟨number, rfl, -⟩⟩
      · cases found.symm.trans same
        rfl
      · cases found.symm.trans same
  · rename_i number found
    constructor
    · rintro ⟨⟩
      exact ⟨_, found, .inr ⟨number, rfl, rfl⟩⟩
    · rintro ⟨_, same, rfl | ⟨other, rfl, rfl⟩⟩
      · cases found.symm.trans same
      · cases found.symm.trans same
        rfl
  · rename_i noText noInteger
    refine iff_of_false nofun ?_
    rintro ⟨_, same, rfl | ⟨other, rfl, -⟩⟩
    · exact noText _ same
    · exact noInteger _ same

/-! ## Readers of the parts -/

/-- The accuracy of a place, which is read only if a measure counts. -/
def readAccuracy (coords : Json.Members) (counts : Bool) : Except Rejection (Option Binary64) :=
  if counts then optionalNumber coords "accuracy" else pure none

theorem readSpot_eq (coords : Json.Members) :
    readSpot coords = (do
      let latitude ← requiredNumber coords "latitude"
      let longitude ← requiredNumber coords "longitude"
      let speed ← optionalNumber coords "speed"
      let heading ← optionalNumber coords "heading"
      let accuracy ← readAccuracy coords
        ((notNegative speed).isSome || (notNegative heading).isSome)
      let altitude ← optionalNumber coords "altitude"
      return ⟨latitude, longitude, altitude,
        (notNegative speed).map SpeedUnit.metresPerSecond.toKnots, notNegative heading,
        accuracy⟩) := by
  unfold readSpot readAccuracy
  refine bind_congr fun latitude => bind_congr fun longitude => bind_congr fun speed =>
    bind_congr fun heading => ?_
  dsimp only
  split <;> rfl

/-- The measures of a place, with all that is read for them. -/
theorem readSpot_eq_ok_iff {coords : Json.Members} {spot : Spot} :
    readSpot coords = .ok spot ↔ ∃ latitude longitude speed heading accuracy altitude,
      requiredNumber coords "latitude" = .ok latitude ∧
      requiredNumber coords "longitude" = .ok longitude ∧
      optionalNumber coords "speed" = .ok speed ∧
      optionalNumber coords "heading" = .ok heading ∧
      readAccuracy coords ((notNegative speed).isSome || (notNegative heading).isSome) =
        .ok accuracy ∧
      optionalNumber coords "altitude" = .ok altitude ∧
      ⟨latitude, longitude, altitude, (notNegative speed).map SpeedUnit.metresPerSecond.toKnots,
        notNegative heading, accuracy⟩ = spot := by
  rw [readSpot_eq]
  simp only [bind_eq_ok_iff]
  constructor
  · rintro ⟨latitude, one, longitude, two, speed, three, heading, four, accuracy, five, altitude,
      six, ⟨⟩⟩
    exact ⟨latitude, longitude, speed, heading, accuracy, altitude, one, two, three, four, five,
      six, rfl⟩
  · rintro ⟨latitude, longitude, speed, heading, accuracy, altitude, one, two, three, four, five,
      six, rfl⟩
    exact ⟨latitude, one, longitude, two, speed, three, heading, four, accuracy, five, altitude,
      six, rfl⟩

theorem readAccuracy_succeeds_iff {coords : Json.Members} {speed heading : Option Binary64}
    (reads : optionalNumber coords "speed" = .ok speed)
    (readsHeading : optionalNumber coords "heading" = .ok heading) :
    Succeeds (readAccuracy coords ((notNegative speed).isSome || (notNegative heading).isSome)) ↔
      (coords.Requires "speed" Json.IsMeasure ∨ coords.Requires "heading" Json.IsMeasure →
        coords.Allows "accuracy" Json.IsNumber) := by
  rw [← isSome_notNegative_iff reads, ← isSome_notNegative_iff readsHeading, ← Bool.or_eq_true,
    readAccuracy]
  split
  · rename_i counts
    rw [optionalNumber_succeeds_iff]
    exact ⟨fun allowed _ => allowed, fun checked => checked counts⟩
  · rename_i none
    exact iff_of_true (succeeds_ok _) fun counts => absurd counts none

/-- The measures of a place are read exactly if it has the shape of a place. -/
theorem readSpot_succeeds_iff {coords : Json.Members} :
    Succeeds (readSpot coords) ↔ IsPlace coords := by
  constructor
  · rintro ⟨spot, read⟩
    obtain ⟨latitude, longitude, speed, heading, accuracy, altitude, one, two, three, four, five,
      six, -⟩ := readSpot_eq_ok_iff.mp read
    exact {
      latitude := requiredNumber_succeeds_iff.mp ⟨latitude, one⟩
      longitude := requiredNumber_succeeds_iff.mp ⟨longitude, two⟩
      speed := optionalNumber_succeeds_iff.mp ⟨speed, three⟩
      heading := optionalNumber_succeeds_iff.mp ⟨heading, four⟩
      altitude := optionalNumber_succeeds_iff.mp ⟨altitude, six⟩
      accuracy := (readAccuracy_succeeds_iff three four).mp ⟨accuracy, five⟩ }
  · intro place
    obtain ⟨latitude, one⟩ := requiredNumber_succeeds_iff.mpr place.latitude
    obtain ⟨longitude, two⟩ := requiredNumber_succeeds_iff.mpr place.longitude
    obtain ⟨speed, three⟩ := optionalNumber_succeeds_iff.mpr place.speed
    obtain ⟨heading, four⟩ := optionalNumber_succeeds_iff.mpr place.heading
    obtain ⟨accuracy, five⟩ := (readAccuracy_succeeds_iff three four).mpr place.accuracy
    obtain ⟨altitude, six⟩ := optionalNumber_succeeds_iff.mpr place.altitude
    exact ⟨_, readSpot_eq_ok_iff.mpr ⟨latitude, longitude, speed, heading, accuracy, altitude, one,
      two, three, four, five, six, rfl⟩⟩

theorem readOdometer_succeeds_iff {members : Json.Members} {key : String} :
    Succeeds (readOdometer members key) ↔ members.Requires key Json.IsNumber := by
  rw [readOdometer, succeeds_bind_iff, ← requiredNumber_succeeds_iff]
  constructor
  · rintro ⟨double, read, -⟩
    exact ⟨double, read⟩
  · rintro ⟨double, read⟩
    exact ⟨double, read, integerPart_succeeds_iff.mpr (finite_of_requiredNumber read)⟩

theorem readActivity_succeeds_iff {members : Json.Members} {key : String} :
    Succeeds (readActivity members key) ↔
      members.Requires key (Json.IsObject (·.Requires "type" Json.IsText)) :=
  requiredObject_bind_succeeds_iff fun _ => requiredText_succeeds_iff

/-- The percents of a level, unless it does not count. -/
def readPercents (level : Option Binary64) : Except Rejection (Option Int) :=
  match notNegative level with
  | some level => some <$> integerPart "level" (level * Binary64.ofNat 100)
  | none => pure none

theorem readBattery_eq (members : Json.Members) (key : String) :
    readBattery members key = (do
      let battery ← requiredObject members key
      let level ← optionalNumber battery "level"
      let percents ← readPercents level
      return (percents, battery.get? "is_charging" = some (.bool true))) := by
  unfold readBattery readPercents
  refine bind_congr fun battery => bind_congr fun level => ?_
  generalize notNegative level = counted
  cases counted <;> rfl

theorem readPercents_succeeds_iff {battery : Json.Members} {level : Option Binary64}
    (read : optionalNumber battery "level" = .ok level) :
    Succeeds (readPercents level) ↔ battery.Allows "level" IsLevel := by
  rcases optionalNumber_eq_ok_iff.mp read with
    ⟨rfl, null⟩ | ⟨value, given, rfl, found, number, finite⟩
  · exact iff_of_true (succeeds_ok none) fun value given => .inl (null value given)
  -- The value is the number that has been read, so both sides speak of that number.
  have allowed : battery.Allows "level" IsLevel ↔
      (given.isNonnegative = true → (given * Binary64.ofNat 100).isFinite = true) := by
    constructor
    · intro allowed counts
      rcases allowed value found with rfl | ⟨double, same, -, scaled⟩
      · cases number
      · cases number.symm.trans same
        exact scaled counts
    · intro scaled other same
      cases found.symm.trans same
      exact .inr ⟨given, number, finite, scaled⟩
  rw [allowed, readPercents, notNegative, Option.filter_some]
  by_cases counts : given.isNonnegative = true
  · rw [if_pos counts]
    show Succeeds (some <$> integerPart "level" _) ↔ _
    rw [succeeds_map_iff, integerPart_succeeds_iff]
    exact ⟨fun scaled _ => scaled, fun scaled => scaled counts⟩
  · rw [if_neg counts]
    exact iff_of_true (succeeds_ok none) fun nonnegative => absurd nonnegative counts

theorem readBattery_succeeds_iff {members : Json.Members} {key : String} :
    Succeeds (readBattery members key) ↔
      members.Requires key (Json.IsObject (·.Allows "level" IsLevel)) := by
  rw [readBattery_eq]
  refine requiredObject_bind_succeeds_iff fun battery => ?_
  rw [succeeds_bind_iff]
  constructor
  · rintro ⟨level, read, given⟩
    obtain ⟨percents, scaled, -⟩ := succeeds_bind_iff.mp given
    exact (readPercents_succeeds_iff read).mp ⟨percents, scaled⟩
  · intro allowed
    have number : battery.Allows "level" Json.IsNumber := by
      intro value found
      rcases allowed value found with null | ⟨double, same, finite, -⟩
      · exact .inl null
      · exact .inr ⟨double, same, finite⟩
    obtain ⟨level, read⟩ := optionalNumber_succeeds_iff.mpr number
    obtain ⟨percents, scaled⟩ := (readPercents_succeeds_iff read).mpr allowed
    exact ⟨level, read, succeeds_bind_iff.mpr ⟨percents, scaled, succeeds_ok _⟩⟩

theorem readAlarm_succeeds_iff {location : Json.Members} :
    Succeeds (readAlarm location) ↔
      location.Checks "alarm" Json.IsText ∧
        (location.get? "alarm" = none →
          location.Checks "extras" (Json.IsObject (·.Checks "alarm" Json.IsText))) := by
  unfold readAlarm
  split
  · rename_i value found
    rw [succeeds_map_iff, requiredText_succeeds_iff]
    constructor
    · rintro ⟨other, given, text⟩
      refine ⟨fun again same => ?_, fun missing => ?_⟩
      · cases given.symm.trans same
        exact text
      · cases found.symm.trans missing
    · rintro ⟨checked, -⟩
      exact ⟨value, found, checked value found⟩
  · rename_i missing
    have alone : location.Checks "alarm" Json.IsText := by
      intro value given
      cases missing.symm.trans given
    rw [and_iff_right alone, imp_iff_right missing]
    have reads : Succeeds (do ifPresent (← requiredObject location "extras") "alarm" requiredText) ↔
        location.Requires "extras" (Json.IsObject (·.Checks "alarm" Json.IsText)) :=
      requiredObject_bind_succeeds_iff fun _ => ifPresent_succeeds_iff requiredText_succeeds_iff
    split
    · rename_i value found
      exact reads.trans (Json.Members.requires_iff_checks found)
    · rename_i none
      refine iff_of_true (succeeds_ok _) fun value given => ?_
      cases none.symm.trans given

/-- The attributes of a location are read exactly if what it says has its shape. -/
theorem readExtras_succeeds_iff {location : Json.Members} :
    Succeeds (readExtras location) ↔ IsDescribed location := by
  have reads : Succeeds (readExtras location) ↔
      Succeeds (ifPresent location "event" requiredText) ∧
      Succeeds (ifPresent location "is_moving" requiredBoolean) ∧
      Succeeds (ifPresent location "odometer" readOdometer) ∧
      Succeeds (ifPresent location "mock" requiredBoolean) ∧
      Succeeds (ifPresent location "activity" readActivity) ∧
      Succeeds (ifPresent location "battery" readBattery) ∧ Succeeds (readAlarm location) := by
    constructor
    · rintro ⟨members, read⟩
      unfold readExtras at read
      obtain ⟨event, one, read⟩ := bind_eq_ok_iff.mp read
      obtain ⟨motion, two, read⟩ := bind_eq_ok_iff.mp read
      obtain ⟨odometer, three, read⟩ := bind_eq_ok_iff.mp read
      obtain ⟨mock, four, read⟩ := bind_eq_ok_iff.mp read
      obtain ⟨activity, five, read⟩ := bind_eq_ok_iff.mp read
      obtain ⟨battery, six, read⟩ := bind_eq_ok_iff.mp read
      obtain ⟨alarm, seven, -⟩ := bind_eq_ok_iff.mp read
      exact ⟨⟨event, one⟩, ⟨motion, two⟩, ⟨odometer, three⟩, ⟨mock, four⟩, ⟨activity, five⟩,
        ⟨battery, six⟩, alarm, seven⟩
    · rintro ⟨⟨event, one⟩, ⟨motion, two⟩, ⟨odometer, three⟩, ⟨mock, four⟩, ⟨activity, five⟩,
        ⟨battery, six⟩, alarm, seven⟩
      unfold readExtras
      rw [one, two, three, four, five, six, seven]
      exact ⟨_, rfl⟩
  rw [reads, ifPresent_succeeds_iff requiredText_succeeds_iff,
    ifPresent_succeeds_iff requiredBoolean_succeeds_iff,
    ifPresent_succeeds_iff readOdometer_succeeds_iff,
    ifPresent_succeeds_iff requiredBoolean_succeeds_iff,
    ifPresent_succeeds_iff readActivity_succeeds_iff,
    ifPresent_succeeds_iff readBattery_succeeds_iff, readAlarm_succeeds_iff]
  constructor
  · rintro ⟨event, motion, odometer, mock, activity, battery, alarm, extras⟩
    exact ⟨event, motion, odometer, mock, activity, battery, alarm, extras⟩
  · intro described
    exact ⟨described.event, described.motion, described.odometer, described.mock,
      described.activity, described.battery, described.alarm, described.extras⟩

/-! ## Judgements -/

section Judges

variable {ε σ α β : Type}

open Report.Action

/-- From every state an action gives a right value if a condition holds, and is rejected if it does
    not. -/
def Action.Judges (condition : Prop) (right : α → Prop) (action : Action (Failure ε) σ α) : Prop :=
  ∀ state, (condition ∧ ∃ value, (action.run state).1 = .ok value ∧ right value) ∨
    (¬ condition ∧ ∃ rejection, (action.run state).1 = .error (.rejected rejection))

variable {condition : Prop} {right : α → Prop}

theorem Action.judges_pure {value : α} (holds : condition) (isRight : right value) :
    Judges condition right (pure value : Action (Failure ε) σ α) :=
  fun _ => .inl ⟨holds, value, rfl, isRight⟩

/-- What has to be read for the condition to hold may be read first. -/
theorem Action.judges_orReject_bind {checked : Except Rejection β}
    {next : β → Action (Failure ε) σ α} (needed : condition → Succeeds checked)
    (rest : ∀ value, checked = .ok value → (next value).Judges condition right) :
    Judges condition right (orReject checked >>= next) := by
  intro state
  rw [run_bind, run_orReject]
  cases checked with
  | error rejection =>
    exact .inr ⟨fun holds => not_succeeds_error rejection (needed holds), rejection, rfl⟩
  | ok value => exact rest value rfl state

/-- What never fails may be done first. -/
theorem Action.judges_bind {action : Action (Failure ε) σ β} {next : β → Action (Failure ε) σ α}
    (never : action.FailsOnly fun _ => False)
    (rest : ∀ value, (next value).Judges condition right) :
    Judges condition right (action >>= next) := by
  intro state
  rcases ran : (action >>= next).run state with ⟨result, after⟩
  rcases run_bind_cases ran with ⟨fault, failed, -⟩ | ⟨value, middle, -, ran⟩
  · exact (never _ _ _ failed).elim
  · have judged := rest value middle
    rw [ran] at judged
    exact judged

end Judges

/-! ## Documents -/

section NeverFail

variable {ε σ : Type} {services : Services ε σ}

open Report.Action

/-- Decodes the document of a device that is known. -/
def decodeKnown (decoder : Decoder) (clock : Clock) (services : Services ε σ) (device : Int)
    (document : Json.Members) : Action (Failure ε) σ Decoded := do
  let location ← orReject (requiredObject document "location")
  let timestamp ← orReject (requiredText location "timestamp")
  let time ← orReject
    ((Timestamp.readIso clock.zone timestamp).mapError (.malformedTime "timestamp"))
  let base : Position := documentPosition decoder.protocol clock.now device time []
  let position ← match ← orReject (optionalObject location "coords") with
    | some members => do
      let spot ← orReject (readSpot members)
      pure (spot.putInto base)
    | none => fallBack services device base clock.now
  let attributes ← orReject (readExtras location)
  return ⟨some { position with attributes := .object attributes }, .plain 200 ""⟩

/-- Decodes the document of a device, if the device is known. -/
def decodeFound (decoder : Decoder) (clock : Clock) (services : Services ε σ)
    (document : Json.Members) : Option Int → Action (Failure ε) σ Decoded
  | none => return .refused 404
  | some device => decodeKnown decoder clock services device document

theorem decodeDocument_eq (decoder : Decoder) (clock : Clock) (remote : Option String)
    (document : Json.Members) :
    decodeDocument decoder clock services remote document = (do
      let identifier ← orReject (readIdentifier document)
      let found ← call (services.findDevice decoder.protocol remote [identifier])
      decodeFound decoder clock services document found) := rfl

/-- A document is decoded for the device that it names. -/
theorem run_decodeDocument {decoder : Decoder} {clock : Clock} {remote : Option String}
    {document : Json.Members} {identifier : Letters}
    (names : document.Requires "device_id" (Identifies identifier)) {state after : σ}
    {found : Option Int}
    (looked : (services.findDevice decoder.protocol remote [identifier]).run state =
      (.ok found, after)) :
    (decodeDocument decoder clock services remote document).run state =
      (decodeFound decoder clock services document found).run after := by
  rw [decodeDocument_eq, run_bind, run_orReject, readIdentifier_eq_ok_iff.mpr names]
  show (call _ >>= _ : Action (Failure ε) σ Decoded).run state = _
  rw [run_bind, run_call, looked]

/-- A request whose document is read is decoded for the device that the document names. -/
theorem run_decode_of_document? {decoder : Decoder} {clock : Clock} {request : Http.Request}
    (json : isJson request = true) {document : Json.Members}
    (known : document? request = some document) {identifier : Letters}
    (names : document.Requires "device_id" (Identifies identifier)) {state after : σ}
    {found : Option Int}
    (looked : (services.findDevice decoder.protocol request.remote [identifier]).run state =
      (.ok found, after)) :
    (decode decoder clock services request).run state =
      (decodeFound decoder clock services document found).run after := by
  obtain ⟨body, kept, read⟩ := run_readDocument_of_document? (ε := ε) (σ := σ) known
  rw [decode, if_pos json, decodeJson, kept]
  show (readDocument request.depth body >>= _ : Action (Failure ε) σ Decoded).run state = _
  rw [run_bind, read]
  exact run_decodeDocument names looked

/-- The document of a request is what its body is parsed to. -/
theorem document?_of_parse {request : Http.Request}
    (short : request.body.length ≤ Http.bodyLimit) {text : List Char}
    (read : Text.readUtf8 request.body = .ok text) {document : Json.Members}
    (parsed : Json.parse false request.depth text = .ok (.object document)) :
    document? request = some document := by
  have kept : request.body? = some request.body := if_neg (Nat.not_lt.mpr short)
  simp only [document?, kept, Option.bind_some, read, Except.toOption, parsed]

/-- What a document with a place gives for a known device. -/
theorem run_decodeKnown {decoder : Decoder} {clock : Clock} {device : Int}
    {document location coords attributes : Json.Members} {timestamp : Letters}
    {time : Calendar.Moment} {spot : Spot}
    (inside : document.get? "location" = some (.object location))
    (told : location.get? "timestamp" = some (.text timestamp))
    (timed : Timestamp.readIso clock.zone timestamp = .ok time)
    (placed : location.get? "coords" = some (.object coords)) (read : readSpot coords = .ok spot)
    (extra : readExtras location = .ok attributes) (state : σ) :
    (decodeKnown decoder clock services device document).run state =
      (.ok ⟨some (spot.putInto
        (documentPosition decoder.protocol clock.now device time attributes)), .plain 200 ""⟩,
        state) := by
  have listed : optionalObject location "coords" = .ok (some coords) :=
    optionalObject_eq_ok_iff.mpr (.inr ⟨coords, rfl, placed⟩)
  unfold decodeKnown
  rw [requiredObject_eq_ok_iff.mpr inside]
  show (orReject (requiredText location "timestamp") >>= _ : Action (Failure ε) σ _).run state = _
  rw [requiredText_eq_ok_iff.mpr told]
  show (orReject ((Timestamp.readIso clock.zone timestamp).mapError _) >>= _ :
    Action (Failure ε) σ _).run state = _
  rw [timed]
  show (orReject (optionalObject location "coords") >>= _ : Action (Failure ε) σ _).run state = _
  rw [listed]
  show (orReject (readSpot coords) >>= _ : Action (Failure ε) σ _).run state = _
  rw [read]
  show (orReject (readExtras location) >>= _ : Action (Failure ε) σ _).run state = _
  rw [extra]
  rfl

/-- A report is accepted: it gives a position. -/
def Decoded.IsAccepted (decoded : Decoded) : Prop :=
  ∃ position, decoded = ⟨some position, .plain 200 ""⟩

variable (never : services.NeverFail)

include never

theorem neverFail_fallBack (device : Int) (position : Position) (time : Calendar.Moment) :
    (fallBack services device position time).FailsOnly fun _ => False :=
  failsOnly_fallBack (never.mono fun _ => id) _ _ _

/-- The document of a known device is accepted if it has the shape of a report, and otherwise it is
    rejected. -/
theorem judges_decodeKnown (decoder : Decoder) (clock : Clock) (device : Int)
    (document : Json.Members) :
    (decodeKnown decoder clock services device document).Judges (IsReport clock.zone document)
      Decoded.IsAccepted := by
  refine judges_orReject_bind ?_ fun location inside => ?_
  · rintro ⟨_, found, location, rfl, -⟩
    exact ⟨location, requiredObject_eq_ok_iff.mpr found⟩
  have same : IsReport clock.zone document ↔ IsLocation clock.zone location :=
    Json.Members.requires_isObject_iff (requiredObject_eq_ok_iff.mp inside)
  rw [same]
  refine judges_orReject_bind ?_ fun timestamp told => ?_
  · intro shaped
    obtain ⟨_, found, text, rfl, -⟩ := shaped.timestamp
    exact ⟨text, requiredText_eq_ok_iff.mpr found⟩
  have found := requiredText_eq_ok_iff.mp told
  refine judges_orReject_bind ?_ fun time read => ?_
  · intro shaped
    obtain ⟨_, again, text, rfl, readable⟩ := shaped.timestamp
    cases found.symm.trans again
    exact succeeds_mapError_iff.mpr readable
  have timed : location.Requires "timestamp" (IsTime clock.zone) :=
    ⟨_, found, timestamp, rfl, succeeds_mapError_iff.mp ⟨time, read⟩⟩
  refine judges_orReject_bind ?_ fun coords listed => ?_
  · intro shaped
    exact optionalObject_succeeds shaped.coords
  -- Whatever position the coordinates lead to, the attributes come last.
  have conclude : location.Allows "coords" (Json.IsObject IsPlace) → ∀ position : Position,
      (do
        let attributes ← orReject (readExtras location)
        pure ⟨some { position with attributes := .object attributes }, .plain 200 ""⟩ :
          Action (Failure ε) σ Decoded).Judges (IsLocation clock.zone location)
        Decoded.IsAccepted := by
    intro placed position
    refine judges_orReject_bind ?_ fun attributes extra => ?_
    · intro shaped
      exact readExtras_succeeds_iff.mpr shaped.toIsDescribed
    · have described := readExtras_succeeds_iff.mp ⟨attributes, extra⟩
      exact judges_pure ⟨described, timed, placed⟩ ⟨_, rfl⟩
  rcases optionalObject_eq_ok_iff.mp listed with ⟨rfl, null⟩ | ⟨members, rfl, given⟩
  · refine judges_bind (neverFail_fallBack never _ _ _) fun position => ?_
    exact conclude (fun value given => .inl (null value given)) position
  · refine judges_orReject_bind ?_ fun spot read => ?_
    · intro shaped
      rcases shaped.coords _ given with ⟨⟨⟩⟩ | ⟨_, ⟨⟩, place⟩
      exact readSpot_succeeds_iff.mpr place
    · refine judges_bind (failsOnly_pure _) fun position => conclude ?_ position
      intro value again
      cases given.symm.trans again
      exact .inr ⟨members, rfl, readSpot_succeeds_iff.mp ⟨spot, read⟩⟩

omit never in
/-- A document that has been parsed is read, and another value is rejected. -/
theorem run_readDocument_of_parse {depth : Nat} {body : List UInt8} {text : List Char}
    (read : Text.readUtf8 body = .ok text) {value : Json}
    (parsed : Json.parse false depth text = .ok value) (state : σ) :
    (∃ document, value = .object document ∧
        (readDocument depth body : Action (Failure ε) σ Json.Members).run state =
          (.ok document, state)) ∨
      ((∀ document, value ≠ .object document) ∧
        (readDocument depth body : Action (Failure ε) σ Json.Members).run state =
          (.error (.rejected .noObject), state)) := by
  unfold readDocument
  rw [read]
  dsimp only
  rw [parsed]
  cases value with
  | object document => exact .inl ⟨document, rfl, rfl⟩
  | _ => exact .inr ⟨nofun, rfl⟩

/-- If no service fails, the document of a request is judged by its schema. A value that is no
    object, or an object that names no device, is rejected. A document that names a device which is
    not known is refused with 404, whatever else it holds. Otherwise it gives a position if and only
    if it has the shape of a report, and it is rejected if it does not. -/
theorem decode_judges_schema (decoder : Decoder) (clock : Clock) {request : Http.Request}
    (json : isJson request = true) (short : request.body.length ≤ Http.bodyLimit)
    {text : List Char} (read : Text.readUtf8 request.body = .ok text) {value : Json}
    (parsed : Json.parse false request.depth text = .ok value) (state : σ) :
    ((¬ ∃ identifier, value.IsObject (·.Requires "device_id" (Identifies identifier))) →
      ∃ rejection, ((decode decoder clock services request).run state).1 =
        .error (.rejected rejection)) ∧
    ∀ (document : Json.Members) (identifier : Letters), value = .object document →
      document.Requires "device_id" (Identifies identifier) →
      ∃ found, ((services.findDevice decoder.protocol request.remote [identifier]).run state).1 =
          .ok found ∧
        (found = none →
          ((decode decoder clock services request).run state).1 = .ok (.refused 404)) ∧
        ∀ device, found = some device →
          ((∃ position, ((decode decoder clock services request).run state).1 =
              .ok ⟨some position, .plain 200 ""⟩) ↔ IsReport clock.zone document) ∧
          ((∃ rejection, ((decode decoder clock services request).run state).1 =
              .error (.rejected rejection)) ↔ ¬ IsReport clock.zone document) := by
  rw [decode_of_kept json short, run_bind]
  rcases run_readDocument_of_parse (ε := ε) read parsed state with
    ⟨document, rfl, begun⟩ | ⟨other, begun⟩
  case inr =>
    rw [begun]
    exact ⟨fun _ => ⟨.noObject, rfl⟩, fun document _ same => absurd same (other document)⟩
  rw [begun]
  dsimp only
  refine ⟨fun unnamed => ?_, fun _ identifier same names => ?_⟩
  · rw [decodeDocument_eq, run_bind, run_orReject]
    cases named : readIdentifier document with
    | error rejection => exact ⟨rejection, rfl⟩
    | ok identifier =>
      exact absurd ⟨identifier, document, rfl, readIdentifier_eq_ok_iff.mp named⟩ unnamed
  · cases same
    rcases looked : (services.findDevice decoder.protocol request.remote [identifier]).run state
      with ⟨fault | found, after⟩
    · exact (never.findDevice _ _ _ _ _ _ looked).elim
    rw [run_decodeDocument names looked]
    refine ⟨found, rfl, ?_, ?_⟩
    · rintro rfl
      rfl
    · rintro device rfl
      rcases judges_decodeKnown never decoder clock device document after with
        ⟨shaped, _, ran, position, rfl⟩ | ⟨misshaped, rejection, ran⟩
      · refine ⟨iff_of_true ⟨position, ran⟩ shaped, iff_of_false ?_ (not_not_intro shaped)⟩
        rintro ⟨rejection, failed⟩
        cases ran.symm.trans failed
      · refine ⟨iff_of_false ?_ misshaped, iff_of_true ⟨rejection, ran⟩ misshaped⟩
        rintro ⟨position, accepted⟩
        cases ran.symm.trans accepted

end NeverFail

/-- A report of a place with a speed that does not count and an accuracy that is not read then, and
    of a battery whose level does not count. -/
def parkedText : List Char :=
  ("\x7b\"device_id\": 7, \"location\": \x7b\"timestamp\": \"2024-01-01T00:00:00Z\", " ++
    "\"coords\": \x7b\"latitude\": 1, \"longitude\": 2, \"speed\": -1, \"accuracy\": true\x7d, " ++
    "\"battery\": \x7b\"level\": -1\x7d\x7d\x7d").toList

/-- The place of that report. -/
def parkedPlace : Json.Members :=
  [("latitude", .int 1), ("longitude", .int 2), ("speed", .int (-1)), ("accuracy", .bool true)]

/-- The location of that report. -/
def parkedLocation : Json.Members :=
  [("timestamp", .text "2024-01-01T00:00:00Z"), ("coords", .object parkedPlace),
    ("battery", .object [("level", .int (-1))])]

/-- The document of that report. -/
def parkedDocument : Json.Members :=
  [("device_id", .int 7), ("location", .object parkedLocation)]

theorem isTime_newYear : IsTime .utc (.text "2024-01-01T00:00:00Z") :=
  ⟨_, rfl, ⟨⟨⟨2024, 1, 1, by decide⟩, ⟨0, 0, 0, 0, by decide⟩⟩, .zero⟩, by decide +kernel⟩

theorem isReport_parkedDocument : IsReport .utc parkedDocument := by
  have place : IsPlace parkedPlace := by
    refine ⟨⟨_, rfl, Json.isNumber_int (by decide)⟩, ⟨_, rfl, Json.isNumber_int (by decide)⟩, ?_,
      nofun, nofun, ?_⟩
    · rintro _ ⟨⟩
      exact .inr (Json.isNumber_int (by decide))
    · rintro (⟨_, ⟨⟩, _, ⟨⟩, -, negative⟩ | ⟨_, ⟨⟩, -⟩)
      exact absurd negative (by decide)
  have level : IsLevel (.int (-1)) :=
    ⟨.ofInt (-1), rfl, by decide, fun counts => absurd counts (by decide)⟩
  refine ⟨_, rfl, parkedLocation, rfl, ?_⟩
  refine { event := nofun, motion := nofun, odometer := nofun, mock := nofun, activity := nofun,
           alarm := nofun, extras := fun _ => nofun, battery := ?_, timestamp := ?_, coords := ?_ }
  · rintro _ ⟨⟩
    refine ⟨_, rfl, ?_⟩
    rintro _ ⟨⟩
    exact .inr level
  · exact ⟨_, rfl, isTime_newYear⟩
  · rintro _ ⟨⟩
    exact .inr ⟨parkedPlace, rfl, place⟩

theorem parse_parkedText :
    Json.parse false (documentRequest parkedText).depth parkedText =
      .ok (.object parkedDocument) := by
  decide +kernel

/-- The report of a parked device is accepted, though it has members of a wrong shape that are not
    read. -/
theorem decode_parkedDocument :
    (idleServices : Services String Unit).NeverFail ∧
      isJson (documentRequest parkedText) = true ∧
      (documentRequest parkedText).body.length ≤ Http.bodyLimit ∧
      Text.readUtf8 (documentRequest parkedText).body = .ok parkedText ∧
      Json.parse false (documentRequest parkedText).depth parkedText =
        .ok (.object parkedDocument) ∧
      ∃ position, ((decode ⟨.text "osmand", .knots⟩ ⟨noFixTime, .utc⟩
        (idleServices : Services String Unit) (documentRequest parkedText)).run ()).1 =
          .ok ⟨some position, .plain 200 ""⟩ := by
  have json := isJson_documentRequest parkedText
  have short : (documentRequest parkedText).body.length ≤ Http.bodyLimit := by decide +kernel
  have read := readUtf8_documentRequest parkedText
  refine ⟨neverFail_idleServices, json, short, read, parse_parkedText, ?_⟩
  have judged := decode_judges_schema (ε := String) neverFail_idleServices
    ⟨.text "osmand", .knots⟩ ⟨noFixTime, .utc⟩ json short read parse_parkedText ()
  obtain ⟨found, looked, -, known⟩ := judged.2 parkedDocument "7" rfl
    ⟨_, rfl, .inr ⟨7, rfl, by decide⟩⟩
  cases looked
  exact (known 1 rfl).1.mpr isReport_parkedDocument

end Report

end Telematics
