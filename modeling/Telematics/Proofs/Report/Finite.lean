import Telematics.Proofs.Report.Schema

/-!
Which numbers come out of documents. A number that is read from a document is finite, and stays
finite where it is scaled; otherwise the document is rejected. There is one exception: a speed is
turned into knots without a check, and may become infinite.

* `Position.IsFinite`: every measure is finite or missing, and every attribute is finite.
* `Reads`: the numbers that are read from a location, each with its scale.
* `readSpot_isFinite`, `isStrict_of_readExtras`: what is read is finite.
* `decode_finite_iff`: numbers are finite or rejected exactly if no speed becomes infinite.
  `decode_fast`: a speed that does.
-/

namespace Telematics

open Calendar (Clock)

/-- The value is missing, or it is a finite number. -/
def Json.IsFiniteOrNull (value : Json) : Prop :=
  value = .null ∨ ∃ number, value = .float number ∧ number.isFinite = true

/-- Every measure of a position is missing or finite, and every number among its attributes is
    finite. -/
structure Position.IsFinite (position : Position) : Prop where
  latitude : position.latitude.IsFiniteOrNull
  longitude : position.longitude.IsFiniteOrNull
  altitude : position.altitude.IsFiniteOrNull
  speed : position.speed.IsFiniteOrNull
  course : position.course.IsFiniteOrNull
  accuracy : position.accuracy.IsFiniteOrNull
  attributes : position.attributes.isStrict = true

theorem Json.membersStrict_append (front back : Json.Members) :
    membersStrict (front ++ back) = (membersStrict front && membersStrict back) := by
  induction front with
  | nil => rfl
  | cons member rest ih =>
    rw [List.cons_append, membersStrict, membersStrict, ih, Bool.and_assoc]

namespace Report

/-! ## What is read is finite -/

/-- An optional number is finite if it is there. -/
def FiniteOrNone (value : Option Binary64) : Prop :=
  ∀ number, value = some number → number.isFinite = true

theorem finiteOrNone_none : FiniteOrNone none := by
  rintro _ ⟨⟩

theorem FiniteOrNone.notNegative {value : Option Binary64} (finite : FiniteOrNone value) :
    FiniteOrNone (notNegative value) :=
  fun number kept => finite number (Option.eq_some_of_filter_eq_some kept)

theorem isFiniteOrNull_measureJson_iff {value : Option Binary64} :
    (Position.measureJson value).IsFiniteOrNull ↔ FiniteOrNone value := by
  cases value with
  | none => exact iff_of_true (.inl rfl) finiteOrNone_none
  | some number =>
    constructor
    · rintro (⟨⟨⟩⟩ | ⟨_, ⟨⟩, finite⟩) _ ⟨⟩
      exact finite
    · intro finite
      exact .inr ⟨number, rfl, finite number rfl⟩

theorem finiteOrNone_of_optionalNumber {members : Json.Members} {key : String}
    {value : Option Binary64} (read : optionalNumber members key = .ok value) :
    FiniteOrNone value := by
  rcases optionalNumber_eq_ok_iff.mp read with ⟨rfl, -⟩ | ⟨_, number, rfl, -, -, finite⟩
  · exact finiteOrNone_none
  · rintro _ ⟨⟩
    exact finite

theorem finiteOrNone_of_readAccuracy {coords : Json.Members} {counts : Bool}
    {value : Option Binary64} (read : readAccuracy coords counts = .ok value) :
    FiniteOrNone value := by
  unfold readAccuracy at read
  split at read
  · exact finiteOrNone_of_optionalNumber read
  · cases read
    exact finiteOrNone_none

/-- The speed of a place is finite in knots, if the place has one. -/
def IsSlow (coords : Json.Members) : Prop :=
  ∀ value double, coords.get? "speed" = some value → value.double? = some double →
    double.isNonnegative = true → (SpeedUnit.metresPerSecond.toKnots double).isFinite = true

/-- The measures of a place are finite if the speed is finite in knots, and otherwise the speed is
    not. -/
theorem readSpot_isFinite {coords : Json.Members} {spot : Spot}
    (read : readSpot coords = .ok spot) :
    spot.latitude.isFinite = true ∧ spot.longitude.isFinite = true ∧ FiniteOrNone spot.altitude ∧
      (FiniteOrNone spot.speed ↔ IsSlow coords) ∧ FiniteOrNone spot.course ∧
      FiniteOrNone spot.accuracy := by
  obtain ⟨latitude, longitude, speed, heading, accuracy, altitude, one, two, three, four, five, six,
    rfl⟩ := readSpot_eq_ok_iff.mp read
  refine ⟨finite_of_requiredNumber one, finite_of_requiredNumber two,
    finiteOrNone_of_optionalNumber six, ?_, (finiteOrNone_of_optionalNumber four).notNegative,
    finiteOrNone_of_readAccuracy five⟩
  rcases optionalNumber_eq_ok_iff.mp three with ⟨rfl, null⟩ | ⟨value, given, rfl, found, number, -⟩
  · refine iff_of_true finiteOrNone_none fun value double found number => ?_
    cases null value found
    cases number
  have slow : IsSlow coords ↔ (given.isNonnegative = true →
      (SpeedUnit.metresPerSecond.toKnots given).isFinite = true) := by
    constructor
    · intro slow
      exact slow value given found number
    · intro bounded other double same other_number
      cases found.symm.trans same
      cases number.symm.trans other_number
      exact bounded
  rw [slow, notNegative, Option.filter_some]
  by_cases counts : given.isNonnegative = true
  · rw [if_pos counts, imp_iff_right counts]
    constructor
    · intro finite
      exact finite _ rfl
    · rintro finite _ ⟨⟩
      exact finite
  · rw [if_neg counts]
    exact iff_of_true finiteOrNone_none fun nonnegative => absurd nonnegative counts

theorem membersStrict_entry {α : Type} (known : Position.Known) {wrap : α → Json}
    (strict : ∀ value, (wrap value).isStrict = true) (value : Option α) :
    Json.membersStrict (entry known wrap value) = true := by
  cases value with
  | none => rfl
  | some value =>
    show ((wrap value).isStrict && true) = true
    rw [strict, Bool.and_self]

/-- The attributes of a document hold no number that is not finite. -/
theorem isStrict_of_readExtras {location attributes : Json.Members}
    (read : readExtras location = .ok attributes) :
    (Json.object attributes).isStrict = true := by
  unfold readExtras at read
  iterate 7 obtain ⟨_, -, read⟩ := bind_eq_ok_iff.mp read
  cases read
  have text : ∀ value, (Json.text value).isStrict = true := fun _ => rfl
  have int : ∀ value, (Json.int value).isStrict = true := fun _ => rfl
  have bool : ∀ value, (Json.bool value).isStrict = true := fun _ => rfl
  rw [Json.isStrict]
  simp only [Json.membersStrict_append, membersStrict_entry _ text, membersStrict_entry _ int,
    membersStrict_entry _ bool, Bool.and_self]

/-! ## Numbers of a location -/

/-- The keys of the numbers of a place that are read in any case. -/
def placeKeys : List String := ["latitude", "longitude", "speed", "heading", "altitude"]

/-- The numbers that are read from a location, and how each of them is scaled. A speed and a level
    are scaled only if they count. -/
inductive Reads (location : Json.Members) : Json → (Binary64 → Binary64) → Prop where
  | place {coords : Json.Members} {key : String} {value : Json} :
      location.get? "coords" = some (.object coords) → key ∈ placeKeys →
      coords.get? key = some value → Reads location value id
  | accuracy {coords : Json.Members} {value : Json} :
      location.get? "coords" = some (.object coords) →
      coords.Requires "speed" Json.IsMeasure ∨ coords.Requires "heading" Json.IsMeasure →
      coords.get? "accuracy" = some value → Reads location value id
  | knots {coords : Json.Members} {value : Json} :
      location.get? "coords" = some (.object coords) → coords.get? "speed" = some value →
      value.IsMeasure → Reads location value SpeedUnit.metresPerSecond.toKnots
  | odometer {value : Json} : location.get? "odometer" = some value → Reads location value id
  | level {battery : Json.Members} {value : Json} :
      location.get? "battery" = some (.object battery) → battery.get? "level" = some value →
      Reads location value id
  | percents {battery : Json.Members} {value : Json} :
      location.get? "battery" = some (.object battery) → battery.get? "level" = some value →
      value.IsMeasure → Reads location value (· * Binary64.ofNat 100)

/-- A number is finite if the value is a number. -/
theorem finite_of_isNumber {value : Json} (number : value.IsNumber) {double : Binary64}
    (same : value.double? = some double) : double.isFinite = true := by
  obtain ⟨other, again, finite⟩ := number
  cases same.symm.trans again
  exact finite

theorem finite_of_allows {members : Json.Members} {key : String}
    (allowed : members.Allows key Json.IsNumber) {value : Json}
    (found : members.get? key = some value) {double : Binary64}
    (same : value.double? = some double) : double.isFinite = true := by
  rcases allowed value found with rfl | number
  · cases same
  · exact finite_of_isNumber number same

theorem finite_of_requires {members : Json.Members} {key : String}
    (required : members.Requires key Json.IsNumber) {value : Json}
    (found : members.get? key = some value) {double : Binary64}
    (same : value.double? = some double) : double.isFinite = true :=
  finite_of_isNumber ((Json.Members.requires_iff_checks found).mp required value found) same

/-- The numbers of a place that are read in any case are finite. -/
theorem IsPlace.finite {coords : Json.Members} (place : IsPlace coords) {key : String}
    (among : key ∈ placeKeys) {value : Json} (found : coords.get? key = some value)
    {double : Binary64} (same : value.double? = some double) : double.isFinite = true := by
  simp only [placeKeys, List.mem_cons, List.not_mem_nil, or_false] at among
  rcases among with rfl | rfl | rfl | rfl | rfl
  · exact finite_of_requires place.latitude found same
  · exact finite_of_requires place.longitude found same
  · exact finite_of_allows place.speed found same
  · exact finite_of_allows place.heading found same
  · exact finite_of_allows place.altitude found same

/-- The speed of the place of a location is finite in knots. -/
def IsSlowAt (location : Json.Members) : Prop :=
  ∀ coords, location.get? "coords" = some (.object coords) → IsSlow coords

/-- Every number that is read from a location of the right shape is finite, and so it is when it is
    scaled, if the speed is finite in knots. -/
theorem IsLocation.finite {zone : Calendar.Zone} {location : Json.Members}
    (shaped : IsLocation zone location) (slow : IsSlowAt location) {value : Json}
    {scale : Binary64 → Binary64} (reads : Reads location value scale) {double : Binary64}
    (same : value.double? = some double) : (scale double).isFinite = true := by
  have placed : ∀ {coords}, location.get? "coords" = some (.object coords) → IsPlace coords := by
    intro coords given
    rcases shaped.coords _ given with ⟨⟨⟩⟩ | ⟨_, ⟨⟩, place⟩
    exact place
  have charged : ∀ {battery : Json.Members} {value : Json},
      location.get? "battery" = some (.object battery) →
      battery.get? "level" = some value → value.double? = some double →
      double.isFinite = true ∧
        (double.isNonnegative = true → (double * Binary64.ofNat 100).isFinite = true) := by
    intro battery value given found same
    obtain ⟨_, ⟨⟩, allowed⟩ := shaped.battery _ given
    rcases allowed value found with rfl | ⟨_, again, finite, scaled⟩
    · cases same
    · cases same.symm.trans again
      exact ⟨finite, scaled⟩
  cases reads with
  | place given among found => exact (placed given).finite among found same
  | accuracy given counts found =>
    exact finite_of_allows ((placed given).accuracy counts) found same
  | knots given found measure =>
    obtain ⟨_, again, -, nonnegative⟩ := measure
    cases same.symm.trans again
    exact slow _ given value double found same nonnegative
  | odometer found => exact finite_of_isNumber (shaped.odometer value found) same
  | level given found => exact (charged given found same).1
  | percents given found measure =>
    obtain ⟨_, again, -, nonnegative⟩ := measure
    cases same.symm.trans again
    exact (charged given found same).2 nonnegative

/-! ## Accepted documents -/

section NeverFail

variable {ε σ : Type} {services : Services ε σ}

/-- The position of a document with a place is finite if and only if its speed is finite in
    knots. -/
theorem isFinite_putInto_iff {coords attributes location : Json.Members} {spot : Spot}
    (read : readSpot coords = .ok spot) (extra : readExtras location = .ok attributes)
    {protocol : Json} {now time : Calendar.Moment} {device : Int} :
    (spot.putInto (documentPosition protocol now device time attributes)).IsFinite ↔
      IsSlow coords := by
  obtain ⟨latitude, longitude, altitude, speed, course, accuracy⟩ := readSpot_isFinite read
  rw [← speed]
  constructor
  · intro finite
    exact isFiniteOrNull_measureJson_iff.mp finite.speed
  · intro slow
    exact {
      latitude := .inr ⟨_, rfl, latitude⟩
      longitude := .inr ⟨_, rfl, longitude⟩
      altitude := isFiniteOrNull_measureJson_iff.mpr altitude
      speed := isFiniteOrNull_measureJson_iff.mpr slow
      course := isFiniteOrNull_measureJson_iff.mpr course
      accuracy := isFiniteOrNull_measureJson_iff.mpr accuracy
      attributes := isStrict_of_readExtras extra }

/-- A location of the right shape with a place gives the position of that place. -/
theorem exists_run_decodeKnown {decoder : Decoder} {clock : Clock} {device : Int}
    {document location coords : Json.Members}
    (inside : document.get? "location" = some (.object location))
    (placed : location.get? "coords" = some (.object coords))
    (shaped : IsLocation clock.zone location) (state : σ) :
    ∃ position, (decodeKnown decoder clock services device document).run state =
        (.ok ⟨some position, .plain 200 ""⟩, state) ∧
      (position.IsFinite ↔ IsSlow coords) := by
  obtain ⟨_, told, timestamp, rfl, time, timed⟩ := shaped.timestamp
  obtain ⟨attributes, extra⟩ := readExtras_succeeds_iff.mpr shaped.toIsDescribed
  rcases shaped.coords _ placed with ⟨⟨⟩⟩ | ⟨_, ⟨⟩, place⟩
  obtain ⟨spot, read⟩ := readSpot_succeeds_iff.mpr place
  exact ⟨_, run_decodeKnown inside told timed placed read extra state,
    isFinite_putInto_iff read extra⟩

/-- If no service fails, the numbers in the document of a known device are finite or rejected: an
    accepted report of a place has a finite position, and a document with a number that is read and
    is not finite, or does not stay finite where it is scaled, is rejected. This is so if and only
    if the report is not accepted with a speed that is infinite in knots. -/
theorem decode_finite_iff (never : services.NeverFail) (decoder : Decoder) (clock : Clock)
    {request : Http.Request} (json : isJson request = true) {document location : Json.Members}
    (known : document? request = some document) {identifier : String}
    (names : document.Requires "device_id" (Identifies identifier)) {state : σ} {device : Int}
    (looked : ((services.findDevice decoder.protocol request.remote [identifier]).run state).1 =
      .ok (some device))
    (inside : document.get? "location" = some (.object location)) :
    ((∀ position response, ((decode decoder clock services request).run state).1 =
          .ok ⟨some position, response⟩ →
        (∃ coords, location.get? "coords" = some (.object coords)) → position.IsFinite) ∧
      ∀ value scale double, Reads location value scale → value.double? = some double →
        (scale double).isFinite = false →
        ∃ rejection, ((decode decoder clock services request).run state).1 =
          .error (.rejected rejection)) ↔
      ¬ ((∃ position response, ((decode decoder clock services request).run state).1 =
          .ok ⟨some position, response⟩) ∧ ¬ IsSlowAt location) := by
  rcases found : (services.findDevice decoder.protocol request.remote [identifier]).run state
    with ⟨result, after⟩
  rw [found] at looked
  cases looked
  rw [run_decode_of_document? json known names found]
  show ((∀ position response, ((decodeKnown decoder clock services device document).run after).1 =
    _ → _) ∧ _) ↔ _
  have judged := judges_decodeKnown never decoder clock device document after
  rw [show IsReport clock.zone document ↔ IsLocation clock.zone location from
    Json.Members.requires_isObject_iff inside] at judged
  rcases judged with ⟨shaped, decoded, ran, position, rfl⟩ | ⟨-, rejection, ran⟩
  case inr =>
    -- What is rejected is not accepted with any number.
    refine iff_of_true ⟨?_, fun _ _ _ _ _ _ => ⟨rejection, ran⟩⟩ ?_
    · intro position response accepted
      cases ran.symm.trans accepted
    · rintro ⟨⟨position, response, accepted⟩, -⟩
      cases ran.symm.trans accepted
  constructor
  · rintro ⟨finite, -⟩ ⟨-, fast⟩
    refine fast fun coords placed => ?_
    obtain ⟨_, same, slow⟩ := exists_run_decodeKnown inside placed shaped after
    exact slow.mp (finite _ _ (congrArg Prod.fst same) ⟨coords, placed⟩)
  · intro fits
    have slow : IsSlowAt location :=
      Classical.byContradiction fun fast => fits ⟨⟨position, _, ran⟩, fast⟩
    refine ⟨?_, fun value scale double reads same infinite => ?_⟩
    · rintro position response accepted ⟨coords, placed⟩
      obtain ⟨_, same, finite⟩ := exists_run_decodeKnown inside placed shaped after
      cases (congrArg Prod.fst same).symm.trans accepted
      exact finite.mpr (slow coords placed)
    · rw [shaped.finite slow reads same] at infinite
      cases infinite

end NeverFail

/-- A report of a speed. -/
def movingText (speed : String) : List Char :=
  ("\x7b\"device_id\": \"a\", \"location\": \x7b\"timestamp\": \"2024-01-01T00:00:00Z\", " ++
    "\"coords\": \x7b\"latitude\": 1, \"longitude\": 2, \"speed\": " ++ speed ++
    "\x7d\x7d\x7d").toList

/-- The place of a report of a speed. -/
def movingPlace (speed : Json) : Json.Members :=
  [("latitude", .int 1), ("longitude", .int 2), ("speed", speed)]

/-- The location of a report of a speed. -/
def movingLocation (speed : Json) : Json.Members :=
  [("timestamp", .text "2024-01-01T00:00:00Z"), ("coords", .object (movingPlace speed))]

/-- The document of a report of a speed. -/
def movingDocument (speed : Json) : Json.Members :=
  [("device_id", .text "a"), ("location", .object (movingLocation speed))]

theorem isSlowAt_movingLocation {speed : Json} {double : Binary64}
    (same : speed.double? = some double) :
    IsSlowAt (movingLocation speed) ↔ (double.isNonnegative = true →
      (SpeedUnit.metresPerSecond.toKnots double).isFinite = true) := by
  constructor
  · intro slow
    exact slow (movingPlace speed) rfl speed double rfl same
  · rintro bounded _ ⟨⟩ _ other ⟨⟩ again
    cases same.symm.trans again
    exact bounded

theorem isLocation_movingLocation {speed : Json} (number : speed.IsNumber) :
    IsLocation .utc (movingLocation speed) := by
  have place : IsPlace (movingPlace speed) := by
    refine ⟨⟨_, rfl, Json.isNumber_int (by decide)⟩, ⟨_, rfl, Json.isNumber_int (by decide)⟩, ?_,
      nofun, nofun, fun _ => nofun⟩
    rintro _ ⟨⟩
    exact .inr number
  refine { event := nofun, motion := nofun, odometer := nofun, mock := nofun, activity := nofun,
           battery := nofun, alarm := nofun, extras := fun _ => nofun,
           timestamp := ⟨_, rfl, isTime_newYear⟩, coords := ?_ }
  rintro _ ⟨⟩
  exact .inr ⟨_, rfl, place⟩

/-- Ten metres per second stay finite in knots, and a report of them has a finite position if it is
    accepted. -/
theorem decode_finite_moving :
    (idleServices : Services String Unit).NeverFail ∧
      isJson (documentRequest (movingText "10")) = true ∧
      document? (documentRequest (movingText "10")) = some (movingDocument (.int 10)) ∧
      (movingDocument (.int 10)).Requires "device_id" (Identifies "a") ∧
      Json.Members.get? (movingDocument (.int 10)) "location" =
        some (.object (movingLocation (.int 10))) ∧
      ∀ position response, ((decode ⟨.text "osmand", .knots⟩ ⟨noFixTime, .utc⟩
        (idleServices : Services String Unit) (documentRequest (movingText "10"))).run ()).1 =
          .ok ⟨some position, response⟩ → position.IsFinite := by
  have json := isJson_documentRequest (movingText "10")
  have parsed : Json.parse false (documentRequest (movingText "10")).depth (movingText "10") =
      .ok (.object (movingDocument (.int 10))) := by
    decide +kernel
  have known := document?_of_parse (by decide +kernel) (readUtf8_documentRequest _) parsed
  have names : (movingDocument (.int 10)).Requires "device_id" (Identifies "a") :=
    ⟨_, rfl, .inl rfl⟩
  refine ⟨neverFail_idleServices, json, known, names, rfl, fun position response accepted => ?_⟩
  have looked : (((idleServices : Services String Unit).findDevice (.text "osmand")
    (documentRequest (movingText "10")).remote ["a"]).run ()).1 = .ok (some 1) := rfl
  have finite := decode_finite_iff neverFail_idleServices ⟨.text "osmand", .knots⟩
    ⟨noFixTime, .utc⟩ json known names looked rfl
  have slow : IsSlowAt (movingLocation (.int 10)) :=
    (isSlowAt_movingLocation (show Json.double? (.int 10) = some (.ofInt 10) from rfl)).mpr
      (by decide)
  exact (finite.mpr fun fast => fast.2 slow).1 position response accepted ⟨_, rfl⟩

/-- The greatest power of ten of the format. -/
def greatSpeed : Binary64 := .ofDecimal false 1 308

/-- A finite speed that is infinite in knots is accepted, and the position has an infinite speed. -/
theorem decode_fast :
    (idleServices : Services String Unit).NeverFail ∧
      isJson (documentRequest (movingText "1e308")) = true ∧
      document? (documentRequest (movingText "1e308")) = some (movingDocument (.float greatSpeed)) ∧
      ∃ position, ((decode ⟨.text "osmand", .knots⟩ ⟨noFixTime, .utc⟩
        (idleServices : Services String Unit) (documentRequest (movingText "1e308"))).run ()).1 =
          .ok ⟨some position, .plain 200 ""⟩ ∧ ¬ position.IsFinite := by
  have json := isJson_documentRequest (movingText "1e308")
  have parsed : Json.parse false (documentRequest (movingText "1e308")).depth (movingText "1e308") =
      .ok (.object (movingDocument (.float greatSpeed))) := by
    decide +kernel
  have known := document?_of_parse (by decide +kernel) (readUtf8_documentRequest _) parsed
  have names : (movingDocument (.float greatSpeed)).Requires "device_id" (Identifies "a") :=
    ⟨_, rfl, .inl rfl⟩
  have shaped : IsLocation .utc (movingLocation (.float greatSpeed)) :=
    isLocation_movingLocation ⟨greatSpeed, rfl, by decide +kernel⟩
  have looked : ((idleServices : Services String Unit).findDevice (.text "osmand")
    (documentRequest (movingText "1e308")).remote ["a"]).run () = (.ok (some 1), ()) := rfl
  obtain ⟨position, ran, finite⟩ := @exists_run_decodeKnown String Unit idleServices
    ⟨.text "osmand", .knots⟩ ⟨noFixTime, .utc⟩ 1 (movingDocument (.float greatSpeed)) _ _ rfl rfl
    shaped ()
  refine ⟨neverFail_idleServices, json, known, position, ?_, fun bounded => ?_⟩
  · rw [run_decode_of_document? json known names looked]
    exact congrArg Prod.fst ran
  · have slow := finite.mp bounded _ greatSpeed rfl rfl (by decide +kernel)
    exact absurd slow (by decide +kernel)

end Report

end Telematics
