import Telematics.Proofs.Report.Acceptance
import Telematics.Proofs.Store.Fitting

/-!
The kinds of the values of decoded positions. Whatever a report says, the measures of its position
are numbers, its radio observations hold integers and texts, and its attributes have distinct keys.

* `Told`: what parameters can tell. `Walk.keeps`: what holds of a draft after all that they tell.
* `Draft.IsTyped`: what is true of a draft. `Walk.isTyped`: parameters keep it so.
* `nodup_of_readExtras`: the attributes of a document have distinct keys.
* `Acceptance.isTyped`: the values of the position of an accepted report are of these kinds.
-/

namespace Telematics

/-! ## Radio observations -/

theorem Json.areStrict_append {front back : List Json} :
    areStrict (front ++ back) = (areStrict front && areStrict back) := by
  induction front with
  | nil => rfl
  | cons item rest ih => rw [List.cons_append, areStrict, areStrict, ih, Bool.and_assoc]

namespace Network

variable {network : Network}

theorem isStrict_listJson (entries : List Json) :
    (listJson entries).isStrict = Json.areStrict entries := by
  cases entries <;> rfl

theorem isStrict_toJson_iff :
    network.toJson.isStrict = true ↔
      Json.areStrict (network.cellTowers.map CellTower.toJson) = true ∧
        Json.areStrict (network.accessPoints.map AccessPoint.toJson) = true := by
  simp [toJson, toMembers, Json.isStrict, Json.membersStrict, isStrict_listJson]

theorem isStrict_addCellTower {tower : CellTower} (strict : network.toJson.isStrict = true)
    (new : tower.toJson.isStrict = true) :
    (network.addCellTower tower).toJson.isStrict = true := by
  obtain ⟨towers, points⟩ := isStrict_toJson_iff.mp strict
  refine isStrict_toJson_iff.mpr ⟨?_, points⟩
  simp [addCellTower, Json.areStrict_append, towers, Json.areStrict, new]

theorem isStrict_addAccessPoint {point : AccessPoint} (strict : network.toJson.isStrict = true)
    (new : point.toJson.isStrict = true) :
    (network.addAccessPoint point).toJson.isStrict = true := by
  obtain ⟨towers, points⟩ := isStrict_toJson_iff.mp strict
  refine isStrict_toJson_iff.mpr ⟨towers, ?_⟩
  simp [addAccessPoint, Json.areStrict_append, points, Json.areStrict, new]

end Network

namespace Report

open Calendar (Clock Moment)

/-! ## Parameters -/

/-- The radio observations of a detail, if it is one, hold no infinity and no not-a-number. -/
def Detail.IsStrict : Detail → Prop
  | .tower cell => cell.toJson.isStrict = true
  | .accessPoint point => point.toJson.isStrict = true
  | _ => True

theorem isStrict_of_readTower {text : String} {tower : CellTower}
    (read : readTower text = .ok tower) : tower.toJson.isStrict = true := by
  obtain ⟨parts, -, read⟩ := bind_eq_ok_iff.mp read
  split at read <;> cases read <;> rfl

theorem isStrict_of_readAccessPoint {text : String} {point : AccessPoint}
    (read : readAccessPoint text = .ok point) : point.toJson.isStrict = true := by
  unfold readAccessPoint at read
  split at read
  · obtain ⟨signal, -, read⟩ := bind_eq_ok_iff.mp read
    cases read
    rfl
  · cases read

/-- The detail is about no radio observation and no attribute. -/
def Detail.IsBasic : Detail → Prop
  | .tower _ => False
  | .accessPoint _ => False
  | .attribute _ _ => False
  | _ => True

/-- What a parameter can tell, by the kind of the detail. -/
inductive Told : Detail → Prop where
  | tower {text : String} {tower : CellTower} : readTower text = .ok tower → Told (.tower tower)
  | accessPoint {text : String} {point : AccessPoint} :
      readAccessPoint text = .ok point → Told (.accessPoint point)
  | extra {key : String} {value : Json} : value.IsScalar → Told (.attribute key value)
  | basic {detail : Detail} : detail.IsBasic → Told detail

theorem isScalar_guess (text : String) : (guess text).IsScalar := by
  unfold guess
  split
  · exact trivial
  · split
    · exact trivial
    · split <;> exact trivial

theorem told_of_readEntry {decoder : Decoder} {zone : Calendar.Zone} {key value : String}
    {detail : Detail} (read : readEntry decoder zone key value = .ok (.detail detail)) :
    Told detail := by
  cases readEntry_says read with
  | tower given => exact .tower given
  | accessPoint given => exact .accessPoint given
  | other _ => exact .extra (isScalar_guess value)
  | hdop _ | batt _ | driver | charge => exact .extra trivial
  | _ => exact .basic trivial

theorem Told.isStrict {detail : Detail} (told : Told detail) : detail.IsStrict := by
  cases told with
  | tower read => exact isStrict_of_readTower read
  | accessPoint read => exact isStrict_of_readAccessPoint read
  | extra scalar => exact trivial
  | basic basic =>
    cases detail with
    | _ => first
      | exact trivial
      | exact absurd basic id

/-- What is true of a draft: its radio observations hold no infinity and no not-a-number, and its
    attributes have distinct keys. -/
structure Draft.IsTyped (draft : Draft) : Prop where
  network : draft.network.toJson.isStrict = true
  attributes : (draft.attributes.map Prod.fst).Nodup

theorem Draft.isTyped_empty : ({} : Draft).IsTyped := ⟨rfl, List.nodup_nil⟩

theorem Draft.IsTyped.add {draft : Draft} (typed : draft.IsTyped) {detail : Detail}
    (strict : detail.IsStrict) : (draft.add detail).IsTyped :=
  match detail with
  | .tower _ => ⟨Network.isStrict_addCellTower typed.network strict, typed.attributes⟩
  | .accessPoint _ => ⟨Network.isStrict_addAccessPoint typed.network strict, typed.attributes⟩
  | .attribute _ _ => ⟨typed.network, Json.Members.nodup_put typed.attributes⟩
  | .valid _ | .time _ | .latitude _ | .longitude _ | .place _ _ | .speed _ | .course _
  | .altitude _ | .accuracy _ => ⟨typed.network, typed.attributes⟩

variable {ε σ : Type} {services : Services ε σ} {decoder : Decoder} {state after : σ}

/-- What holds of a draft, whatever its device is, and is kept by everything that parameters can
    tell, holds after all of them. -/
theorem Walk.keeps {holds : Draft → Prop} {zone : Calendar.Zone} {remote : Option String}
    {fields : List Http.Field} {draft last : Draft}
    (walk : Walk services decoder zone remote state draft fields last after)
    (found : ∀ {draft : Draft} {device : Int}, holds draft → holds { draft with device })
    (told : ∀ {draft : Draft} {detail : Detail}, Told detail → holds draft →
      holds (draft.add detail))
    (begins : holds draft) : holds last := by
  induction walk with
  | done => exact begins
  | step read handling _ ih =>
    cases handling with
    | found _ => exact ih (found begins)
    | registered _ _ => exact ih begins
    | skipped _ => exact ih begins
    | said => exact ih (told (told_of_readEntry read) begins)

theorem Walk.isTyped {zone : Calendar.Zone} {remote : Option String} {fields : List Http.Field}
    {draft last : Draft} (walk : Walk services decoder zone remote state draft fields last after)
    (typed : draft.IsTyped) : last.IsTyped :=
  walk.keeps (fun typed => ⟨typed.network, typed.attributes⟩)
    (fun told typed => typed.add told.isStrict) typed

theorem Draft.IsTyped.toPosition {draft : Draft} (typed : draft.IsTyped) (protocol : Json)
    (now : Moment) : (draft.toPosition protocol now).IsTyped where
  valid := ⟨_, rfl⟩
  latitude := ⟨none, rfl⟩
  longitude := ⟨none, rfl⟩
  altitude := ⟨_, rfl⟩
  speed := ⟨_, rfl⟩
  course := ⟨_, rfl⟩
  accuracy := ⟨_, rfl⟩
  device := ⟨_, rfl⟩
  serverTime := ⟨_, rfl⟩
  outdated := ⟨_, rfl⟩
  network := by
    show (Position.networkJson draft.network?).isStrict = true
    unfold Draft.network?
    split
    · exact typed.network
    · rfl
  attributes := ⟨_, rfl, typed.attributes⟩

/-! ## Documents -/

/-- The keys of an attribute that may be missing. -/
theorem keys_entry {α : Type} (known : Position.Known) (wrap : α → Json) (value : Option α) :
    ((entry known wrap value).map Prod.fst).Sublist [known.key] := by
  cases value with
  | none => exact List.nil_sublist _
  | some _ => exact List.Sublist.refl _

/-- The attributes of a document have distinct keys. -/
theorem nodup_of_readExtras {location members : Json.Members}
    (read : readExtras location = .ok members) : (members.map Prod.fst).Nodup := by
  unfold readExtras at read
  iterate 7 obtain ⟨_, -, read⟩ := bind_eq_ok_iff.mp read
  cases read
  simp only [List.map_append]
  -- The keys are some of eight distinct ones, in their order.
  refine List.Sublist.nodup (?_ : List.Sublist _ ([Letters.whole Position.Known.event.key] ++
    [Letters.whole Position.Known.motion.key] ++ [Letters.whole Position.Known.odometer.key] ++
    [Letters.whole Position.Known.mock.key] ++ [Letters.whole Position.Known.activity.key] ++
    [Letters.whole Position.Known.batteryLevel.key] ++ [Letters.whole Position.Known.charge.key] ++
    [Letters.whole Position.Known.alarm.key])) (by decide)
  iterate 7 refine List.Sublist.append ?_ (keys_entry _ _ _)
  exact keys_entry _ _ _

theorem documentPosition_isTyped {protocol : Json} {now time : Moment} {device : Int}
    {attributes : Json.Members} (distinct : (attributes.map Prod.fst).Nodup) :
    (documentPosition protocol now device time attributes).IsTyped where
  valid := ⟨_, rfl⟩
  latitude := ⟨none, rfl⟩
  longitude := ⟨none, rfl⟩
  altitude := ⟨none, rfl⟩
  speed := ⟨none, rfl⟩
  course := ⟨none, rfl⟩
  accuracy := ⟨none, rfl⟩
  device := ⟨_, rfl⟩
  serverTime := ⟨_, rfl⟩
  outdated := ⟨_, rfl⟩
  network := rfl
  attributes := ⟨_, rfl, distinct⟩

/-! ## Places -/

/-- The positions that stand in for missing coordinates are measured. -/
def Services.GivesMeasured (services : Services ε σ) : Prop :=
  ∀ device state last after, (services.lastPosition device).run state = (.ok (some last), after) →
    last.IsMeasured

theorem isTyped_fillFromLast {base : Position} (typed : base.IsTyped) {last : Option Position}
    (measured : ∀ position, last = some position → position.IsMeasured) :
    (fillFromLast last base).IsTyped := by
  cases last with
  | none => exact { typed with outdated := ⟨true, rfl⟩ }
  | some last => exact { measured last rfl, typed with outdated := ⟨true, rfl⟩ }

theorem Placed.isTyped {device : Int} {time : Moment} {base position : Position}
    {coordinates : Option (Binary64 × Binary64)}
    (placed : Placed services device time base state coordinates position after)
    (gives : services.GivesMeasured) (typed : base.IsTyped) : position.IsTyped := by
  cases placed with
  | @given latitude longitude =>
    exact { typed with latitude := ⟨some latitude, rfl⟩, longitude := ⟨some longitude, rfl⟩ }
  | @spot spot =>
    exact { typed with
      valid := ⟨true, rfl⟩
      latitude := ⟨some spot.latitude, rfl⟩
      longitude := ⟨some spot.longitude, rfl⟩
      altitude := ⟨spot.altitude, rfl⟩
      speed := ⟨spot.speed, rfl⟩
      course := ⟨spot.course, rfl⟩
      accuracy := ⟨spot.accuracy, rfl⟩ }
  | @filled last _ _ looked =>
    have filled : (fillFromLast last base).IsTyped := by
      refine isTyped_fillFromLast typed fun position same => ?_
      rw [same] at looked
      exact gives _ _ _ _ looked
    exact { filled with }
  | unfilled _ => exact typed

/-- The values of the position of an accepted report are of the kinds that reports give. -/
theorem Acceptance.isTyped {clock : Clock} {request : Http.Request} {position : Position}
    (accepted : Acceptance services decoder clock request state position after)
    (gives : services.GivesMeasured) : position.IsTyped := by
  cases accepted with
  | parameters _ _ walk _ placed _ =>
    exact placed.isTyped gives ((walk.isTyped Draft.isTyped_empty).toPosition _ _)
  | document _ _ _ _ _ extra placed =>
    exact placed.isTyped gives (documentPosition_isTyped (nodup_of_readExtras extra))

end Report

end Telematics
