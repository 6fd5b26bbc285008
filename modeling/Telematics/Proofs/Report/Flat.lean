import Telematics.Proofs.Report.Typing

/-!
How deep decoded positions are. Radio observations and attributes are flat: whatever a report says,
there is no list and no object in them, and their integers are short. What reports nest more deeply
is not taken over.

* `Network.IsFlat`, `Position.IsFlat`: observations and positions with nothing nested in them.
* `Draft.IsFlat`: parameters keep a draft flat, by `Walk.keeps`.
* `isFlat_of_readExtras`: the attributes of a document are flat.
* `Acceptance.isFlat`: the position of an accepted report is flat.
-/

namespace Telematics

open Number (IsShort)

/-- Every observation is a flat object. -/
structure Network.IsFlat (network : Network) : Prop where
  towers : ∀ tower ∈ network.cellTowers, tower.toJson.IsFlat
  points : ∀ point ∈ network.accessPoints, point.toJson.IsFlat

/-- Nothing is nested in the observations and in the attributes of a position. -/
structure Position.IsFlat (position : Position) : Prop where
  network : ∀ network, position.network = some network → network.IsFlat
  attributes : position.attributes.IsFlat

/-- A tower is flat if its parts are scalars. -/
theorem CellTower.isFlat_toJson {tower : CellTower} (country : tower.mobileCountryCode.IsScalar)
    (network : tower.mobileNetworkCode.IsScalar) (area : tower.locationAreaCode.IsScalar)
    (cell : tower.cellId.IsScalar) (signal : tower.signalStrength.IsScalar) :
    tower.toJson.IsFlat := by
  have keys : (["mobile_country_code", "mobile_network_code", "location_area_code", "cell_id",
    "signal_strength"] : List Letters).Nodup := by decide
  refine ⟨_, rfl, keys, ?_⟩
  simp only [List.forall_mem_cons]
  exact ⟨country, network, area, cell, signal, fun _ absent => nomatch absent⟩

/-- An access point is flat if its parts are scalars. -/
theorem AccessPoint.isFlat_toJson {point : AccessPoint} (address : point.macAddress.IsScalar)
    (signal : point.signalStrength.IsScalar) : point.toJson.IsFlat := by
  have keys : (["mac_address", "signal_strength"] : List Letters).Nodup := by decide
  refine ⟨_, rfl, keys, ?_⟩
  simp only [List.forall_mem_cons]
  exact ⟨address, signal, fun _ absent => nomatch absent⟩

namespace Report

open Calendar (Clock Moment)

/-! ## Parameters -/

theorem isShort_of_readInteger {text : String} {value : Int}
    (read : readInteger text = .ok value) : IsShort value :=
  Number.isShort_of_readInteger (mapError_eq_ok_iff.mp read)

/-- The integers of a parameter are short. -/
theorem isShort_of_mapM {parts : List String} {values : List Int}
    (read : parts.mapM readInteger = .ok values) : ∀ value ∈ values, IsShort value := by
  induction parts generalizing values with
  | nil =>
    cases read
    exact fun _ absent => nomatch absent
  | cons part rest ih =>
    rw [List.mapM_cons] at read
    obtain ⟨value, first, read⟩ := bind_eq_ok_iff.mp read
    obtain ⟨others, second, read⟩ := bind_eq_ok_iff.mp read
    cases read
    exact List.forall_mem_cons.mpr ⟨isShort_of_readInteger first, ih second⟩

theorem isFlat_of_readTower {text : String} {tower : CellTower}
    (read : readTower text = .ok tower) : tower.toJson.IsFlat := by
  obtain ⟨parts, listed, read⟩ := bind_eq_ok_iff.mp read
  have short := isShort_of_mapM listed
  split at read <;> cases read
  · obtain ⟨country, network, area, cell, -⟩ : _ ∧ _ ∧ _ ∧ _ ∧ _ := by
      simpa only [List.forall_mem_cons] using short
    exact CellTower.isFlat_toJson country network area cell trivial
  · obtain ⟨country, network, area, cell, signal, -⟩ : _ ∧ _ ∧ _ ∧ _ ∧ _ ∧ _ := by
      simpa only [List.forall_mem_cons] using short
    exact CellTower.isFlat_toJson country network area cell signal

theorem isFlat_of_readAccessPoint {text : String} {point : AccessPoint}
    (read : readAccessPoint text = .ok point) : point.toJson.IsFlat := by
  unfold readAccessPoint at read
  split at read
  · obtain ⟨signal, number, read⟩ := bind_eq_ok_iff.mp read
    cases read
    exact AccessPoint.isFlat_toJson trivial (isShort_of_readInteger number)
  · cases read

/-- The observations and the attributes of a draft are flat. -/
structure Draft.IsFlat (draft : Draft) : Prop where
  network : draft.network.IsFlat
  attributes : (Json.object draft.attributes).IsFlat

theorem Draft.isFlat_empty : ({} : Draft).IsFlat where
  network :=
    { towers := (fun _ absent => nomatch absent), points := fun _ absent => nomatch absent }
  attributes := Json.isFlat_empty

theorem Draft.IsFlat.add {draft : Draft} (flat : draft.IsFlat) {detail : Detail}
    (told : Told detail) : (draft.add detail).IsFlat := by
  obtain ⟨⟨towers, points⟩, attributes⟩ := flat
  cases told with
  | @tower text tower read =>
    refine ⟨⟨fun other present => ?_, points⟩, attributes⟩
    rcases List.mem_append.mp present with old | new
    · exact towers other old
    · exact List.mem_singleton.mp new ▸ isFlat_of_readTower read
  | @accessPoint text point read =>
    refine ⟨⟨towers, fun other present => ?_⟩, attributes⟩
    rcases List.mem_append.mp present with old | new
    · exact points other old
    · exact List.mem_singleton.mp new ▸ isFlat_of_readAccessPoint read
  | extra scalar => exact ⟨⟨towers, points⟩, attributes.put scalar⟩
  | basic basic =>
    cases detail with
    | _ => first
      | exact ⟨⟨towers, points⟩, attributes⟩
      | exact absurd basic id

variable {ε σ : Type} {services : Services ε σ} {decoder : Decoder} {state after : σ}

theorem Walk.isFlat {zone : Calendar.Zone} {remote : Option String} {fields : List Http.Field}
    {draft last : Draft} (walk : Walk services decoder zone remote state draft fields last after)
    (flat : draft.IsFlat) : last.IsFlat :=
  walk.keeps (fun flat => ⟨flat.network, flat.attributes⟩) (fun told flat => flat.add told) flat

theorem Draft.IsFlat.toPosition {draft : Draft} (flat : draft.IsFlat) (protocol : Json)
    (now : Moment) : (draft.toPosition protocol now).IsFlat where
  network network same := by
    have observed : draft.network? = some network := same
    unfold Draft.network? at observed
    split at observed
    · cases observed
      exact flat.network
    · cases observed
  attributes := flat.attributes

/-! ## Documents -/

theorem isScalar_entry {α : Type} {known : Position.Known} {wrap : α → Json} {value : Option α}
    (scalar : ∀ inner, value = some inner → (wrap inner).IsScalar) :
    ∀ member ∈ entry known wrap value, member.2.IsScalar := by
  cases value with
  | none => exact fun _ absent => nomatch absent
  | some inner =>
    intro member present
    rw [List.mem_singleton.mp present]
    exact scalar inner rfl

theorem eq_some_of_ifPresent {α : Type} {members : Json.Members} {key : String}
    {reader : Json.Members → String → Except Rejection α} {value : α}
    (read : ifPresent members key reader = .ok (some value)) : reader members key = .ok value := by
  unfold ifPresent at read
  split at read
  · obtain ⟨inner, found, same⟩ := map_eq_ok_iff.mp read
    cases same
    exact found
  · cases read

theorem isShort_of_integerPart {key : String} {number : Binary64} {whole : Int}
    (read : integerPart key number = .ok whole) : IsShort whole := by
  unfold integerPart at read
  split at read
  · rename_i same
    cases read
    exact Binary64.isShort_of_truncate? same
  · cases read

theorem isShort_of_readOdometer {members : Json.Members} {key : String} {whole : Int}
    (read : readOdometer members key = .ok whole) : IsShort whole := by
  obtain ⟨number, -, part⟩ := bind_eq_ok_iff.mp read
  exact isShort_of_integerPart part

theorem isShort_of_readBattery {members : Json.Members} {key : String} {level : Int}
    {charging : Bool} (read : readBattery members key = .ok (some level, charging)) :
    IsShort level := by
  unfold readBattery at read
  obtain ⟨battery, -, read⟩ := bind_eq_ok_iff.mp read
  obtain ⟨measure, -, read⟩ := bind_eq_ok_iff.mp read
  dsimp only at read
  split at read
  · obtain ⟨percent, part, read⟩ := bind_eq_ok_iff.mp read
    obtain ⟨whole, found, same⟩ := map_eq_ok_iff.mp part
    cases same
    cases read
    exact isShort_of_integerPart found
  · cases read

/-- The attributes of a document are flat. -/
theorem isFlat_of_readExtras {location attributes : Json.Members}
    (read : readExtras location = .ok attributes) : (Json.object attributes).IsFlat := by
  refine ⟨attributes, rfl, nodup_of_readExtras read, ?_⟩
  unfold readExtras at read
  obtain ⟨event, -, read⟩ := bind_eq_ok_iff.mp read
  obtain ⟨motion, -, read⟩ := bind_eq_ok_iff.mp read
  obtain ⟨odometer, driven, read⟩ := bind_eq_ok_iff.mp read
  obtain ⟨mock, -, read⟩ := bind_eq_ok_iff.mp read
  obtain ⟨activity, -, read⟩ := bind_eq_ok_iff.mp read
  obtain ⟨battery, charged, read⟩ := bind_eq_ok_iff.mp read
  obtain ⟨alarm, -, read⟩ := bind_eq_ok_iff.mp read
  cases read
  simp only [List.forall_mem_append]
  have text : ∀ {known value}, ∀ member ∈ entry known Json.text value, member.2.IsScalar :=
    isScalar_entry fun _ _ => trivial
  have bool : ∀ {known value}, ∀ member ∈ entry known Json.bool value, member.2.IsScalar :=
    isScalar_entry fun _ _ => trivial
  refine ⟨⟨⟨⟨⟨⟨⟨text, bool⟩, ?_⟩, bool⟩, text⟩, ?_⟩, bool⟩, text⟩
  · refine isScalar_entry fun whole same => ?_
    rw [same] at driven
    exact isShort_of_readOdometer (eq_some_of_ifPresent driven)
  · refine isScalar_entry fun level same => ?_
    obtain ⟨⟨_, charging⟩, told, rfl⟩ := Option.bind_eq_some_iff.mp same
    rw [told] at charged
    exact isShort_of_readBattery (eq_some_of_ifPresent charged)

/-! ## Accepted reports -/

/-- A position that gets its place keeps its attributes. -/
theorem Placed.attributes {device : Int} {time : Moment} {base position : Position}
    {coordinates : Option (Binary64 × Binary64)}
    (placed : Placed services device time base state coordinates position after) :
    position.attributes = base.attributes := by
  cases placed with
  | given => rfl
  | spot => rfl
  | @filled last _ _ _ => cases last <;> rfl
  | unfilled _ => rfl

theorem Placed.isFlat {device : Int} {time : Moment} {base position : Position}
    {coordinates : Option (Binary64 × Binary64)}
    (placed : Placed services device time base state coordinates position after)
    (flat : base.IsFlat) : position.IsFlat where
  network := by
    rw [placed.source.network]
    exact flat.network
  attributes := by
    rw [placed.attributes]
    exact flat.attributes

/-- The position of an accepted report is flat. -/
theorem Acceptance.isFlat {clock : Clock} {request : Http.Request} {position : Position}
    (accepted : Acceptance services decoder clock request state position after) :
    position.IsFlat := by
  cases accepted with
  | parameters _ _ walk _ placed _ =>
    exact placed.isFlat ((walk.isFlat Draft.isFlat_empty).toPosition _ _)
  | document _ _ _ _ _ extra placed =>
    exact placed.isFlat {
      network := (fun _ same => nomatch same)
      attributes := isFlat_of_readExtras extra }

end Report

end Telematics
