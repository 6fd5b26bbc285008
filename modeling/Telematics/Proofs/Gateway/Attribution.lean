import Telematics.Proofs.Gateway.Coherence
import Telematics.Proofs.Gateway.Storing

/-!
Whose location it is. A location that a report stores belongs to the device that has the identifier
of the report, and that device is enabled. A report that is undone may leave the session of a device
that is gone, and the number of that device may be given out again; but whoever gets the number
loses the sessions that were kept under it. So a kept session tells the truth about its device
whenever there is a device of its number, which is all that a stored location needs.

* `Bears`, `Truthful`: what a number and the kept sessions tell about devices.
* `walk_bears`: the device that parameters end with has the last identifier among them.
* `step_truthful`: sessions stay truthful as long as sessions are dropped with every change.
* `stored_attributed`: the device of a stored location has the identifier of its report.
-/

namespace Telematics.Gateway

open Relation (ReflTransGen)
open Report (Acceptance Draft Walk Placed latest? identifierOf? carriedIdentifier?)

variable {gateway before after : Gateway}

/-! ## Truthful sessions -/

/-- If there is a device of the number, then it has the identifier and is enabled. -/
def Bears (store : Store) (device : Int) (identifier : String) : Prop :=
  ∀ row, store.device? device = some row →
    row.value.uniqueId = identifier ∧ row.value.isEnabled = true

/-- A kept session tells the truth about its device, if that exists. -/
def Truthful (gateway : Gateway) : Prop :=
  ∀ entry ∈ gateway.sessions, Bears gateway.store entry.2.device entry.1

theorem Bears.congr {store changed : Store} {device : Int} {identifier : String}
    (bears : Bears store device identifier)
    (same : changed.device? device = store.device? device) : Bears changed device identifier := by
  unfold Bears
  rw [same]
  exact bears

theorem bears_of_device? {store : Store} {device : Int} {row : Row Device}
    (found : store.device? device = some row) (enabled : row.value.isEnabled = true) :
    Bears store device row.value.uniqueId := by
  intro other known
  rw [found] at known
  cases known
  exact ⟨rfl, enabled⟩

theorem Fits.bears {store : Store} {entry : String × Session} (fits : Fits store entry) :
    Bears store entry.2.device entry.1 := by
  obtain ⟨row, found, named, enabled⟩ := fits
  rw [← named]
  exact bears_of_device? found enabled

theorem Fresh.truthful (fresh : Fresh gateway) : Truthful gateway :=
  fun entry kept => (fresh.coherent entry kept).bears

theorem Truthful.of_tended (truthful : Truthful before) (tended : Tended before after) :
    Truthful after := by
  intro entry kept
  rcases tended entry kept with fits | ⟨was, same⟩
  · exact fits.bears
  · exact (truthful entry was).congr same

/-- Every device was there before, with the identifier and the status that it has. -/
def OnlyKnown (before after : Store) : Prop :=
  ∀ id row, after.device? id = some row → ∃ first, before.device? id = some first ∧
    row.value.uniqueId = first.value.uniqueId ∧ row.value.status = first.value.status

theorem OnlyKnown.refl (store : Store) : OnlyKnown store store :=
  fun _ row known => ⟨row, known, rfl, rfl⟩

theorem OnlyKnown.trans {first second third : Store} (one : OnlyKnown first second)
    (two : OnlyKnown second third) : OnlyKnown first third := by
  intro id row known
  obtain ⟨middle, found, sameId, sameStatus⟩ := two id row known
  obtain ⟨last, was, firstId, firstStatus⟩ := one id middle found
  exact ⟨last, was, sameId.trans firstId, sameStatus.trans firstStatus⟩

theorem Bears.onlyKnown {store changed : Store} {device : Int} {identifier : String}
    (bears : Bears store device identifier) (known : OnlyKnown store changed) :
    Bears changed device identifier := by
  intro row found
  obtain ⟨first, was, sameId, sameStatus⟩ := known device row found
  obtain ⟨named, enabled⟩ := bears first was
  refine ⟨sameId.trans named, ?_⟩
  rw [Device.isEnabled, sameStatus]
  exact enabled

/-- A token leaves every device its identifier and its status. -/
theorem onlyKnown_addToken {store changed : Store} {now : Calendar.Moment} {id : Int}
    {token : Json} (added : store.addToken now id token = .added changed) :
    OnlyKnown store changed := by
  obtain ⟨owner, members, tokens, found, -, -, rfl⟩ := Store.addToken_eq_added added
  have named : owner.id = id := (Table.mem_of_find? found).2
  intro other row known
  rw [Store.device?_setDevice] at known
  split at known
  · rename_i same
    rw [named, found] at known
    cases known
    exact ⟨owner, by rw [same, named]; exact found, rfl, rfl⟩
  · exact ⟨row, known, rfl, rfl⟩

/-! ## Decoding -/

/-- The device that is found for an identifier has it. -/
theorem findDevice_bears {protocol : Json} {remote : Option String} {identifier : String}
    {device : Int} (truthful : Truthful gateway)
    (looked : (services.findDevice protocol remote [.whole identifier]).run gateway =
      (.ok (some device), after)) :
    Bears after.store device identifier := by
  obtain ⟨session, same, opening⟩ := findDevice_opening_whole looked
  cases opening with
  | @kept session found =>
    cases same
    obtain ⟨text, listed, kept⟩ := List.exists_of_findSome?_eq_some found
    rw [List.mem_singleton] at listed
    rw [← listed]
    obtain ⟨front, back, same, -⟩ := List.lookup_eq_some_iff.mp kept
    exact truthful (text, session) (by rw [same]; exact List.mem_append_cons_self)
  | @known row _ known enabled =>
    cases same
    obtain ⟨there, listed⟩ := Store.mem_of_firstKnown? known
    rw [List.mem_singleton] at listed
    rw [← listed]
    exact bears_of_device? there enabled
  | @registered _ _ name _ _ listed _ =>
    cases same
    cases listed
    have there := Store.device?_addDevice gateway.store gateway.store.devices.nextId
      gateway.store.devices.nextId (Store.newDevice gateway.clock.now name identifier)
    rw [if_pos rfl] at there
    exact bears_of_device? there (Store.isEnabled_newDevice gateway.clock.now name identifier)
  | disabled _ _ _ => cases same
  | unknown _ _ _ => cases same

/-- The device that parameters end with has the last identifier among them. If there is none, it is
    the device that they begin with, and no device is new. -/
theorem walk_bears {decoder : Report.Decoder} {zone : Calendar.Zone} {remote : Option String}
    {fields : List Http.Field} {draft last : Draft} (truthful : Truthful gateway)
    (walk : Walk services decoder zone remote gateway draft fields last after) :
    (∃ identifier, latest? identifierOf? fields = some identifier ∧
        Bears after.store last.device identifier) ∨
      latest? identifierOf? fields = none ∧ last.device = draft.device ∧
        OnlyKnown gateway.store after.store := by
  induction walk with
  | done => exact .inr ⟨rfl, rfl, .refl _⟩
  | step read handling walk ih =>
    have tells := (Report.readEntry_tells read).1
    rw [Report.latest?_cons]
    rcases ih (truthful.of_tended (effects_tended (handling.reaches services_follow_effect))) with
      ⟨identifier, said, bears⟩ | ⟨silent, same, known⟩
    · exact .inl ⟨identifier, by rw [said, Option.some_or], bears⟩
    · -- No later parameter names a device, so it is up to this one.
      rw [silent, Option.none_or, tells]
      cases handling with
      | @found text device middle looked =>
        have bears := (findDevice_bears truthful looked).onlyKnown known
        exact .inl ⟨text, rfl, by rw [same]; exact bears⟩
      | registered named kept =>
        refine .inr ⟨rfl, same, OnlyKnown.trans ?_ known⟩
        rcases registerToken_cases (registerToken_of_run kept) with ⟨-, rfl⟩ | ⟨store, added, rfl⟩
        · exact .refl _
        · exact onlyKnown_addToken added
      | skipped unnamed => exact .inr ⟨rfl, same, known⟩
      | said => exact .inr ⟨rfl, same.trans (Report.device_add _ _), known⟩

/-- A position gets its place without any change. -/
theorem placed_same {device : Int} {time : Calendar.Moment} {base position : Position}
    {coordinates : Option (Binary64 × Binary64)}
    (placed : Report.Placed services device time base before coordinates position after) :
    after = before := by
  cases placed with
  | given => rfl
  | spot => rfl
  | filled somebody looked =>
    cases looked
    rfl
  | unfilled nobody => rfl

/-- The device of an accepted report has the identifier that the report carries. -/
theorem acceptance_bears {decoder : Report.Decoder} {clock : Calendar.Clock}
    {request : Http.Request} {position : Position} (truthful : Truthful before)
    (accepted : Acceptance services decoder clock request before position after) :
    ∃ device identifier, position.deviceId = .int device ∧
      carriedIdentifier? request = some (.whole identifier) ∧
      Bears after.store device identifier := by
  cases accepted with
  | @parameters fields draft position payloads middle located after plain known walk somebody placed
      taken =>
    rcases walk_bears truthful walk with ⟨identifier, said, bears⟩ | ⟨-, same, -⟩
    · refine ⟨draft.device, identifier, placed.source.deviceId, ?_, ?_⟩
      · rw [carriedIdentifier?, if_neg (by simp [plain]), known]
        exact congrArg (Option.map Letters.whole) said
      · have unmoved := placed_same placed
        subst unmoved
        rw [run_takeCommands] at taken
        cases taken
        exact bears
    · exact absurd same somebody
  | @document document location identifier device time attributes position middle after json known
      named looked inside extra placed =>
    cases identifier with
    | torn text => cases looked
    | whole identifier =>
      refine ⟨device, identifier, placed.source.deviceId, ?_, ?_⟩
      · rw [carriedIdentifier?, if_pos json, known]
        exact toOption_eq_some_iff.mpr named
      · rw [placed_same placed]
        exact findDevice_bears truthful looked

/-! ## Steps -/

/-- A report keeps sessions truthful, even one that is undone. -/
theorem report_truthful (truthful : Truthful gateway) (request : Http.Request) :
    Truthful (gateway.report request).gateway := by
  rcases report_settles gateway request with
    ⟨fault, -, same⟩ | ⟨result, before, after, decodes, sessions, store⟩
  · rw [same]
    exact truthful
  have begins : Truthful before := by
    obtain ⟨_, rfl⟩ := decodes.before_eq
    exact truthful
  have decoded := begins.of_tended decodes.reached.tended
  rcases store with undone | devices
  · -- A device that is there again has the identifier that it had while the report was decoded.
    intro entry kept row found
    rw [sessions] at kept
    rw [undone] at found
    obtain ⟨row', reached, sameId, sameStatus⟩ := decodes.reached.device found
    obtain ⟨named, enabled⟩ := decoded entry kept row' reached
    refine ⟨sameId.symm.trans named, ?_⟩
    rw [Device.isEnabled, ← sameStatus]
    exact enabled
  · refine decoded.of_tended (.of_subset (fun entry kept => ?_) devices)
    rw [← sessions]
    exact kept

/-- A step gives notice of every change of a device: none is overwritten, and none is saved under a
    number that is no integer. -/
def Step.GivesNotice : Step → Prop
  | .overwriteDevice _ _ => False
  | .updateDevice _ change => ∀ id, change.id = some id → id.integer? ≠ none
  | _ => True

/-- A device that is saved without another number, or under an integer, is saved under an
    integer. -/
theorem updateDevice_numbered {uniqueId : Json} {change : DeviceChange} {form : DeviceForm}
    (updated : gateway.updateDevice uniqueId change = .ok (form, after))
    (integers : ∀ id, change.id = some id → id.integer? ≠ none) : form.id.integer? ≠ none := by
  obtain ⟨row, store, -, stored, -⟩ := updateDevice_stored updated
  rcases Store.saveDevice_cases stored with ⟨_, _, -, -, rfl, -⟩ | ⟨id, _, named, -, -⟩
  · show (change.id.getD (.int row.id)).integer? ≠ none
    cases given : change.id with
    | none => exact Option.some_ne_none row.id
    | some id => exact integers id given
  · rw [named]
    exact Option.some_ne_none id

/-- Sessions stay truthful in a step that gives notice of every change of a device. -/
theorem step_truthful (truthful : Truthful gateway) {what : Step} (notice : what.GivesNotice) :
    Truthful (gateway.step what).gateway := by
  cases what with
  | request raw =>
    show Truthful (gateway.serve raw).gateway
    cases reports : gateway.report? raw with
    | some request =>
      rw [serve_of_report reports]
      exact report_truthful truthful request
    | none => exact truthful.of_tended (serve_tended reports)
  | updateDevice uniqueId change =>
    refine attempt_invariant Truthful truthful fun form after updated => ?_
    exact truthful.of_tended (updateDevice_tended updated (updateDevice_numbered updated notice))
  | overwriteDevice _ _ => exact notice.elim
  -- The other steps tend the sessions.
  | _ => exact truthful.of_tended (step_tended trivial)

theorem run_truthful (fresh : Fresh gateway) {steps : List Step}
    (notice : ∀ what ∈ steps, what.GivesNotice) : Truthful (gateway.run steps) :=
  run_invariant Truthful (fun _ _ truthful notice => step_truthful truthful notice)
    fresh.truthful (along_of_forall notice)

/-- A location that a report stores belongs to a device that exists, has the identifier that the
    report carries, and is not disabled. This holds in every state of a run that gives notice of the
    changes of devices, however many reports were undone and numbers given out again. -/
theorem stored_attributed (fresh : Fresh gateway) {steps : List Step}
    (notice : ∀ what ∈ steps, what.GivesNotice) {raw : Http.RawRequest} {request : Http.Request}
    (reports : (gateway.run steps).report? raw = some request) {row : Row Location}
    (new : row ∈ newLocations (gateway.run steps) ((gateway.run steps).serve raw).gateway) :
    ∃ device, ((gateway.run steps).serve raw).gateway.store.device? row.value.device =
        some device ∧
      carriedIdentifier? request = some (.whole device.value.uniqueId) ∧
      device.value.status ≠ inactiveStatus := by
  have begins : ∀ decoder, Truthful { gateway.run steps with decoder } :=
    fun _ => run_truthful fresh notice
  rw [serve_of_report reports] at new ⊢
  obtain ⟨made, accepted, keeps, devices, -, known⟩ :=
    storing_of_new (run_isConsistent fresh steps) new
  obtain ⟨number, identifier, own, carried, bears⟩ := acceptance_bears (begins _) accepted
  have mine := keeps.device_eq own
  obtain ⟨device, found⟩ := Option.isSome_iff_exists.mp known
  obtain ⟨named, enabled⟩ := bears device (by
    rw [← mine, Store.device?, ← devices]
    exact found)
  refine ⟨device, found, by rw [carried, named], ?_⟩
  simpa [Device.isEnabled] using enabled

/-- The first report is undone, its session stays, and its number is given out again. -/
def reusedNumber : List Step :=
  [reportStep "id=a&lat=north",
    .createDevice { name := some (.text "B"), uniqueId := some (.text "b") }]

/-- The next report of the device whose number is another one's is stored for a device of its
    own. -/
theorem reused_number_attributed :
    (openGateway.run reusedNumber).store.devices.rows.map (·.value.uniqueId) = ["b"] ∧
      ∃ request row, (openGateway.run reusedNumber).report? placedReport = some request ∧
        row ∈ newLocations (openGateway.run reusedNumber)
          ((openGateway.run reusedNumber).serve placedReport).gateway ∧
        ∃ device, ((openGateway.run reusedNumber).serve placedReport).gateway.store.device?
            row.value.device = some device ∧
          carriedIdentifier? request = some (.whole device.value.uniqueId) ∧
          device.value.status ≠ inactiveStatus := by
  obtain ⟨request, reports⟩ : ∃ request,
      (openGateway.run reusedNumber).report? placedReport = some request :=
    Option.isSome_iff_exists.mp (by decide +kernel)
  obtain ⟨row, new⟩ : ∃ row, row ∈ newLocations (openGateway.run reusedNumber)
      ((openGateway.run reusedNumber).serve placedReport).gateway :=
    List.exists_mem_of_ne_nil _ (by decide +kernel)
  have notice : ∀ what ∈ reusedNumber, what.GivesNotice := by
    intro what listed
    simp only [reusedNumber, List.mem_cons, List.not_mem_nil, or_false] at listed
    rcases listed with rfl | rfl <;> exact trivial
  exact ⟨by decide +kernel, request, row, reports, new,
    stored_attributed openGateway_fresh notice reports new⟩

end Telematics.Gateway
