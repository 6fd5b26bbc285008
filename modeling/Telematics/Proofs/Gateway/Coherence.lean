import Telematics.Proofs.Gateway.Run

/-!
The sessions that are kept and the devices of the store. A kept session names a device that exists,
has the identifier of the session and is enabled. Whatever changes a device drops its sessions, so
this holds all the way through a run, with two exceptions: a device that is registered by a report
and goes when the report is undone, while its session stays; and a device that is saved under a
number that is no integer, which drops no session.

* `Coherent`: every kept session names a device.
* `Tended`: what is done to sessions and devices keeps them together. `step_tended`: every step does
  so but for reports and for changes of devices that exist.
* `LeavesStale`: the two exceptions.
* `step_coherent_iff`, `coherent_along_iff`: sessions and devices agree unless one of them occurs.
-/

namespace Telematics.Gateway

open Relation (ReflTransGen)
open Report (Decoded Failure)

/-- A kept session names a device that exists, has its identifier and is enabled. -/
def Fits (store : Store) (entry : String × Session) : Prop :=
  ∃ row, store.device? entry.2.device = some row ∧ row.value.uniqueId = entry.1 ∧
    row.value.isEnabled = true

/-- Every kept session names a device. -/
def Coherent (gateway : Gateway) : Prop := ∀ entry ∈ gateway.sessions, Fits gateway.store entry

variable {gateway before after : Gateway}

theorem Fresh.coherent (fresh : Fresh gateway) : Coherent gateway := by
  intro entry kept
  rw [fresh.sessions] at kept
  exact absurd kept List.not_mem_nil

theorem Fits.congr {store changed : Store} {entry : String × Session} (fits : Fits store entry)
    (same : changed.device? entry.2.device = store.device? entry.2.device) :
    Fits changed entry := by
  unfold Fits
  rw [same]
  exact fits

/-- Every session that is kept fits, or it was kept before and its device is as it was. -/
def Tended (before after : Gateway) : Prop :=
  ∀ entry ∈ after.sessions, Fits after.store entry ∨
    entry ∈ before.sessions ∧
      after.store.device? entry.2.device = before.store.device? entry.2.device

/-- Sessions that are dropped, and devices that stay as they are, do no harm. -/
theorem Tended.of_subset (fewer : ∀ entry ∈ after.sessions, entry ∈ before.sessions)
    (same : after.store.devices = before.store.devices) : Tended before after := by
  intro entry kept
  refine .inr ⟨fewer entry kept, ?_⟩
  rw [Store.device?, same]
  rfl

theorem CommandsOnly.tended (only : CommandsOnly before after) : Tended before after := by
  obtain ⟨commands, rfl⟩ := only
  exact .of_subset (fun _ => id) rfl

theorem Tended.refl (gateway : Gateway) : Tended gateway gateway := .of_subset (fun _ => id) rfl

theorem Tended.trans {middle : Gateway} (first : Tended before middle)
    (second : Tended middle after) : Tended before after := by
  intro entry kept
  rcases second entry kept with fits | ⟨was, same⟩
  · exact .inl fits
  · rcases first entry was with fits | ⟨present, still⟩
    · exact .inl (fits.congr same)
    · exact .inr ⟨present, same.trans still⟩

/-- A device may become anything when its sessions are dropped. -/
theorem Tended.evict (gateway : Gateway) (store : Store) (id : Int)
    (others : ∀ other, other ≠ id → store.device? other = gateway.store.device? other) :
    Tended gateway ({ gateway with store }.evict id) := by
  intro entry kept
  obtain ⟨was, other⟩ := Sessions.mem_evict.mp kept
  exact .inr ⟨was, others _ other⟩

/-- The session of a device that exists and is enabled may be kept. -/
theorem Tended.put {session : Session} (fits : Fits gateway.store (session.uniqueId, session)) :
    Tended gateway { gateway with sessions := gateway.sessions.put session } := by
  intro entry kept
  rcases Sessions.mem_put.mp kept with rfl | ⟨was, -⟩
  · exact .inl fits
  · exact .inr ⟨was, rfl⟩

theorem Coherent.of_tended (coherent : Coherent before) (tended : Tended before after) :
    Coherent after := by
  intro entry kept
  rcases tended entry kept with fits | ⟨was, same⟩
  · exact fits
  · exact (coherent entry was).congr same

/-- What is done by decoding tends the sessions. -/
theorem Effect.tended (effect : Effect before after) : Tended before after := by
  cases effect with
  | kept known enabled => exact .put ⟨_, known, rfl, enabled⟩
  | @registered protocol remote identifier name unknown registers =>
    have dropped := Tended.evict before
      (before.store.addDevice before.store.devices.nextId
        (Store.newDevice before.clock.now name identifier))
      before.store.devices.nextId fun other => Store.device?_addDevice_of_ne
    have there := (Store.device?_addDevice before.store before.store.devices.nextId
      before.store.devices.nextId (Store.newDevice before.clock.now name identifier)).trans
      (if_pos rfl)
    exact dropped.trans
      (.put ⟨_, there, rfl, Store.isEnabled_newDevice before.clock.now name identifier⟩)
  | token added => exact .evict _ _ _ (Store.addToken_others added)

theorem effects_tended (effects : ReflTransGen Effect before after) : Tended before after := by
  induction effects with
  | refl => exact .refl _
  | tail _ effect ih => exact ih.trans effect.tended

/-! ## Reports -/

/-- Effects lead to the devices and the sessions of a gateway. -/
def Reached (before after : Gateway) : Prop :=
  ∃ middle, ReflTransGen Effect before middle ∧ after.sessions = middle.sessions ∧
    after.store.devices = middle.store.devices

theorem Reached.tended (reached : Reached before after) : Tended before after := by
  obtain ⟨middle, effects, sessions, devices⟩ := reached
  refine (effects_tended effects).trans (.of_subset (fun entry kept => ?_) devices)
  rw [← sessions]
  exact kept

/-- Every device keeps its number, its identifier and its status. -/
theorem Reached.device (reached : Reached before after) {id : Int} {row : Row Device}
    (known : before.store.device? id = some row) :
    ∃ row', after.store.device? id = some row' ∧ row'.value.uniqueId = row.value.uniqueId ∧
      row'.value.status = row.value.status := by
  obtain ⟨middle, effects, -, devices⟩ := reached
  rw [Store.device?, devices]
  exact effects_device effects known

/-- Decoding does to devices and sessions what its services do, but for the taking of commands. -/
theorem Decodes.reaches {step : Gateway → Gateway → Prop} (follow : services.Follow step)
    {request : Http.Request} {result : Except (Failure Fault) Decoded}
    (decodes : Decodes gateway request result before after) :
    ∃ middle, ReflTransGen step before middle ∧ after.sessions = middle.sessions ∧
      after.store.devices = middle.store.devices := by
  obtain ⟨decoder, -, -, ran⟩ := decodes
  have ending := Report.decode_ending follow decoder gateway.clock request ran
  generalize Report.isJson request = format at ending
  cases ending with
  | failed steps => exact ⟨after, steps, rfl, rfl⟩
  | unknown looked =>
    have same := findDevice_none looked
    subst same
    exact ⟨after, .refl, rfl, rfl⟩
  | refused steps => exact ⟨after, steps, rfl, rfl⟩
  | document _ steps => exact ⟨after, steps, rfl, rfl⟩
  | parameters _ _ steps taken _ =>
    rw [run_takeCommands] at taken
    cases taken
    exact ⟨_, steps, rfl, rfl⟩
  | unsent _ steps taken _ =>
    rw [run_takeCommands] at taken
    cases taken
    exact ⟨_, steps, rfl, rfl⟩
  | untaken _ steps taken =>
    rw [run_takeCommands] at taken
    cases taken

theorem Decodes.reached {request : Http.Request} {result : Except (Failure Fault) Decoded}
    (decodes : Decodes gateway request result before after) : Reached before after :=
  decodes.reaches services_follow_effect

/-- Sessions stay as decoding left them. Devices do so too, unless they are as before. -/
def Settles (before after settled : Gateway) : Prop :=
  settled.sessions = after.sessions ∧
    (settled.store = before.store ∨ settled.store.devices = after.store.devices)

theorem complete_settles (before after : Gateway) (outbox : Outbox) (response : Http.Response) :
    Settles before after (complete before after outbox response).gateway := by
  unfold complete
  split
  · exact ⟨rfl, .inr rfl⟩
  · exact ⟨rfl, .inl rfl⟩

theorem finish_settles (before after : Gateway) (decoded : Decoded) :
    Settles before after (finish before after decoded).gateway := by
  rw [finish_eq]
  split
  · exact complete_settles before after [] decoded.response
  · split
    · rename_i stored store added
      obtain ⟨location, -, -, -, rfl⟩ := Store.addPosition_eq_ok added
      exact complete_settles before { after with store := _ } _ _
    · exact ⟨rfl, .inl rfl⟩

/-- A report settles what its decoding leads to, if it has a decoder. -/
theorem report_settles (gateway : Gateway) (request : Http.Request) :
    (∃ fault, gateway.makeDecoder = .error fault ∧ (gateway.report request).gateway = gateway) ∨
      ∃ result before after, Decodes gateway request result before after ∧
        Settles before after (gateway.report request).gateway := by
  unfold report
  cases made : gateway.makeDecoder with
  | error fault => exact .inl ⟨fault, rfl, rfl⟩
  | ok decoder =>
    dsimp only
    cases ran : Report.decode decoder gateway.clock services request
        { gateway with decoder := some decoder } with
    | mk result after =>
      refine .inr ⟨result, _, after, ⟨decoder, made, rfl, ran⟩, ?_⟩
      cases result with
      | error failure => exact ⟨rfl, .inl rfl⟩
      | ok decoded => exact finish_settles _ after decoded

/-- A session is kept for a device that was registered by a report and is gone with it. -/
def ForgetsRegistration (gateway : Gateway) (request : Http.Request) : Prop :=
  (gateway.report request).gateway.store = gateway.store ∧
    ∃ result before after, Decodes gateway request result before after ∧
      ∃ entry ∈ after.sessions, after.store.hasDevice entry.2.device = true ∧
        gateway.store.hasDevice entry.2.device = false

/-- After a report, sessions and devices agree unless a registration is forgotten. -/
theorem report_coherent_iff (coherent : Coherent gateway) (request : Http.Request) :
    Coherent (gateway.report request).gateway ↔ ¬ ForgetsRegistration gateway request := by
  rcases report_settles gateway request with
    ⟨fault, unmade, same⟩ | ⟨result, before, after, decodes, sessions, store⟩
  · rw [same]
    refine iff_of_true coherent ?_
    rintro ⟨-, -, -, -, ⟨decoder, made, -, -⟩, -⟩
    rw [unmade] at made
    cases made
  have begins : before.store = gateway.store ∧ Coherent before := by
    obtain ⟨_, rfl⟩ := decodes.before_eq
    exact ⟨rfl, coherent⟩
  constructor
  · -- The forgotten session is still kept, and its device is gone.
    rintro agrees ⟨undone, _, _, _, decodes', entry, kept, -, gone⟩
    obtain ⟨rfl, rfl, rfl⟩ := decodes.unique decodes'
    rw [← sessions] at kept
    obtain ⟨row, found, -⟩ := agrees entry kept
    rw [undone] at found
    rw [Store.hasDevice, found] at gone
    cases gone
  · intro remembered
    have agrees := begins.2.of_tended decodes.reached.tended
    rcases store with undone | devices
    · intro entry kept
      rw [sessions] at kept
      rw [undone]
      -- A session of a device that was there before fits as it does after decoding.
      obtain ⟨row, found, named, enabled⟩ := agrees entry kept
      cases known : before.store.device? entry.2.device with
      | none =>
        refine absurd ⟨undone.trans begins.1, result, before, after, decodes, entry, kept, ?_, ?_⟩
          remembered
        · rw [Store.hasDevice, found]
          rfl
        · rw [Store.hasDevice, ← begins.1, known]
          rfl
      | some first =>
        obtain ⟨row', reached, sameId, sameStatus⟩ := decodes.reached.device known
        rw [found] at reached
        cases reached
        refine ⟨first, known, sameId.symm.trans named, ?_⟩
        rw [Device.isEnabled, ← sameStatus]
        exact enabled
    · refine agrees.of_tended (.of_subset (fun entry kept => ?_) devices)
      rw [← sessions]
      exact kept

/-! ## Steps -/

/-- A device is saved under a number that equals no integer, so that its sessions are not dropped,
    while it has not the identifier of one of them any more, or is disabled. -/
def SavesUnnumbered (gateway : Gateway) (uniqueId : Json) (change : DeviceChange) : Prop :=
  ∃ form after row, gateway.updateDevice uniqueId change = .ok (form, after) ∧
    form.id.integer? = none ∧ after.store.device? row.id = some row ∧
    ∃ entry ∈ gateway.sessions, entry.2.device = row.id ∧
      (row.value.uniqueId ≠ entry.1 ∨ row.value.isEnabled = false)

/-- A step leaves a session of a device that is gone or has changed. -/
def LeavesStale (gateway : Gateway) : Step → Prop
  | .request raw =>
    ∃ request, gateway.report? raw = some request ∧ ForgetsRegistration gateway request
  | .updateDevice uniqueId change => SavesUnnumbered gateway uniqueId change
  | _ => False

/-- The one way to change a device of which nobody is told. -/
def Step.IsSilent : Step → Prop
  | .overwriteDevice _ _ => True
  | _ => False

/-- A session of a device that exists does not fit if the device has another identifier or is
    disabled. -/
theorem not_fits_iff {store : Store} {entry : String × Session}
    (there : store.hasDevice entry.2.device = true) :
    ¬ Fits store entry ↔ ∃ row, store.device? row.id = some row ∧ entry.2.device = row.id ∧
      (row.value.uniqueId ≠ entry.1 ∨ row.value.isEnabled = false) := by
  constructor
  · intro stale
    obtain ⟨row, found⟩ := Option.isSome_iff_exists.mp there
    have own : row.id = entry.2.device := (Table.mem_of_find? found).2
    refine ⟨row, by rw [own]; exact found, own.symm, ?_⟩
    by_cases named : row.value.uniqueId = entry.1
    · refine .inr (Bool.eq_false_iff.mpr fun enabled => ?_)
      exact stale ⟨row, found, named, enabled⟩
    · exact .inl named
  · rintro ⟨row, found, own, changed⟩ ⟨row', found', named, enabled⟩
    rw [own, found] at found'
    cases found'
    rcases changed with other | disabled
    · exact other named
    · rw [disabled] at enabled
      cases enabled

/-- No device goes when one is saved. -/
theorem hasDevice_updateDevice {uniqueId : Json} {change : DeviceChange} {form : DeviceForm}
    (updated : gateway.updateDevice uniqueId change = .ok (form, after)) {id : Int}
    (known : gateway.store.hasDevice id = true) : after.store.hasDevice id = true := by
  rcases updateDevice_cases updated with ⟨row, device, -, -, rfl⟩ | ⟨new, device, -, -, rfl⟩
  · rw [store_evictNumbered, Store.hasDevice_setDevice]
    exact known
  · exact Store.hasDevice_addDevice known

theorem savesUnnumbered_iff (coherent : Coherent gateway) {uniqueId : Json}
    {change : DeviceChange} {form : DeviceForm}
    (updated : gateway.updateDevice uniqueId change = .ok (form, after)) :
    SavesUnnumbered gateway uniqueId change ↔
      form.id.integer? = none ∧ ∃ entry ∈ gateway.sessions, ¬ Fits after.store entry := by
  have there : ∀ entry ∈ gateway.sessions, after.store.hasDevice entry.2.device = true := by
    intro entry kept
    obtain ⟨row, found, -⟩ := coherent entry kept
    exact hasDevice_updateDevice updated (Option.isSome_iff_exists.mpr ⟨row, found⟩)
  constructor
  · rintro ⟨_, _, row, done, unnumbered, found, entry, kept, changed⟩
    rw [updated] at done
    cases done
    exact ⟨unnumbered, entry, kept, (not_fits_iff (there entry kept)).mpr ⟨row, found, changed⟩⟩
  · rintro ⟨unnumbered, entry, kept, stale⟩
    obtain ⟨row, found, changed⟩ := (not_fits_iff (there entry kept)).mp stale
    exact ⟨form, after, row, updated, unnumbered, found, entry, kept, changed⟩

/-- Saving a device tends the sessions if the device is saved under an integer. -/
theorem updateDevice_tended {uniqueId : Json} {change : DeviceChange} {form : DeviceForm}
    (updated : gateway.updateDevice uniqueId change = .ok (form, after))
    (numbered : form.id.integer? ≠ none) : Tended gateway after := by
  rcases updateDevice_cases updated with
    ⟨row, device, named, known, rfl⟩ | ⟨id, device, named, free, rfl⟩
  · obtain ⟨whole, equals⟩ := Option.ne_none_iff_exists'.mp numbered
    have own : whole = row.id := Store.number?_of_integer? equals named
    rw [evictNumbered, equals, own]
    exact .evict _ _ _ fun other => Store.device?_setDevice_of_ne
  · exact .evict _ _ _ fun other => Store.device?_addDevice_of_ne

theorem updateDevice_coherent_iff (coherent : Coherent gateway) (uniqueId : Json)
    (change : DeviceChange) :
    Coherent (gateway.step (.updateDevice uniqueId change)).gateway ↔
      ¬ SavesUnnumbered gateway uniqueId change := by
  show Coherent (gateway.attempt .device (gateway.updateDevice uniqueId change)).gateway ↔ _
  cases updated : gateway.updateDevice uniqueId change with
  | error fault =>
    refine iff_of_true coherent ?_
    rintro ⟨form, after, row, done, -⟩
    rw [updated] at done
    cases done
  | ok result =>
    obtain ⟨form, after⟩ := result
    show Coherent after ↔ _
    rw [savesUnnumbered_iff coherent updated]
    cases equals : form.id.integer? with
    | some whole =>
      refine iff_of_true (coherent.of_tended (updateDevice_tended updated ?_)) (by simp)
      rw [equals]
      exact Option.some_ne_none whole
    | none =>
      -- No session is dropped, so the sessions that fit have to be those that were there.
      have stay : after.sessions = gateway.sessions := by
        rcases updateDevice_cases updated with
          ⟨row, device, -, -, rfl⟩ | ⟨id, device, named, -, rfl⟩
        · rw [evictNumbered, equals]
        · rw [named] at equals
          cases equals
      simp [Coherent, stay]

/-- A step is neither a request nor a change of a device that exists. -/
def Step.IsOrdinary : Step → Prop
  | .request _ | .updateDevice _ _ | .overwriteDevice _ _ => False
  | _ => True

/-- A request that is no report tends the sessions. -/
theorem serve_tended {raw : Http.RawRequest} (noReport : gateway.report? raw = none) :
    Tended gateway (gateway.serve raw).gateway := by
  have about : Step.IsAboutCommands gateway (.request raw) := noReport
  exact (step_commandsOnly about).tended

/-- An ordinary step tends the sessions. -/
theorem step_tended {what : Step} (ordinary : what.IsOrdinary) :
    Tended gateway (gateway.step what).gateway := by
  have begins : Tended gateway gateway := .refl gateway
  cases what with
  | request _ | updateDevice _ _ | overwriteDevice _ _ => exact ordinary.elim
  | setTime _ | setSettings _ | setLayer _ | forgetDecoder => exact begins
  | createDevice change =>
    refine attempt_invariant (Tended gateway) begins fun form after created => ?_
    obtain ⟨new, device, free, rfl⟩ := createDevice_eq_ok created
    exact .evict _ _ _ fun other => Store.device?_addDevice_of_ne
  | deleteDevice uniqueId =>
    refine attemptDone_invariant (Tended gateway) begins fun after deleted => ?_
    obtain ⟨row, -, rfl⟩ := deleteDevice_eq_ok deleted
    exact .evict _ _ _ fun other => Store.device?_deleteDevice_of_ne
  | openSession manager protocol remote identifiers =>
    refine attempt_invariant (Tended gateway) begins fun session after opened => ?_
    cases manager with
    | shared => exact effects_tended (openSession_opening opened).effect
    | own =>
      rcases openOwnSession_cases opened with ⟨_, rfl⟩ | ⟨name, identifier, _, rfl⟩
      · exact .of_subset (fun _ => id) rfl
      · exact .evict gateway _ _ fun other => Store.device?_addDevice_of_ne
  | evict manager device =>
    cases manager with
    | shared =>
      show Tended gateway (gateway.evictNumbered device)
      rcases evictNumbered_cases gateway device with same | ⟨number, -, same⟩
      · rw [same]
        exact begins
      · rw [same]
        exact .evict gateway gateway.store number fun _ _ => rfl
    | own =>
      show Tended gateway (gateway.evictOwnNumbered device)
      obtain ⟨ownSessions, same⟩ := evictOwnNumbered_eq gateway device
      rw [same]
      exact .of_subset (fun _ => id) rfl
  | clearSessions manager =>
    cases manager with
    | shared => exact .of_subset (fun _ kept => absurd kept List.not_mem_nil) rfl
    | own => exact .of_subset (fun _ => id) rfl
  | queueCommand _ _ _ | takeCommands _ _ | console _ =>
    exact CommandsOnly.tended (step_commandsOnly trivial)
  | registerToken device token =>
    -- A device with a new token loses its sessions, so it may be any device.
    refine attemptDone_invariant (Tended gateway) begins fun after done => ?_
    rcases registerTokenOf_cases done with rfl | ⟨number, store, added, rfl⟩
    · exact begins
    · exact .evict _ _ _ (Store.addToken_others added)
  | storePosition position =>
    show Tended gateway (gateway.storePosition position).gateway
    rcases storePosition_cases gateway position with
      ⟨stored, location, -, -, -, same⟩ | ⟨fault, same⟩
    · rw [same]
      exact .of_subset (fun _ => id) rfl
    · rw [same]
      exact begins
  | setValid id valid =>
    refine attemptDone_invariant (Tended gateway) begins fun after done => ?_
    obtain ⟨row, location, -, -, rfl⟩ := setValid_eq_ok done
    exact .of_subset (fun _ kept => kept) rfl
  | newestPosition device =>
    refine attempt_invariant (Tended gateway) begins fun position after done => ?_
    obtain ⟨_, -, same⟩ := map_eq_ok_iff.mp done
    cases same
    exact begins

/-- After a step, sessions and devices agree unless the step leaves a session behind. -/
theorem step_coherent_iff (coherent : Coherent gateway) {what : Step} (told : ¬ what.IsSilent) :
    Coherent (gateway.step what).gateway ↔ ¬ LeavesStale gateway what := by
  cases what with
  | request raw =>
    show Coherent (gateway.serve raw).gateway ↔ _
    cases reports : gateway.report? raw with
    | some request =>
      rw [serve_of_report reports, report_coherent_iff coherent]
      simp [LeavesStale, reports]
    | none =>
      exact iff_of_true (coherent.of_tended (serve_tended reports)) (by simp [LeavesStale, reports])
  | updateDevice uniqueId change => exact updateDevice_coherent_iff coherent uniqueId change
  | overwriteDevice _ _ => exact absurd trivial told
  -- The other steps tend the sessions.
  | _ => exact iff_of_true (coherent.of_tended (step_tended trivial)) fun stale => stale

/-! ## Runs -/

theorem coherent_prefixes_iff (coherent : Coherent gateway) {steps : List Step}
    (told : ∀ what ∈ steps, ¬ what.IsSilent) :
    (∀ front back, steps = front ++ back → Coherent (gateway.run front)) ↔
      Along (fun gateway what => ¬ LeavesStale gateway what) gateway steps :=
  prefixes_iff (fun _ => True) Coherent (fun _ _ => id)
    (fun _ _ _ coherent told => step_coherent_iff coherent told) trivial coherent told

/-- Sessions and devices agree in every state of a run, unless a step leaves a session behind: a
    report that registers a device and is undone, or a device saved under no integer. -/
theorem coherent_along_iff (fresh : Fresh gateway) {steps : List Step}
    (told : ∀ what ∈ steps, ¬ what.IsSilent) :
    (∀ front back, steps = front ++ back → Coherent (gateway.run front)) ↔
      Along (fun gateway what => ¬ LeavesStale gateway what) gateway steps :=
  coherent_prefixes_iff fresh.coherent told

/-- A report that is stored leaves its session with the device that it registered. -/
theorem coherent_along_registration :
    (∀ what ∈ [reportStep "id=a&lat=1&lon=2"], ¬ what.IsSilent) ∧
      ((∀ front back, [reportStep "id=a&lat=1&lon=2"] = front ++ back →
          Coherent (openGateway.run front)) ↔
        Along (fun gateway what => ¬ LeavesStale gateway what) openGateway
          [reportStep "id=a&lat=1&lon=2"]) := by
  have told : ∀ what ∈ [reportStep "id=a&lat=1&lon=2"], ¬ what.IsSilent := by
    intro what present silent
    rw [List.mem_singleton.mp present] at silent
    exact silent
  exact ⟨told, coherent_along_iff openGateway_fresh told⟩

/-- A report with a latitude that cannot be read is undone with the device that it registered, and
    the session of the device stays. -/
theorem undone_registration_not_coherent :
    Fresh openGateway ∧ (openGateway.run [reportStep "id=a&lat=north"]).store = .empty ∧
      ¬ Coherent (openGateway.run [reportStep "id=a&lat=north"]) := by
  refine ⟨openGateway_fresh, by decide +kernel, fun agrees => ?_⟩
  have stale : ∃ entry ∈ (openGateway.run [reportStep "id=a&lat=north"]).sessions,
      (openGateway.run [reportStep "id=a&lat=north"]).store.device? entry.2.device = none := by
    decide +kernel
  obtain ⟨entry, kept, gone⟩ := stale
  obtain ⟨row, found, -⟩ := agrees entry kept
  rw [gone] at found
  cases found

end Telematics.Gateway
