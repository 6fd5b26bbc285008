import Telematics.Proofs.Gateway.Run
import Telematics.Proofs.Report.Parameters
import Telematics.Proofs.Store.Weight

/-!
Reports that are refused or fail. Commands and locations are as before, and so are devices, with one
exception: parameters are refused in the middle, without anything being undone, and one of those
that came before registered a device or added a token.

* `ChangesDevices`: a parameter that changes the devices.
* `LeavesTrace`: a report that is refused after such a parameter.
* `report_keeps_iff`, `unaccepted_keeps_iff`: what a report that is not accepted leaves.
-/

namespace Telematics.Gateway

open Relation (ReflTransGen)
open Report (Action Decoded Draft Entry Failure)

/-! ## Parameters -/

/-- A parameter changes the devices: it names a device that is registered for it, or it adds a token
    to the device that was named before. -/
def ChangesDevices (gateway : Gateway) (draft : Draft) : Entry → Prop
  | .identifier text =>
    gateway.sessions.find? [text] = none ∧ gateway.store.deviceOf? text = none ∧
      gateway.settings.registerUnknown = true
  | .token text =>
    draft.device ≠ 0 ∧ ∃ store,
      gateway.store.addToken gateway.clock.now draft.device (.text text) = .added store
  | .detail _ => False

/-- One of the parameters that are handled changes the devices. -/
inductive Traces (decoder : Report.Decoder) (zone : Calendar.Zone) (remote : Option String) :
    Gateway → Draft → List Http.Field → Prop where
  | here {gateway : Gateway} {draft : Draft} {key value : String} {rest : List Http.Field}
      {entry : Entry} :
      Report.readEntry decoder zone key value = .ok entry → ChangesDevices gateway draft entry →
      Traces decoder zone remote gateway draft ((key, value) :: rest)
  | later {gateway middle : Gateway} {draft next : Draft} {key value : String}
      {rest : List Http.Field} {entry : Entry} :
      Report.readEntry decoder zone key value = .ok entry →
      (Report.handle decoder services remote draft entry).run gateway = (.ok (some next), middle) →
      Traces decoder zone remote middle next rest →
      Traces decoder zone remote gateway draft ((key, value) :: rest)

/-- No effect makes the store lighter. -/
theorem Effect.weight {before after : Gateway} (effect : Effect before after) :
    before.store.weight ≤ after.store.weight := by
  cases effect with
  | kept _ _ => exact Nat.le_refl _
  | registered _ _ => exact Nat.le_of_lt (Store.weight_addDevice _ _)
  | token added => exact Nat.le_of_lt (Store.weight_addToken added)

theorem effects_weight {before after : Gateway} (effects : ReflTransGen Effect before after) :
    before.store.weight ≤ after.store.weight := by
  induction effects with
  | refl => exact Nat.le_refl _
  | tail _ effect ih => exact Nat.le_trans ih effect.weight

theorem devices_ne_of_weight {store changed : Store} (heavier : store.weight < changed.weight) :
    changed.devices ≠ store.devices := by
  intro same
  have equal : changed.weight = store.weight := by rw [Store.weight, same]; rfl
  omega

/-- What a parameter does to the devices: it makes them heavier, or leaves them as they are. -/
def Marks (gateway : Gateway) (draft : Draft) (entry : Entry) (after : Gateway) : Prop :=
  ChangesDevices gateway draft entry ∧ gateway.store.weight < after.store.weight ∨
    ¬ ChangesDevices gateway draft entry ∧ after.store.devices = gateway.store.devices

theorem opening_marks {gateway after : Gateway} {protocol remote : Json} {text : String}
    {session : Option Session} (draft : Draft)
    (opening : Opening gateway protocol remote [text] session after) :
    Marks gateway draft (.identifier text) after := by
  -- A parameter names one identifier, so the first device that is known is the one it names.
  have single := gateway.store.firstKnown?_singleton text
  cases opening with
  | kept found =>
    refine .inr ⟨?_, rfl⟩
    rintro ⟨missing, -, -⟩
    rw [missing] at found
    cases found
  | known _ known _ =>
    refine .inr ⟨?_, rfl⟩
    rintro ⟨-, nobody, -⟩
    rw [single, nobody] at known
    cases known
  | disabled _ known _ =>
    refine .inr ⟨?_, rfl⟩
    rintro ⟨-, nobody, -⟩
    rw [single, nobody] at known
    cases known
  | registered name missing nobody listed registers =>
    cases listed
    rw [single] at nobody
    exact .inl ⟨⟨missing, nobody, registers⟩, Store.weight_addDevice _ _⟩
  | unknown _ _ quiet =>
    refine .inr ⟨?_, rfl⟩
    rintro ⟨-, -, registers⟩
    rcases quiet with quiet | empty
    · rw [quiet] at registers
      cases registers
    · cases empty

/-- What handling a parameter does to the devices. -/
theorem handle_marks {decoder : Report.Decoder} {remote : Option String} {gateway after : Gateway}
    {draft : Draft} {entry : Entry} {found : Option Draft}
    (ran : (Report.handle decoder services remote draft entry).run gateway = (.ok found, after)) :
    Marks gateway draft entry after := by
  cases Report.handle_handling ran with
  | found looked =>
    obtain ⟨_, -, opening⟩ := findDevice_opening_whole looked
    exact opening_marks draft opening
  | unknown looked =>
    obtain ⟨_, -, opening⟩ := findDevice_opening_whole looked
    exact opening_marks draft opening
  | registered named kept =>
    rcases registerToken_cases (registerToken_of_run kept) with
      ⟨unchanged, rfl⟩ | ⟨store, added, rfl⟩
    · refine .inr ⟨?_, rfl⟩
      rintro ⟨-, store, added⟩
      rw [unchanged] at added
      cases added
    · exact .inl ⟨⟨named, store, added⟩, Store.weight_addToken added⟩
  | skipped unnamed => exact .inr ⟨fun changes => changes.1 unnamed, rfl⟩
  | said => exact .inr ⟨id, rfl⟩

/-- Of the parameters that are handled, the first one changes the devices or one of those that come
    after it. -/
theorem traces_cons_iff {decoder : Report.Decoder} {zone : Calendar.Zone} {remote : Option String}
    {gateway middle : Gateway} {draft : Draft} {next : Option Draft} {key value : String}
    {rest : List Http.Field} {entry : Entry}
    (checked : Report.readEntry decoder zone key value = .ok entry)
    (handled : (Report.handle decoder services remote draft entry).run gateway =
      (.ok next, middle)) :
    Traces decoder zone remote gateway draft ((key, value) :: rest) ↔
      ChangesDevices gateway draft entry ∨
        ∃ later, next = some later ∧ Traces decoder zone remote middle later rest := by
  constructor
  · intro traces
    cases traces with
    | here read changes =>
      rw [checked] at read
      cases read
      exact .inl changes
    | later read handled' traces =>
      rw [checked] at read
      cases read
      rw [handled] at handled'
      cases handled'
      exact .inr ⟨_, rfl, traces⟩
  · rintro (changes | ⟨later, rfl, traces⟩)
    · exact .here checked changes
    · exact .later checked handled traces

/-- Handling parameters leaves the devices as they are unless one of them changes them. -/
theorem handleAll_devices_iff {decoder : Report.Decoder} {zone : Calendar.Zone}
    {remote : Option String} {fields : List Http.Field} {gateway after : Gateway} {draft : Draft}
    {found : Option Draft}
    (ran : (Report.handleAll decoder zone services remote draft fields).run gateway =
      (.ok found, after)) :
    after.store.devices = gateway.store.devices ↔
      ¬ Traces decoder zone remote gateway draft fields := by
  induction fields generalizing gateway draft with
  | nil =>
    cases ran
    exact iff_of_true rfl (fun traces => nomatch traces)
  | cons field rest ih =>
    obtain ⟨key, value⟩ := field
    rcases Report.run_orReject_bind_cases ran with ⟨_, failed, -⟩ | ⟨entry, checked, ran⟩
    · cases failed
    rw [mapError_eq_ok_iff] at checked
    obtain ⟨next, middle, handled, ran⟩ := Action.run_bind_ok ran
    rcases Action.run_adapt_cases handled with ⟨_, _, failed⟩ | ⟨_, handled, same⟩
    · cases failed
    cases same
    rw [traces_cons_iff checked handled]
    rcases handle_marks handled with ⟨changes, heavier⟩ | ⟨quiet, same⟩
    · -- What comes later cannot make the devices lighter again.
      refine iff_of_false ?_ (fun clean => clean (.inl changes))
      have later : middle.store.weight ≤ after.store.weight := by
        cases next with
        | none =>
          cases ran
          exact Nat.le_refl _
        | some next =>
          exact effects_weight
            ((Report.follows_handleAll services_follow_effect _ _ _ next rest).reaches ran)
      exact devices_ne_of_weight (Nat.lt_of_lt_of_le heavier later)
    · rw [← same]
      cases next with
      | none =>
        cases ran
        simp [quiet]
      | some next =>
        rw [ih ran]
        simp [quiet]

/-! ## Reports -/

/-- Looking up the last place of a device changes nothing. -/
theorem run_locate {protocol : Json} {now : Calendar.Moment} {draft : Draft}
    {gateway after : Gateway} {result : Except (Failure Fault) Position}
    (ran : (draft.locate protocol services now).run gateway = (result, after)) :
    after = gateway := by
  unfold Draft.locate at ran
  split at ran
  · cases ran
    rfl
  · unfold Report.fallBack at ran
    split at ran
    · cases ran
      rfl
    · cases ran
      rfl

/-- Parameters are refused where the handling of them ends. -/
theorem decodeFields_refused {decoder : Report.Decoder} {clock : Calendar.Clock}
    {remote : Option String} {fields : List Http.Field} {status : Nat} {before after : Gateway}
    (ran : (Report.decodeFields decoder clock services remote fields).run before =
      (.ok (.refused status), after)) :
    ∃ found, (Report.handleAll decoder clock.zone services remote {} fields).run before =
      (.ok found, after) := by
  obtain ⟨found, middle, handled, ran⟩ := Action.run_bind_ok ran
  refine ⟨found, ?_⟩
  cases found with
  | none =>
    cases ran
    exact handled
  | some draft =>
    obtain ⟨position, reached, located, last⟩ := Action.run_bind_ok ran
    have same := run_locate located
    -- A draft of a device ends with a position, so this one has none.
    by_cases nobody : draft.device = 0
    · simp only [nobody, if_pos] at last
      cases last
      rw [same]
      exact handled
    · simp only [nobody, if_false] at last
      obtain ⟨response, _, _, done⟩ := Action.run_bind_ok last
      · cases done

/-- A report is refused after a parameter that changed the devices. -/
def LeavesTrace (gateway : Gateway) (request : Http.Request) : Prop :=
  ∃ decoder fields before after, gateway.makeDecoder = .ok decoder ∧
    Decodes gateway request (.ok (.refused 400)) before after ∧
    Report.isJson request = false ∧
    (Report.requestFields request : Except (Failure Fault) _) = .ok fields ∧
    Traces decoder gateway.clock.zone request.remote before {} (Http.grouped fields)

/-- Parameters that are refused leave the devices as they are, unless one of them changed them. -/
theorem refused_devices_iff {gateway before after : Gateway} {request : Http.Request}
    (decodes : Decodes gateway request (.ok (.refused 400)) before after)
    (plain : Report.isJson request = false) :
    after.store.devices = gateway.store.devices ↔ ¬ LeavesTrace gateway request := by
  obtain ⟨decoder, made, begun, ran⟩ := decodes
  have decodes : Decodes gateway request (.ok (.refused 400)) before after :=
    ⟨decoder, made, begun, ran⟩
  have sameStore : gateway.store = before.store := by rw [begun]
  rw [Report.decode, if_neg (by simp [plain])] at ran
  unfold Report.decodeQuery at ran
  split at ran
  · cases ran
  · rename_i fields read
    obtain ⟨found, handled⟩ := decodeFields_refused ran
    rw [sameStore, handleAll_devices_iff handled, not_iff_not]
    constructor
    · exact fun traces => ⟨decoder, fields, before, after, made, decodes, plain, read, traces⟩
    · rintro ⟨decoder', fields', before', after', made', decodes', -, read', traces⟩
      obtain ⟨-, rfl, -⟩ := decodes.unique decodes'
      rw [made] at made'
      cases made'
      rw [read] at read'
      cases read'
      exact traces

/-- A report that is not accepted leaves commands and locations as they are, and devices as well
    unless it is refused after a parameter that changed them. -/
theorem report_keeps_iff {gateway : Gateway} {request : Http.Request}
    (consistent : gateway.store.isConsistent = true)
    (notAccepted : ∀ response, (gateway.report request).result = .ok response →
      response.status ≠ 200) :
    (gateway.report request).gateway.store.commands = gateway.store.commands ∧
      (gateway.report request).gateway.store.locations = gateway.store.locations ∧
      ((gateway.report request).gateway.store.devices = gateway.store.devices ↔
        ¬ LeavesTrace gateway request) := by
  have clean : ∀ {result before after}, Decodes gateway request result before after →
      result ≠ .ok (.refused 400) → ¬ LeavesTrace gateway request := by
    rintro result before after decodes other ⟨_, _, _, _, -, decodes', -⟩
    exact other (decodes.unique decodes').1
  have reporting := report_reporting gateway request
  generalize gateway.report request = outcome at reporting notAccepted ⊢
  cases reporting with
  | unmade unmade =>
    refine ⟨rfl, rfl, iff_of_true rfl ?_⟩
    rintro ⟨_, _, _, _, made, -⟩
    rw [unmade] at made
    cases made
  | undecoded decodes _ =>
    have others := clean decodes (fun same => nomatch same)
    obtain ⟨_, rfl⟩ := decodes.before_eq
    exact ⟨rfl, rfl, iff_of_true rfl others⟩
  | @refused status before after why decodes effects =>
    have keeps := effects_isConsistent effects
    obtain ⟨_, rfl⟩ := decodes.before_eq
    rw [complete_of_consistent (keeps consistent)]
    rcases why with ⟨rfl, rfl⟩ | ⟨rfl, plain⟩
    · refine ⟨rfl, rfl, iff_of_true rfl (clean decodes fun same => ?_)⟩
      cases same
    · have frame := effects_frame effects
      refine ⟨?_, ?_, refused_devices_iff decodes plain⟩ <;>
        · obtain ⟨_, _, rfl⟩ := frame
          rfl
  | unstorable _ decodes _ _ _ =>
    have others := clean decodes (fun same => nomatch same)
    obtain ⟨_, rfl⟩ := decodes.before_eq
    exact ⟨rfl, rfl, iff_of_true rfl others⟩
  | @stored position device response before middle after stored store own decodes effects handover
      added =>
    have others := clean decodes (fun same => nomatch same)
    -- A stored report that is not accepted can only have failed to be completed.
    cases reached : ({ after with store } : Gateway).store.isConsistent with
    | true =>
      rw [complete_of_consistent reached] at notAccepted
      exact absurd handover.status (notAccepted response rfl)
    | false =>
      rw [complete_of_dangling reached]
      obtain ⟨_, rfl⟩ := decodes.before_eq
      exact ⟨rfl, rfl, iff_of_true rfl others⟩

/-! ## Requests -/

/-- A request is for the entry of reports, if it is understood at all. -/
def AtIngest (gateway : Gateway) (raw : Http.RawRequest) : Prop :=
  ∀ request, gateway.understood? raw = some request → Api.target request = .route .reports

theorem atIngest_of_target {gateway : Gateway} {raw : Http.RawRequest}
    (target : (gateway.understood? raw).map Api.target = some (.route .reports)) :
    AtIngest gateway raw := by
  intro request understood
  rw [understood] at target
  exact Option.some.inj target

/-- A request for the entry of reports asks for no command. -/
theorem AtIngest.noOrder {gateway : Gateway} {raw : Http.RawRequest}
    (entry : AtIngest gateway raw) : gateway.order? raw = none := by
  cases ordered : gateway.order? raw with
  | none => rfl
  | some command =>
    obtain ⟨request, understood, asked⟩ := Option.bind_eq_some_iff.mp ordered
    rw [entry request understood] at asked
    cases asked

/-- In every state of a run, a request for the entry of reports that is not answered with status 200
    leaves commands and locations as they are, and devices as well unless it is refused after a
    parameter that changed them. -/
theorem unaccepted_keeps_iff {gateway : Gateway} (fresh : Fresh gateway) (steps : List Step)
    {raw : Http.RawRequest} (entry : AtIngest (gateway.run steps) raw)
    (notAccepted : ∀ response, ((gateway.run steps).serve raw).result = .ok response →
      response.status ≠ 200) :
    ((gateway.run steps).serve raw).gateway.store.commands = (gateway.run steps).store.commands ∧
      ((gateway.run steps).serve raw).gateway.store.locations =
        (gateway.run steps).store.locations ∧
      (((gateway.run steps).serve raw).gateway.store.devices = (gateway.run steps).store.devices ↔
        ¬ ∃ request, (gateway.run steps).report? raw = some request ∧
          LeavesTrace (gateway.run steps) request) := by
  have consistent := run_isConsistent fresh steps
  have noOrder := entry.noOrder
  generalize gateway.run steps = state at consistent noOrder notAccepted ⊢
  have serving := serve_serving state raw
  generalize state.serve raw = outcome at serving notAccepted ⊢
  cases serving with
  | @report request reports _ =>
    have keeps := report_keeps_iff consistent notAccepted
    refine ⟨keeps.1, keeps.2.1, keeps.2.2.trans (not_congr ?_)⟩
    simp [reports]
  | order _ ordered _ =>
    rw [noOrder] at ordered
    cases ordered
  | idle noReport _ _ => exact ⟨rfl, rfl, iff_of_true rfl (by simp [noReport])⟩

/-- A fresh gateway that does not register unknown devices. -/
def closedGateway : Gateway := { openGateway with settings := {} }

/-- A device is created. -/
def vanCreated : List Step :=
  [.createDevice { name := some (.text "Van"), uniqueId := some (.text "a") }]

/-- A report of a device that is not there. -/
def unknownReport : Http.RawRequest := { query := "id=b&lat=1&lon=2".toUTF8.toList }

/-- A report of a device that is not there leaves no trace. -/
theorem unknown_report_keeps :
    ((closedGateway.run vanCreated).serve unknownReport).result = .ok (.plain 400 "") ∧
      ((closedGateway.run vanCreated).serve unknownReport).gateway.store.commands =
        (closedGateway.run vanCreated).store.commands ∧
      ((closedGateway.run vanCreated).serve unknownReport).gateway.store.locations =
        (closedGateway.run vanCreated).store.locations ∧
      ¬ ∃ request, (closedGateway.run vanCreated).report? unknownReport = some request ∧
        LeavesTrace (closedGateway.run vanCreated) request := by
  have refused : ((closedGateway.run vanCreated).serve unknownReport).result =
      .ok (.plain 400 "") := by decide +kernel
  have entry : AtIngest (closedGateway.run vanCreated) unknownReport :=
    atIngest_of_target (by decide +kernel)
  have notAccepted : ∀ response,
      ((closedGateway.run vanCreated).serve unknownReport).result = .ok response →
        response.status ≠ 200 := by
    intro response answered
    rw [refused] at answered
    cases answered
    decide
  have keeps := unaccepted_keeps_iff ⟨rfl, rfl, rfl⟩ vanCreated entry notAccepted
  exact ⟨refused, keeps.1, keeps.2.1, keeps.2.2.mp (by decide +kernel)⟩

/-- The parameters name a device, add a token to it, and name a device that is not there. -/
def tokenReport : Http.RawRequest :=
  { query := "id=a&notificationToken=t&deviceid=b".toUTF8.toList }

/-- A report is refused, and a token that it named before stays. -/
theorem refused_report_keeps_token :
    Fresh closedGateway ∧ AtIngest (closedGateway.run vanCreated) tokenReport ∧
      ((closedGateway.run vanCreated).serve tokenReport).result = .ok (.plain 400 "") ∧
      ((closedGateway.run vanCreated).serve tokenReport).gateway.store.devices ≠
        (closedGateway.run vanCreated).store.devices :=
  ⟨⟨rfl, rfl, rfl⟩, atIngest_of_target (by decide +kernel), by decide +kernel, by decide +kernel⟩

end Telematics.Gateway
