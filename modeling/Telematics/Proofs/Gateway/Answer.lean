import Telematics.Proofs.Gateway.Announcement
import Telematics.Proofs.Gateway.Devices
import Telematics.Proofs.Gateway.Refusal
import Telematics.Proofs.Report.Breakdown
import Telematics.Proofs.Report.Typing
import Telematics.Proofs.Store.Commands

/-!
Reports that are answered. Whatever is wrong with what a report says is an answer, and so are its
acceptance and its refusal. A report is left without an answer only if there is no decoder, if
decoding breaks down, if the position does not fit into the store, or if its device is not there.

* `CannotRegister`, `CannotFind`, `RefusesTokens`, `Trips`: where what a parameter says cannot be
  handled. `halting_iff`: the services of the gateway fail there and nowhere else.
* `CannotSend`: the oldest command of a device cannot go with a response.
* `Unanswered`: the reports without an answer. `unanswered_iff`: how their decoding ends.
* `report_answered_iff`, `run_answered_iff`: all other reports are answered.
-/

namespace Telematics.Gateway

open Report (Decoded Draft Entry Failure Walk)

variable {gateway before after : Gateway} {request : Http.Request}

/-! ## Services that fail -/

/-- An unknown device has to be registered. -/
def MustRegister (gateway : Gateway) (identifier : String) : Prop :=
  gateway.sessions.find? [identifier] = none ∧ gateway.store.deviceOf? identifier = none ∧
    gateway.settings.registerUnknown = true

/-- The device of a document cannot be found under an identifier: it has to be registered, but it
    has no protocol that can be stored or no number is left for it; or the identifier has halves of
    characters, and the store cannot be asked for it. -/
def CannotFind (gateway : Gateway) (protocol : Json) : Letters → Prop
  | .whole identifier =>
    MustRegister gateway identifier ∧
      (¬ Column.IsName protocol ∨ Column.integerLimit ≤ gateway.store.devices.nextId)
  | .torn _ => True

/-- The device of parameters has to be registered, but it has no protocol or no number is left for
    it. A torn protocol is complained of, which is an answer. -/
def CannotRegister (gateway : Gateway) (protocol : Json) (identifier : String) : Prop :=
  MustRegister gateway identifier ∧ (∀ torn, protocol ≠ .text (.torn torn)) ∧
    (protocol = .null ∨ Column.integerLimit ≤ gateway.store.devices.nextId)

/-- The payload of the oldest command of a device has no UTF-8 form. -/
def CannotSend (gateway : Gateway) (device : Int) : Prop :=
  ∃ row rest, gateway.store.pending device = row :: rest ∧
    Http.payloadText row.value.payload = none

/-- The attributes of a device are no object, or hold something without items in place of tokens. -/
def RefusesTokens (gateway : Gateway) (device : Int) : Prop :=
  ∃ row, gateway.store.device? device = some row ∧
    ∀ members : Json.Members, row.value.attributes = .object members →
      itemsOf? ((members.get? tokensKey).getD .null) = none

/-- No session is found where a device has to be registered and the store refuses. -/
theorem openSession_eq_error_iff {protocol remote : Json} {identifier : String} {fault : Fault} :
    gateway.openSession protocol remote [identifier] = .error fault ↔
      MustRegister gateway identifier ∧ ∃ refusal,
        gateway.store.register gateway.clock.now protocol identifier = .error refusal ∧
          fault = .store refusal := by
  unfold openSession MustRegister
  -- A kept session and a known device are found without a fault, and so is nothing at all.
  cases missing : gateway.sessions.find? [identifier] with
  | some session => exact iff_of_false nofun fun must => nomatch must.1.1
  | none =>
    unfold lookUp
    rw [Store.firstKnown?_singleton]
    cases gateway.store.deviceOf? identifier with
    | some row => exact iff_of_false nofun fun must => nomatch must.1.2.1
    | none =>
      cases registers : gateway.settings.registerUnknown with
      | false => exact iff_of_false nofun fun must => nomatch must.1.2.2
      | true =>
        dsimp only
        rw [if_pos rfl]
        cases gateway.store.register gateway.clock.now protocol identifier with
        | error refusal =>
          constructor
          · rintro ⟨⟩
            exact ⟨⟨rfl, rfl, rfl⟩, refusal, rfl, rfl⟩
          · rintro ⟨-, _, ⟨⟩, rfl⟩
            rfl
        | ok registered => exact iff_of_false nofun fun ⟨_, _, failed, _⟩ => nomatch failed

theorem findDevice_eq_error_iff {protocol : Json} {remote : Option String} {identifier : String}
    {fault : Fault} :
    (services.findDevice protocol remote [.whole identifier]).run gateway = (.error fault, after) ↔
      MustRegister gateway identifier ∧ (∃ refusal,
        gateway.store.register gateway.clock.now protocol identifier = .error refusal ∧
          fault = .store refusal) ∧ after = gateway := by
  rw [← and_assoc, ← @openSession_eq_error_iff gateway protocol (addressJson remote) identifier,
    run_findDevice, findSession_whole]
  cases gateway.openSession protocol (addressJson remote) [identifier] with
  | error other => simp [eq_comm]
  | ok found => simp

theorem findDevice_isError_iff {protocol : Json} {remote : Option String} {identifier : Letters} :
    (∃ fault after, (services.findDevice protocol remote [identifier]).run gateway =
        (.error fault, after)) ↔ CannotFind gateway protocol identifier := by
  cases identifier with
  | torn text => exact iff_of_true ⟨_, gateway, rfl⟩ trivial
  | whole identifier =>
    have fails : (¬ Column.IsName protocol ∨
          Column.integerLimit ≤ gateway.store.devices.nextId) ↔
        ¬ (Column.IsName protocol ∧ gateway.store.devices.nextId < Column.integerLimit) := by
      rw [not_and_or, Int.not_lt]
    rw [CannotFind, fails,
      ← @Store.register_isOk_iff gateway.store gateway.clock.now protocol identifier]
    constructor
    · rintro ⟨fault, after, called⟩
      obtain ⟨must, ⟨_, refused, -⟩, -⟩ := findDevice_eq_error_iff.mp called
      exact ⟨must, fun ⟨_, done⟩ => nomatch refused.symm.trans done⟩
    · rintro ⟨must, refused⟩
      cases result : gateway.store.register gateway.clock.now protocol identifier with
      | ok registered => exact (refused ⟨_, result⟩).elim
      | error refusal =>
        exact ⟨_, _, findDevice_eq_error_iff.mpr ⟨must, ⟨_, result, rfl⟩, rfl⟩⟩

/-- The services complain of a text that has no UTF-8 form, and of nothing else. -/
theorem complaint?_store_iff {refusal : Store.Fault} :
    Fault.complaint? (.store refusal) = none ↔ refusal ≠ .column .unencodable := by
  unfold Fault.complaint?
  split
  · rename_i same
    cases same
    simp
  · rename_i other
    exact iff_of_true rfl fun same => other (by rw [same])

/-- The device of a parameter fails to be found, without a complaint of the parameter. -/
theorem findDevice_halts_iff {protocol : Json} {remote : Option String} {identifier : String} :
    (∃ fault after, (services.findDevice protocol remote [identifier]).run gateway =
        (.error fault, after) ∧ fault.complaint? = none) ↔
      CannotRegister gateway protocol identifier := by
  rw [CannotRegister, ← @Store.register_refuses_iff gateway.store gateway.clock.now protocol
    identifier]
  constructor
  · rintro ⟨fault, after, called, silent⟩
    obtain ⟨must, ⟨refusal, refused, rfl⟩, -⟩ := findDevice_eq_error_iff.mp called
    exact ⟨must, refusal, refused, complaint?_store_iff.mp silent⟩
  · rintro ⟨must, refusal, refused, silent⟩
    exact ⟨_, _, findDevice_eq_error_iff.mpr ⟨must, ⟨_, refused, rfl⟩, rfl⟩,
      complaint?_store_iff.mpr silent⟩

theorem registerToken_isError_iff {device : Int} {token : String} :
    (∃ fault, gateway.registerToken device (.text token) = .error fault) ↔
      RefusesTokens gateway device := by
  unfold registerToken Store.addToken RefusesTokens
  cases found : gateway.store.device? device with
  | none => exact iff_of_false (by rintro ⟨_, ⟨⟩⟩) (by rintro ⟨_, ⟨⟩, _⟩)
  | some row =>
    simp only [Option.some.injEq, exists_eq_left']
    cases listed : row.value.attributes with
    | object members =>
      simp only [Json.object.injEq, forall_eq', Store.addTokenTo]
      cases itemsOf? ((Json.Members.get? members tokensKey).getD .null) with
      | none => exact iff_of_true ⟨_, rfl⟩ rfl
      | some tokens =>
        -- A text is strict, so a token that is not there yet is added.
        refine iff_of_false ?_ (by simp)
        by_cases present : (tokens.any fun item => item.isSame (.text token)) = true
        · simp [present]
        · simp [present, Json.isStrict]
    | _ => exact iff_of_true ⟨_, rfl⟩ (by rintro _ ⟨⟩)

/-- A token that is not kept is not complained of. -/
theorem registerToken_silent {device : Int} {token : Json} {fault : Fault}
    (failed : gateway.registerToken device token = .error fault) : fault.complaint? = none := by
  unfold registerToken at failed
  split at failed <;> cases failed <;> rfl

/-- What a parameter says cannot be handled. -/
def Trips (gateway : Gateway) (protocol : Json) (draft : Draft) : Entry → Prop
  | .identifier text => CannotRegister gateway protocol text
  | .token _ => draft.device ≠ 0 ∧ RefusesTokens gateway draft.device
  | .detail _ => False

/-- The services of the gateway fail for a parameter if what it says cannot be handled. -/
theorem halting_iff {decoder : Report.Decoder} {remote : Option String} {draft : Draft}
    {entry : Entry} :
    Report.Halting services decoder remote draft gateway entry ↔
      Trips gateway decoder.protocol draft entry := by
  cases entry with
  | identifier text =>
    rw [Trips, ← @findDevice_halts_iff gateway decoder.protocol remote text]
    constructor
    · intro halting
      cases halting with
      | search called silent => exact ⟨_, _, called, silent⟩
    · rintro ⟨fault, after, called, silent⟩
      exact .search called silent
  | token text =>
    rw [Trips, ← @registerToken_isError_iff gateway draft.device text]
    constructor
    · intro halting
      cases halting with
      | token named called _ =>
        rw [run_registerToken] at called
        cases registered : gateway.registerToken draft.device (.text text) with
        | error fault => exact ⟨named, fault, rfl⟩
        | ok reached =>
          rw [registered] at called
          cases called
    · rintro ⟨named, fault, failed⟩
      have called : (services.registerToken draft.device text).run gateway =
          (.error fault, gateway) := by rw [run_registerToken, failed]
      exact .token named called (registerToken_silent failed)
  | detail detail => exact iff_of_false (fun halting => nomatch halting) id

theorem services_obliging : services.Obliging where
  lastPosition _ _ := ⟨_, _, rfl⟩
  takeCommands _ _ _ := ⟨_, _, rfl⟩

/-- A position gets its place without a change of the gateway, and without a fault. -/
theorem exists_run_locate (protocol : Json) (now : Calendar.Moment) (draft : Draft)
    (gateway : Gateway) :
    ∃ position, (draft.locate protocol services now).run gateway = (.ok position, gateway) := by
  unfold Draft.locate Report.fallBack
  split
  · exact ⟨_, rfl⟩
  · split <;> exact ⟨_, rfl⟩

/-- The services of the gateway take a payload that cannot be sent if it is that of the oldest
    command. -/
theorem takeCommands_unsendable_iff {device : Int} :
    (∃ payloads after, (services.takeCommands device 1).run gateway = (.ok payloads, after) ∧
        Http.payloadText (payloads.getLast?.getD .null) = none) ↔ CannotSend gateway device := by
  have taking : (∃ payloads after, (services.takeCommands device 1).run gateway =
        (.ok payloads, after) ∧ Http.payloadText (payloads.getLast?.getD .null) = none) ↔
      Http.payloadText (((gateway.store.takeCommands device (some 1)).1.map
        (·.value.payload)).getLast?.getD .null) = none := by
    constructor
    · rintro ⟨_, _, ⟨⟩, unsendable⟩
      exact unsendable
    · exact fun unsendable => ⟨_, _, rfl, unsendable⟩
  rw [taking, CannotSend]
  rcases Store.takeCommands_one_cases gateway.store device with
    ⟨none, same⟩ | ⟨row, rest, first, taken, -⟩
  · rw [same, none]
    exact iff_of_false nofun (fun ⟨_, _, absent, _⟩ => nomatch absent)
  · rw [taken, first]
    constructor
    · exact fun unsendable => ⟨row, rest, rfl, unsendable⟩
    · rintro ⟨_, _, ⟨⟩, unsendable⟩
      exact unsendable

theorem services_givesMeasured : services.GivesMeasured := by
  intro device state last after looked
  have newest : state.store.newest? device = some last :=
    Except.ok.inj (congrArg Prod.fst looked)
  obtain ⟨row, -, rfl⟩ := Option.map_eq_some_iff.mp newest
  exact row.value.isMeasured_toPosition

/-! ## Reports -/

/-- The reports that are left without an answer. -/
inductive Unanswered (gateway : Gateway) (request : Http.Request) : Prop where
  /-- There is no decoder for the settings. -/
  | unmade {fault : Report.UnsupportedUnit} :
      gateway.makeDecoder = .error fault → Unanswered gateway request
  /-- The document is nested too deeply to be read. -/
  | nested {body : List UInt8} {text : List Char} :
      Report.isJson request = true → request.body? = some body →
      Text.readUtf8 body = .ok text → Json.parse false request.depth text = .error .tooDeep →
      Unanswered gateway request
  /-- The device of the document cannot be found. -/
  | document {decoder : Report.Decoder} {document : Json.Members} {identifier : Letters} :
      gateway.makeDecoder = .ok decoder → Report.isJson request = true →
      Report.document? request = some document →
      Report.readIdentifier document = .ok identifier →
      CannotFind gateway decoder.protocol identifier → Unanswered gateway request
  /-- One of the parameters cannot be handled after those before it. -/
  | parameter {decoder : Report.Decoder} {front back : List Http.Field} {key value : String}
      {entry : Entry} {draft : Draft} {middle : Gateway} :
      gateway.makeDecoder = .ok decoder → Report.isJson request = false →
      Report.parameters? request = some (front ++ (key, value) :: back) →
      Walk services decoder gateway.clock.zone request.remote
        { gateway with decoder := some decoder } {} front draft middle →
      Report.readEntry decoder gateway.clock.zone key value = .ok entry →
      Trips middle decoder.protocol draft entry → Unanswered gateway request
  /-- The oldest command of the device cannot go with the response to the parameters. -/
  | unsendable {decoder : Report.Decoder} {fields : List Http.Field} {draft : Draft}
      {middle : Gateway} :
      gateway.makeDecoder = .ok decoder → Report.isJson request = false →
      Report.parameters? request = some fields →
      Walk services decoder gateway.clock.zone request.remote
        { gateway with decoder := some decoder } {} fields draft middle →
      draft.device ≠ 0 → CannotSend middle draft.device → Unanswered gateway request
  /-- The position does not fit into the store. -/
  | misfit {position : Position} {response : Http.Response} {before after : Gateway} :
      Decodes gateway request (.ok ⟨some position, response⟩) before after →
      ¬ position.Fits → Unanswered gateway request
  /-- The device of the position is not there. -/
  | homeless {position : Position} {response : Http.Response} {before after : Gateway}
      {device : Int} :
      Decodes gateway request (.ok ⟨some position, response⟩) before after →
      position.deviceId = .int device → after.store.hasDevice device = false →
      Unanswered gateway request

/-- What is decoded leaves a report without an answer. -/
def Lost (after : Gateway) : Except (Failure Fault) Decoded → Prop
  | .error failure => failure.isFatal = true
  | .ok ⟨none, _⟩ => False
  | .ok ⟨some position, _⟩ =>
    ¬ position.Fits ∨
      ∃ device, position.deviceId = .int device ∧ after.store.hasDevice device = false

theorem unanswered_of_breakdown {decoder : Report.Decoder}
    (made : gateway.makeDecoder = .ok decoder)
    (breakdown : Report.Breakdown services decoder gateway.clock request
      { gateway with decoder := some decoder }) : Unanswered gateway request := by
  cases breakdown with
  | nested json kept read deep => exact .nested json kept read deep
  | @document _ identifier _ _ json known named called =>
    have cannot := findDevice_isError_iff.mp ⟨_, _, called⟩
    refine .document made json known named ?_
    cases identifier <;> exact cannot
  | parameter plain known walk read halting =>
    exact .parameter made plain known walk read (halting_iff.mp halting)
  | @unsendable _ draft _ _ middle _ _ plain known walk named placed taken refused =>
    cases run_locate placed
    exact .unsendable made plain known walk named
      (takeCommands_unsendable_iff.mp ⟨_, _, taken, refused⟩)

/-- A report is left without an answer if what is decoded of it leaves it so. -/
theorem unanswered_iff {result : Except (Failure Fault) Decoded}
    (decodes : Decodes gateway request result before after) :
    Unanswered gateway request ↔ Lost after result := by
  -- Decoding has one outcome, so the decoder and the result may be taken for those at hand.
  have fatal_of : ∀ {decoder}, gateway.makeDecoder = .ok decoder →
      Report.Breakdown services decoder gateway.clock request
        { gateway with decoder := some decoder } → Lost after result := by
    intro decoder made breakdown
    obtain ⟨decoder', made', rfl, ran⟩ := decodes
    rw [made] at made'
    cases made'
    obtain ⟨failure, rfl, fatal⟩ := (Report.decode_isFatal_iff services_obliging ran).mpr breakdown
    exact fatal
  obtain ⟨decoder, made, begun, ran⟩ := id decodes
  constructor
  · intro unanswered
    cases unanswered with
    | unmade failed =>
      rw [made] at failed
      cases failed
    | nested json kept read deep => exact fatal_of made (.nested json kept read deep)
    | @document decoder _ identifier made json known named cannot =>
      have cannot : CannotFind { gateway with decoder := some decoder } decoder.protocol
          identifier := by cases identifier <;> exact cannot
      obtain ⟨fault, reached, called⟩ := findDevice_isError_iff.mpr cannot
      exact fatal_of made (.document json known named called)
    | parameter made plain known walk read trips =>
      exact fatal_of made (.parameter plain known walk read (halting_iff.mpr trips))
    | @unsendable decoder _ draft middle made plain known walk named cannot =>
      obtain ⟨position, placed⟩ := exists_run_locate decoder.protocol gateway.clock.now draft middle
      obtain ⟨payloads, reached, taken, refused⟩ := takeCommands_unsendable_iff.mpr cannot
      exact fatal_of made (.unsendable plain known walk named placed taken refused)
    | misfit decodes' misfit =>
      obtain ⟨rfl, -, -⟩ := decodes.unique decodes'
      exact .inl misfit
    | homeless decodes' own missing =>
      obtain ⟨rfl, -, rfl⟩ := decodes.unique decodes'
      exact .inr ⟨_, own, missing⟩
  · intro lost
    match result, lost, decodes with
    | .error failure, fatal, _ =>
      rw [begun] at ran
      exact unanswered_of_breakdown made
        ((Report.decode_isFatal_iff services_obliging ran).mp ⟨failure, rfl, fatal⟩)
    | .ok ⟨some position, response⟩, .inl misfit, decodes => exact .misfit decodes misfit
    | .ok ⟨some position, response⟩, .inr ⟨_, own, missing⟩, decodes =>
      exact .homeless decodes own missing

theorem failureResult_isOk_iff {failure : Failure Fault} :
    (∃ response, failureResult failure = .ok response) ↔ ¬ failure.isFatal = true := by
  cases failure <;> simp [failureResult, Failure.isFatal]

/-- A position that is decoded is stored if it fits, where its device is there. -/
theorem addPosition_isOk_iff_of_decodes (numbers : Store.NumbersFrom (-Column.integerLimit)
      gateway.store) {position : Position} {response : Http.Response}
    (decodes : Decodes gateway request (.ok ⟨some position, response⟩) before after) {device : Int}
    (own : position.deviceId = .int device) (known : after.store.hasDevice device = true) :
    (∃ stored store, after.store.addPosition position = .ok (stored, store)) ↔ position.Fits := by
  have typed : position.IsTyped := by
    obtain ⟨decoder, -, -, ran⟩ := decodes
    exact (Report.decode_acceptance ran).isTyped services_givesMeasured
  obtain ⟨row, present, rfl⟩ := Store.hasDevice_iff.mp known
  have within := (decodes.lasts (lasting_numbersFrom (by decide)) numbers).within row present
  exact Store.addPosition_isOk_iff typed own (Column.bounded_eq_ok_iff.mpr ⟨rfl, within⟩)

/-- A completed change is answered if it is consistent. -/
theorem complete_isOk_iff {outbox : Outbox} {response : Http.Response} :
    (∃ told, (complete before after outbox response).result = .ok told) ↔
      after.store.isConsistent = true := by
  unfold complete
  split
  · exact iff_of_true ⟨_, rfl⟩ ‹_›
  · exact iff_of_false (fun ⟨_, same⟩ => nomatch same) ‹_›

/-- A report is answered unless it is left without an answer, where the store is consistent and the
    numbers of devices can be kept. -/
theorem report_answered_iff (consistent : gateway.store.isConsistent = true)
    (numbers : Store.NumbersFrom (-Column.integerLimit) gateway.store) :
    (∃ response, (gateway.report request).result = .ok response) ↔
      ¬ Unanswered gateway request := by
  have reporting := report_reporting gateway request
  generalize gateway.report request = outcome at reporting ⊢
  cases reporting with
  | unmade failed =>
    exact iff_of_false (fun ⟨_, same⟩ => nomatch same) (fun answered => answered (.unmade failed))
  | undecoded decodes _ =>
    rw [unanswered_iff decodes]
    exact failureResult_isOk_iff
  | refused _ decodes effects =>
    rw [unanswered_iff decodes]
    obtain ⟨_, begun⟩ := decodes.before_eq
    have reached := effects_isConsistent effects (by rw [begun]; exact consistent)
    exact iff_of_true (complete_isOk_iff.mpr reached) id
  | @unstorable position device response before middle after fault own decodes _ _ failed =>
    refine iff_of_false (fun ⟨_, same⟩ => nomatch same) fun answered => answered ?_
    cases known : after.store.hasDevice device with
    | false => exact .homeless decodes own known
    | true =>
      refine .misfit decodes fun fits => ?_
      obtain ⟨_, _, added⟩ := (addPosition_isOk_iff_of_decodes numbers decodes own known).mpr fits
      rw [failed] at added
      cases added
  | @stored position device response before middle after stored store own decodes effects handover
      added =>
    obtain ⟨_, begun⟩ := decodes.before_eq
    obtain ⟨-, -, -, reached⟩ := before_storing effects handover (by rw [begun]; exact consistent)
    -- The location refers to the device of the position, so completing asks for that alone.
    have stores := addPosition_isOk_iff_of_decodes numbers decodes own
    have fits := fun known => (stores known).mp ⟨_, _, added⟩
    obtain ⟨location, mine, -, -, rfl⟩ := Store.addPosition_eq_ok_of_int own added
    rw [complete_isOk_iff, Store.isConsistent_addLocation reached location, mine,
      unanswered_iff decodes]
    constructor
    · rintro known (misfit | ⟨other, owner, missing⟩)
      · exact misfit (fits known)
      · rw [own] at owner
        cases owner
        rw [known] at missing
        cases missing
    · intro answered
      by_contra missing
      exact answered (.inr ⟨device, own, Bool.eq_false_iff.mpr missing⟩)

/-- In every state of a run, a report is answered with one of three statuses unless it is left
    without an answer. -/
theorem run_answered_iff (fresh : Fresh gateway) (steps : List Step) {raw : Http.RawRequest}
    (reports : (gateway.run steps).report? raw = some request) :
    (∃ response, ((gateway.run steps).serve raw).result = .ok response ∧
        (response.status = 200 ∨ response.status = 400 ∨ response.status = 404)) ↔
      ¬ Unanswered (gateway.run steps) request := by
  have numbers := run_numbersFrom (by decide : -Column.integerLimit ≤ 1) fresh
    fun what (_ : what ∈ steps) _ => Int.le_refl (-Column.integerLimit)
  rw [serve_of_report reports, ← report_answered_iff (run_isConsistent fresh steps) numbers]
  exact exists_congr fun response => and_iff_left_of_imp report_status

/-- A report of a known device is answered. -/
theorem placed_report_answered :
    ((closedGateway.run vanCreated).serve placedReport).result = .ok (.plain 200 "") ∧
      ∃ request, (closedGateway.run vanCreated).report? placedReport = some request ∧
        ((∃ response, ((closedGateway.run vanCreated).serve placedReport).result = .ok response ∧
            (response.status = 200 ∨ response.status = 400 ∨ response.status = 404)) ↔
          ¬ Unanswered (closedGateway.run vanCreated) request) := by
  obtain ⟨request, reports⟩ : ∃ request,
      (closedGateway.run vanCreated).report? placedReport = some request :=
    Option.isSome_iff_exists.mp (by decide +kernel)
  exact ⟨by decide +kernel, request, reports, run_answered_iff ⟨rfl, rfl, rfl⟩ vanCreated reports⟩

/-- A report with an attribute that is not-a-number. -/
def nanReport : Http.RawRequest := { query := "id=a&lat=1&lon=2&x=nan".toUTF8.toList }

/-- A report with such an attribute is not answered. -/
theorem nan_attribute_unanswered :
    Fresh closedGateway ∧ ((closedGateway.run vanCreated).report? nanReport).isSome = true ∧
      ((closedGateway.run vanCreated).serve nanReport).result = .error (.store .notStrict) :=
  ⟨⟨rfl, rfl, rfl⟩, by decide +kernel, by decide +kernel⟩

end Telematics.Gateway
