import Telematics.Proofs.Gateway.Alike
import Telematics.Proofs.Gateway.Refusal

/-!
Isolation of devices. Where no device is registered and devices stay as they are but for their
tokens, nothing that is done for one device can be told from what another one is answered, or from
what is kept for it: the steps of other devices might as well not have been taken. Only the numbers
of commands and locations tell of them, because all devices share the counters.

* `Step.devices`, `Step.concerns`: the devices that a step is about.
* `Step.isTraffic`: the steps of devices and of those who command them.
* `answersOf`: the answers to some steps of a run, without numbers.
* `step_alike`, `step_of_others`: a step of a device is answered alike in gateways that are alike
  for it, and a step of another one leaves them alike.
* `run_alike`, `run_isolated`: so the steps of other devices can be left out of a run.
-/

namespace Telematics.Gateway

open Calendar (Clock)
open Report (identifiers)

/-! ## What a step is about -/

/-- The request that is understood, once its user has logged in. -/
def asked? (raw : Http.RawRequest) : Option Http.Request :=
  (Http.RawRequest.read { raw with method := methodName raw.method }).toOption

/-- What is understood of a request is what was sent, at the place that its URL tells. -/
theorem asked?_eq_some {raw : Http.RawRequest} {request : Http.Request}
    (asked : asked? raw = some request) :
    ∃ url, Http.Url.read raw.url.toList = .ok url ∧ request.path = url.path ∧
      request.toRawRequest = { raw with
        method := methodName raw.method
        query := if raw.query = [] then Text.utf8Bytes url.query else raw.query } := by
  have read := toOption_eq_some_iff.mp asked
  unfold Http.RawRequest.read at read
  obtain ⟨url, place, read⟩ := bind_eq_ok_iff.mp read
  obtain ⟨header, -, read⟩ := bind_eq_ok_iff.mp read
  obtain ⟨codec, -, read⟩ := bind_eq_ok_iff.mp read
  obtain ⟨_, -, read⟩ := bind_eq_ok_iff.mp read
  cases read
  exact ⟨url, mapError_eq_ok_iff.mp place, rfl, rfl⟩

/-- The devices that a request names. -/
def namedDevices (store : Store) (request : Http.Request) : List Int :=
  (identifiers request).filterMap fun identifier =>
    (identifier.whole?.bind store.deviceOf?).map (·.id)

/-- The devices that a step is about: those that a report names, or the one that is commanded or
    gets a token. -/
def Step.devices (store : Store) : Step → List Int
  | .request raw => ((asked? raw).map (namedDevices store)).getD []
  | .queueCommand device _ _ | .takeCommands device _ | .registerToken device _ =>
    (numberOf? device).toList
  | _ => []

/-- A step concerns a device if it is about it, or if it sets the clock of all. -/
def Step.concerns (store : Store) (device : Int) : Step → Bool
  | .setTime _ => true
  | what => (what.devices store).contains device

/-- A step is a report, is about the commands or the tokens of a device, or sets the clock. -/
def Step.isTraffic : Step → Bool
  | .request raw => (asked? raw).all fun request => Api.target request = .route .reports
  | .queueCommand _ _ _ | .takeCommands _ _ | .registerToken _ _ | .setTime _ => true
  | _ => false

/-- A reply without the numbers of commands. -/
def Reply.unnumbered : Reply → Reply
  | .command _ form => .command 0 form
  | .taken rows => .taken (rows.map fun row => ⟨0, row.value⟩)
  | reply => reply

/-- The answers to some of the steps of a run, without numbers. -/
def answersOf (chosen : Step → Bool) : Gateway → List Step → List (Except Fault Reply)
  | _, [] => []
  | gateway, what :: rest =>
    let outcome := gateway.step what
    if chosen what then
      outcome.result.map Reply.unnumbered :: answersOf chosen outcome.gateway rest
    else answersOf chosen outcome.gateway rest

theorem unnumbered_taken {rows rows' : List (Row Command)}
    (same : rows.map (·.value) = rows'.map (·.value)) :
    (Reply.taken rows).unnumbered = (Reply.taken rows').unnumbered := by
  have rebuilt := congrArg (List.map (Row.mk 0)) same
  rw [List.map_map, List.map_map] at rebuilt
  exact congrArg Reply.taken rebuilt

/-! ## Steps -/

/-- A request at the entry of reports is a report, or it is answered without any look at the
    gateway but for the clock. -/
theorem serve_traffic {raw : Http.RawRequest} (traffic : (Step.request raw).isTraffic = true)
    (clock : Clock) :
    (∃ result, ∀ gateway : Gateway, gateway.clock = clock →
        gateway.serve raw = ⟨result, [], gateway⟩) ∨
      ∃ request, asked? raw = some request ∧ ∀ gateway : Gateway, gateway.clock = clock →
        gateway.serve raw = gateway.report request := by
  by_cases endless : (raw.loggedIn && !canLogIn clock.now) = true
  · refine .inl ⟨.error .endlessLogin, fun gateway same => ?_⟩
    rw [serve, same, if_pos endless]
  cases read : Http.RawRequest.read { raw with method := methodName raw.method } with
  | error fault =>
    refine .inl ⟨.error (.request fault), fun gateway same => ?_⟩
    rw [serve, same, if_neg endless, read]
  | ok request =>
    have asked : asked? raw = some request := by rw [asked?, read]; rfl
    have aim : Api.target request = .route .reports := by
      simpa [Step.isTraffic, asked] using traffic
    have served : ∀ gateway : Gateway, gateway.clock = clock → gateway.serve raw =
        if request.method = "HEAD" then
          { gateway.ingest request with
            result := (gateway.ingest request).result.map Http.Response.head }
        else gateway.ingest request := by
      intro gateway same
      rw [serve, same, if_neg endless, read]
      simp only [serveRead, answer, aim]
    by_cases allowed : reportMethods.contains request.method = true
    · have notHead : request.method ≠ "HEAD" := by
        intro head
        rw [head] at allowed
        exact absurd allowed (by decide)
      refine .inr ⟨request, asked, fun gateway same => ?_⟩
      rw [served gateway same, if_neg notHead, ingest, if_pos allowed]
    · have refused : ∀ gateway : Gateway,
          gateway.ingest request = ⟨.ok (.empty 405), [], gateway⟩ := fun _ => if_neg allowed
      refine .inl ⟨if request.method = "HEAD" then .ok (Http.Response.head (.empty 405)) else
        .ok (.empty 405), fun gateway same => ?_⟩
      rw [served gateway same, refused]
      split <;> rfl

variable {origin : Store} {device : Int} {first second : Gateway}

/-- The identifiers of a report lead to devices that it names. -/
theorem mem_namedDevices_of_grants {store : Store} {request : Http.Request}
    {identifier : Letters} {found : Int} (listed : identifier ∈ identifiers request)
    (granted : identifier.whole?.bind store.grants = some found) :
    found ∈ namedDevices store request := by
  obtain ⟨name, whole, granted⟩ := Option.bind_eq_some_iff.mp granted
  obtain ⟨row, known, rfl⟩ := Option.map_eq_some_iff.mp granted
  refine List.mem_filterMap.mpr ⟨identifier, listed, ?_⟩
  rw [whole, Option.bind_some, (Option.filter_eq_some_iff.mp known).1]
  rfl

/-- Two outcomes have the same answer, but for numbers, and gateways that are alike for a device. -/
structure AlikeOutcomes (origin : Store) (device : Int) (one two : Outcome Reply) : Prop where
  answer : one.result.map Reply.unnumbered = two.result.map Reply.unnumbered
  gateway : Alike origin device one.gateway two.gateway

/-- A request that names no other device is answered alike. -/
theorem serve_alike (alike : Alike origin device first second) {raw : Http.RawRequest}
    (traffic : (Step.request raw).isTraffic = true)
    (own : ∀ other ∈ (Step.request raw).devices origin, other = device) :
    AlikeOutcomes origin device (first.step (.request raw)) (second.step (.request raw)) := by
  simp only [step]
  rcases serve_traffic traffic first.clock with ⟨result, same⟩ | ⟨request, asked, same⟩
  · rw [same first rfl, same second alike.clock.symm]
    exact ⟨rfl, alike⟩
  · have about : (Step.request raw).devices origin = namedDevices origin request := by
      rw [Step.devices, asked]
      rfl
    have known : ∀ identifier ∈ identifiers request, ∀ found,
        identifier.whole?.bind origin.grants = some found → found = device :=
      fun identifier listed found granted =>
        own found (about ▸ mem_namedDevices_of_grants listed granted)
    obtain ⟨answered, reached⟩ := report_alike alike known
    rw [same first rfl, same second alike.clock.symm]
    exact ⟨congrArg (fun result => (result.map Reply.response).map Reply.unnumbered) answered,
      reached⟩

/-- A command for the device is queued in both gateways, or refused in both. -/
theorem queue_alike (alike : Alike origin device first second) {form : Store.CommandForm}
    (own : ∀ owner, numberOf? form.device = some owner → owner = device) :
    AlikeOutcomes origin device (first.queue form) (second.queue form) := by
  unfold queue
  rcases queueCommand_asks form with ⟨fault, refused⟩ | ⟨command, -, numbered, asks⟩
  · rw [refused, refused]
    exact ⟨rfl, alike⟩
  · have known := alike.account.hasDevice
    rw [← own _ numbered] at known
    rw [asks, asks, ← known]
    split
    · rename_i there
      exact ⟨rfl, alike.withStores (alike.left.addCommand there)
        (alike.right.addCommand (known ▸ there)) (alike.account.addCommand command)⟩
    · exact ⟨rfl, alike⟩

/-- The same commands of the device are taken in both gateways. -/
theorem take_alike (alike : Alike origin device first second) {value count : Json}
    (own : ∀ owner, numberOf? value = some owner → owner = device) :
    AlikeOutcomes origin device (first.attempt .taken (first.takeCommands value count))
      (second.attempt .taken (second.takeCommands value count)) := by
  rcases takeCommands_asks value count with
    ⟨fault, refused⟩ | nothing | ⟨owner, limit, numbered, asks⟩
  · rw [refused, refused]
    exact ⟨rfl, alike⟩
  · rw [nothing, nothing]
    exact ⟨rfl, alike⟩
  · obtain rfl := own owner numbered
    rw [asks, asks]
    exact ⟨congrArg Except.ok (unnumbered_taken (alike.account.takeCommands limit).1),
      alike.takeCommands limit⟩

/-- A token of the device is registered in both gateways, or refused in both. -/
theorem registerTokenOf_alike (alike : Alike origin device first second) {value token : Json}
    (own : ∀ owner, numberOf? value = some owner → owner = device) :
    AlikeOutcomes origin device (first.attemptDone (first.registerTokenOf value token))
      (second.attemptDone (second.registerTokenOf value token)) := by
  rcases registerTokenOf_asks value token with
    ⟨fault, refused⟩ | nothing | ⟨owner, numbered, asks⟩
  · rw [refused, refused]
    exact ⟨rfl, alike⟩
  · rw [nothing, nothing]
    exact ⟨rfl, alike⟩
  · obtain rfl := own owner numbered
    rw [asks, asks]
    rcases alike.registerToken token with
      ⟨one, two, registered, registered', reached⟩ | ⟨fault, refused, refused'⟩
    · rw [registered, registered']
      exact ⟨rfl, reached⟩
    · rw [refused, refused']
      exact ⟨rfl, alike⟩

/-- A step that is about one device is answered alike in gateways that are alike for the device, and
    leaves them alike. -/
theorem step_alike (alike : Alike origin device first second) {what : Step}
    (traffic : what.isTraffic = true) (own : ∀ other ∈ what.devices origin, other = device) :
    AlikeOutcomes origin device (first.step what) (second.step what) := by
  have mine : ∀ {value : Json}, what.devices origin = (numberOf? value).toList →
      ∀ owner, numberOf? value = some owner → owner = device := by
    intro value about owner numbered
    refine own owner ?_
    rw [about, numbered]
    exact List.mem_singleton_self owner
  cases what with
  | setTime now =>
    exact ⟨rfl, { alike.left with }, { alike.right with }, alike.account,
      congrArg (fun clock : Clock => { clock with now }) alike.clock, alike.decoder⟩
  | request raw => exact serve_alike alike traffic own
  | queueCommand value type payload =>
    simp only [step]
    rw [← alike.clock]
    exact queue_alike alike (mine rfl)
  | takeCommands value count => exact take_alike alike (mine rfl)
  | registerToken value token => exact registerTokenOf_alike alike (mine rfl)
  | _ => cases traffic

/-- A step of other devices leaves gateways alike for the device. -/
theorem step_of_others (alike : Alike origin device first second) {what : Step}
    (traffic : what.isTraffic = true) (others : what.concerns origin device = false) :
    Alike origin device (first.step what).gateway second := by
  have differ : ∀ {value : Json} {owner : Int}, numberOf? value = some owner →
      what.concerns origin device = (numberOf? value).toList.contains device →
        owner ≠ device := by
    rintro value owner numbered about rfl
    rw [others, numbered] at about
    simp at about
  cases what with
  | setTime now => cases others
  | request raw =>
    rcases serve_traffic traffic first.clock with ⟨result, same⟩ | ⟨request, asked, same⟩
    · simp only [step, Outcome.toReply, same first rfl]
      exact alike
    · simp only [step, Outcome.toReply, same first rfl]
      refine report_of_others alike fun identifier listed found granted => ?_
      rintro rfl
      have named := mem_namedDevices_of_grants listed granted
      simp [Step.concerns, Step.devices, asked, named] at others
  | queueCommand value type payload =>
    simp only [step, queue]
    rcases queueCommand_asks ⟨value, type, payload, first.clock.now⟩ with
      ⟨fault, refused⟩ | ⟨command, -, numbered, asks⟩
    · rw [refused]
      exact alike
    · rw [asks]
      split
      · rename_i there
        exact alike.withStore (alike.left.addCommand there)
          (Store.sameAccount_addCommand_of_ne first.store (differ numbered rfl))
      · exact alike
  | takeCommands value count =>
    simp only [step]
    rcases takeCommands_asks value count with
      ⟨fault, refused⟩ | nothing | ⟨owner, limit, numbered, asks⟩
    · rw [refused]
      exact alike
    · rw [nothing]
      exact alike
    · rw [asks]
      exact alike.takeCommands_of_other (differ numbered rfl) limit
  | registerToken value token =>
    refine attemptDone_invariant (Alike origin device · second) alike fun after done => ?_
    rcases registerTokenOf_asks value token with
      ⟨fault, refused⟩ | nothing | ⟨owner, numbered, asks⟩
    · rw [refused] at done
      cases done
    · rw [nothing] at done
      cases done
      exact alike
    · rw [asks] at done
      exact alike.registerToken_of_other (differ numbered rfl) done
  | _ => cases traffic

/-! ## Runs -/

/-- In gateways that are alike for a device, a run and the same run without the steps of other
    devices are answered alike, and lead to gateways that are alike again. -/
theorem run_alike (alike : Alike origin device first second) {steps : List Step}
    (traffic : ∀ what ∈ steps, what.isTraffic = true)
    (single : ∀ what ∈ steps, ∀ one ∈ what.devices origin, ∀ other ∈ what.devices origin,
      one = other) :
    answersOf (Step.concerns origin device) first steps =
        answersOf (Step.concerns origin device) second
          (steps.filter (Step.concerns origin device)) ∧
      Alike origin device (first.run steps)
        (second.run (steps.filter (Step.concerns origin device))) := by
  induction steps generalizing first second with
  | nil => exact ⟨rfl, alike⟩
  | cons what rest ih =>
    have now := traffic what List.mem_cons_self
    have later := fun next listed => traffic next (List.mem_cons_of_mem what listed)
    have laterSingle := fun next listed => single next (List.mem_cons_of_mem what listed)
    cases concerned : what.concerns origin device with
    | true =>
      -- The step is about the device alone, or about none because it sets the clock.
      have own : ∀ other ∈ what.devices origin, other = device := by
        intro other about
        cases what with
        | setTime _ => exact absurd about List.not_mem_nil
        | _ =>
          exact single _ List.mem_cons_self other about device
            (List.contains_iff_mem.mp concerned)
      obtain ⟨answered, reached⟩ := step_alike alike now own
      obtain ⟨answers, last⟩ := ih reached later laterSingle
      rw [List.filter_cons_of_pos concerned, answersOf, answersOf]
      simp only [concerned, if_true, answered, answers, true_and]
      exact last
    | false =>
      have reached := step_of_others alike now concerned
      obtain ⟨answers, last⟩ := ih reached later laterSingle
      rw [List.filter_cons_of_neg (by simp [concerned]), answersOf]
      simp only [concerned, Bool.false_eq_true, if_false, answers, true_and]
      exact last

/-- Where no device is registered and no session is kept in the beginning, the steps of other
    devices can be left out of a run of reports, commands, tokens and settings of the clock in which
    every report names at most one device that there is: a device is answered alike, and afterwards
    its account is the same. -/
theorem run_isolated {gateway : Gateway} (consistent : gateway.store.isConsistent = true)
    (closed : gateway.settings.registerUnknown = false) (empty : gateway.sessions = [])
    {steps : List Step} (traffic : ∀ what ∈ steps, what.isTraffic = true)
    (single : ∀ what ∈ steps, ∀ one ∈ what.devices gateway.store,
      ∀ other ∈ what.devices gateway.store, one = other) (device : Int) :
    answersOf (Step.concerns gateway.store device) gateway steps =
        answersOf (Step.concerns gateway.store device) gateway
          (steps.filter (Step.concerns gateway.store device)) ∧
      Store.SameAccount device (gateway.run steps).store
        (gateway.run (steps.filter (Step.concerns gateway.store device))).store := by
  obtain ⟨answers, reached⟩ :=
    run_alike (Alike.refl (Faithful.ofEmpty consistent closed empty) device) traffic single
  exact ⟨answers, reached.account⟩

/-- A second device is created beside the first one. -/
def busCreated : List Step :=
  vanCreated ++ [.createDevice { name := some (.text "Bus"), uniqueId := some (.text "b") }]

/-- Two devices report in turn, and commands wait for both. -/
def sharedRun : List Step :=
  [.queueCommand (.int 2) (.text customType) (.text "wait"),
    .queueCommand (.int 1) (.text customType) (.text "go"),
    reportStep "id=b&lat=1&lon=2", reportStep "id=a&lat=3&lon=4", reportStep "id=a",
    .registerToken (.int 2) (.text "t"), .takeCommands (.int 1) .null]

/-- The van is answered as if there were no steps of the bus, which are three of seven. -/
theorem shared_run_isolated :
    let gateway := closedGateway.run busCreated
    let own := sharedRun.filter (Step.concerns gateway.store 1)
    (gateway.store.isConsistent = true ∧ gateway.settings.registerUnknown = false ∧
        gateway.sessions = [] ∧ (∀ what ∈ sharedRun, what.isTraffic = true) ∧
        (∀ what ∈ sharedRun, ∀ one ∈ what.devices gateway.store,
          ∀ other ∈ what.devices gateway.store, one = other) ∧ own.length = 4) ∧
      answersOf (Step.concerns gateway.store 1) gateway sharedRun =
        answersOf (Step.concerns gateway.store 1) gateway own ∧
      Store.SameAccount 1 (gateway.run sharedRun).store (gateway.run own).store := by
  have consistent : (closedGateway.run busCreated).store.isConsistent = true := by decide +kernel
  have closed : (closedGateway.run busCreated).settings.registerUnknown = false := by
    decide +kernel
  have empty : (closedGateway.run busCreated).sessions = [] := by decide +kernel
  have traffic : ∀ what ∈ sharedRun, what.isTraffic = true := by decide +kernel
  have single : ∀ what ∈ sharedRun,
      ∀ one ∈ what.devices (closedGateway.run busCreated).store,
        ∀ other ∈ what.devices (closedGateway.run busCreated).store, one = other := by
    decide +kernel
  exact ⟨⟨consistent, closed, empty, traffic, single, by decide +kernel⟩,
    run_isolated consistent closed empty traffic single 1⟩

end Telematics.Gateway
