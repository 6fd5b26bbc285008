import Telematics.Proofs.Gateway.Operation
import Telematics.Proofs.Gateway.Serve
import Telematics.Proofs.Report.Agreement

/-!
Messages are sent while a position is stored, and sending them may fail at any of them. Whether
messages are sent, and over which layer, may be chosen anew before every step: two runs of the same
steps under different choices answer alike and keep the same rows and the same sessions, step by
step, because a failure of sending is caught before it reaches anything else.

* `Tuning`, `tuned`: a choice, and a gateway under it.
* `Twin`: two outcomes with the same result, in gateways that differ in their tuning alone.
* `report_twin`, `step_twin`: a report and a step come to twins in such gateways.
* `history`, `Outcome.visible`: the outcomes of a run with a choice before every step, and what is
  seen of an outcome but for its messages.
* `history_visible`: what is seen of a run does not depend on the choices.
-/

namespace Telematics.Gateway

open Report (Decoded Failure)

/-- How messages are sent: whether at all, and over which layer. -/
structure Tuning where
  broadcast : Bool
  layer : Layer
deriving DecidableEq, Repr

/-- The gateway with its messages sent in another way. -/
def tuned (gateway : Gateway) (tuning : Tuning) : Gateway :=
  { gateway with
    settings := { gateway.settings with broadcast := tuning.broadcast }
    layer := tuning.layer }

/-- Two outcomes have the same result, and their gateways differ in their tuning alone. -/
def Twin {α : Type} (first second : Outcome α) : Prop :=
  first.result = second.result ∧ ∃ tuning, second.gateway = first.gateway.tuned tuning

variable {α : Type} {gateway after : Gateway} {tuning : Tuning}

/-! ## Operations -/

/-- What comes of a change of the gateway, under another tuning. -/
def retuned (tuning : Tuning) (change : Except Fault (α × Gateway)) : Except Fault (α × Gateway) :=
  change.map fun done => (done.1, done.2.tuned tuning)

theorem attempt_twin (reply : α → Reply) {first second : Except Fault (α × Gateway)}
    (same : second = retuned tuning first) :
    Twin (gateway.attempt reply first) ((gateway.tuned tuning).attempt reply second) := by
  subst same
  cases first <;> exact ⟨rfl, tuning, rfl⟩

theorem attemptDone_twin {first second : Except Fault Gateway}
    (same : second = first.map (·.tuned tuning)) :
    Twin (gateway.attemptDone first) ((gateway.tuned tuning).attemptDone second) := by
  refine attempt_twin _ ?_
  subst same
  cases first <;> rfl

theorem ofStore_tuned (change : Except Store.Fault (α × Store)) :
    (gateway.tuned tuning).ofStore change = retuned tuning (gateway.ofStore change) := by
  cases change <;> rfl

theorem evictNumbered_tuned (gateway : Gateway) (tuning : Tuning) (device : Json) :
    (gateway.tuned tuning).evictNumbered device = (gateway.evictNumbered device).tuned tuning := by
  unfold evictNumbered
  cases device.integer? <;> rfl

theorem createDevice_tuned (change : DeviceChange) :
    (gateway.tuned tuning).createDevice change = retuned tuning (gateway.createDevice change) := by
  unfold createDevice
  dsimp only [tuned]
  cases gateway.store.createDevice gateway.clock.now change with
  | error fault => rfl
  | ok made =>
    have dropped := evictNumbered_tuned { gateway with store := made.2 } tuning made.1.id
    exact congrArg (fun after => Except.ok (made.1, after)) dropped

theorem updateDevice_tuned (uniqueId : Json) (change : DeviceChange) :
    (gateway.tuned tuning).updateDevice uniqueId change =
      retuned tuning (gateway.updateDevice uniqueId change) := by
  unfold updateDevice
  have found : (gateway.tuned tuning).deviceOf uniqueId = gateway.deviceOf uniqueId := rfl
  rw [found]
  cases gateway.deviceOf uniqueId with
  | error fault => rfl
  | ok row =>
    simp only [ok_bind]
    dsimp only [tuned]
    cases gateway.store.updateDevice gateway.clock.now row change with
    | error fault => rfl
    | ok made =>
      have dropped := evictNumbered_tuned { gateway with store := made.2 } tuning made.1.id
      exact congrArg (fun after => Except.ok (made.1, after)) dropped

theorem overwriteDevice_tuned (uniqueId : Json) (change : DeviceChange) :
    (gateway.tuned tuning).overwriteDevice uniqueId change =
      retuned tuning (gateway.overwriteDevice uniqueId change) := by
  unfold overwriteDevice
  dsimp only [tuned]
  cases ofColumn (Column.text uniqueId) with
  | error fault => rfl
  | ok name =>
    simp only [ok_bind]
    cases name.bind gateway.store.deviceOf? with
    | none => rfl
    | some row =>
      dsimp only
      split
      · rfl
      · exact ofStore_tuned _

theorem deleteDevice_tuned (uniqueId : Json) :
    (gateway.tuned tuning).deleteDevice uniqueId =
      (gateway.deleteDevice uniqueId).map (·.tuned tuning) := by
  unfold deleteDevice
  have found : (gateway.tuned tuning).deviceOf uniqueId = gateway.deviceOf uniqueId := rfl
  rw [found]
  cases gateway.deviceOf uniqueId <;> rfl

theorem openSession_tuned (protocol remote : Json) (identifiers : List String) :
    (gateway.tuned tuning).openSession protocol remote identifiers =
      retuned tuning (gateway.openSession protocol remote identifiers) := by
  unfold openSession
  dsimp only [tuned]
  cases gateway.sessions.find? identifiers with
  | some session => rfl
  | none =>
    cases lookUp gateway.store gateway.clock.now gateway.settings.registerUnknown protocol remote
      identifiers <;> rfl

theorem openOwnSession_tuned (protocol remote : Json) (identifiers : List String) :
    (gateway.tuned tuning).openOwnSession protocol remote identifiers =
      retuned tuning (gateway.openOwnSession protocol remote identifiers) := by
  unfold openOwnSession
  dsimp only [tuned]
  cases gateway.ownSessions.find? identifiers with
  | some session => rfl
  | none =>
    cases lookUp gateway.store gateway.clock.now
      (gateway.ownRegisters.getD gateway.settings.registerUnknown) protocol remote identifiers <;>
      rfl

theorem registerToken_tuned (device : Int) (token : Json) :
    (gateway.tuned tuning).registerToken device token =
      (gateway.registerToken device token).map (·.tuned tuning) := by
  unfold registerToken
  dsimp only [tuned]
  cases gateway.store.addToken gateway.clock.now device token <;> rfl

theorem registerTokenOf_tuned (device token : Json) :
    (gateway.tuned tuning).registerTokenOf device token =
      (gateway.registerTokenOf device token).map (·.tuned tuning) := by
  rcases registerTokenOf_asks device token with ⟨fault, refused⟩ | nothing | ⟨id, -, asks⟩
  · rw [refused, refused]
    rfl
  · rw [nothing, nothing]
    rfl
  · rw [asks, asks]
    exact registerToken_tuned id token

theorem queueCommand_tuned (gateway : Gateway) (tuning : Tuning) (form : Store.CommandForm) :
    (gateway.tuned tuning).queueCommand form = retuned tuning (gateway.queueCommand form) := by
  unfold queueCommand
  dsimp only [tuned]
  cases form.toCommand with
  | error fault => rfl
  | ok command => exact ofStore_tuned _

theorem takeCommands_tuned (device count : Json) :
    (gateway.tuned tuning).takeCommands device count =
      retuned tuning (gateway.takeCommands device count) := by
  rcases takeCommands_asks device count with ⟨fault, refused⟩ | nothing | ⟨id, limit, -, asks⟩
  · rw [refused, refused]
    rfl
  · rw [nothing, nothing]
    rfl
  · rw [asks, asks]
    rfl

theorem runConsole_tuned (arguments : List String) :
    (gateway.tuned tuning).runConsole arguments =
      retuned tuning (gateway.runConsole arguments) := by
  unfold runConsole
  dsimp only [tuned]
  cases Console.read arguments with
  | error fault => rfl
  | ok order =>
    simp only [mapError_ok_bind]
    cases gateway.store.deviceOf? order.uniqueId with
    | none => rfl
    | some device =>
      dsimp only
      have queued := queueCommand_tuned gateway tuning {
        device := .int device.id
        type := order.type.getD (.text customType)
        payload := order.payload
        createdAt := gateway.clock.now }
      dsimp only [tuned] at queued
      rw [queued]
      cases gateway.queueCommand _ <;> rfl

theorem setValid_tuned (id valid : Json) :
    (gateway.tuned tuning).setValid id valid =
      (gateway.setValid id valid).map (·.tuned tuning) := by
  unfold setValid
  dsimp only [tuned]
  cases ofColumn (Column.integer "id" id) with
  | error fault => rfl
  | ok number =>
    simp only [ok_bind]
    cases number.bind gateway.store.locations.find? with
    | none => rfl
    | some row =>
      dsimp only
      cases gateway.store.setValid row valid <;> rfl

theorem storePosition_twin (position : Position) :
    Twin (gateway.storePosition position) ((gateway.tuned tuning).storePosition position) := by
  rw [storePosition_eq, storePosition_eq]
  dsimp only [tuned]
  cases gateway.store.storePosition position <;> exact ⟨rfl, tuning, rfl⟩

/-! ## Reports -/

/-- The services do the same under every tuning. -/
theorem services_agree_tuned (tuning : Tuning) :
    services.Agree (fun first second => second = first.tuned tuning) (fun _ => True)
      (fun _ => True) where
  findDevice protocol remote identifier _ := by
    rintro first _ rfl
    rw [run_findDevice, run_findDevice]
    cases identifier with
    | torn text => exact ⟨rfl, rfl, fun _ _ _ _ => trivial⟩
    | whole identifier =>
      rw [findSession_whole, findSession_whole, openSession_tuned]
      cases first.openSession protocol (addressJson remote) [identifier] with
      | error fault => exact ⟨rfl, rfl, fun _ _ _ _ => trivial⟩
      | ok found => exact ⟨rfl, rfl, fun _ _ _ _ => trivial⟩
  registerToken device token _ := by
    rintro first _ rfl
    rw [run_registerToken, run_registerToken, registerToken_tuned]
    cases first.registerToken device (.text token) with
    | error fault => exact ⟨rfl, rfl, fun _ _ => trivial⟩
    | ok after => exact ⟨rfl, rfl, fun _ _ => trivial⟩
  lastPosition device _ := by
    rintro first _ rfl
    exact ⟨rfl, rfl, fun _ _ => trivial⟩
  takeCommands device count _ := by
    rintro first _ rfl
    rw [run_takeCommands, run_takeCommands]
    exact ⟨rfl, rfl, fun _ _ => trivial⟩

theorem complete_twin (before after : Gateway) (tuning : Tuning) (outbox outbox' : Outbox)
    (response : Http.Response) :
    Twin (complete before after outbox response)
      (complete (before.tuned tuning) (after.tuned tuning) outbox' response) := by
  unfold complete
  have same : (after.tuned tuning).store = after.store := rfl
  rw [same]
  split <;> exact ⟨rfl, tuning, rfl⟩

/-- Storing a position comes to the same whatever is sent for it. -/
theorem finish_twin (before : Gateway) (decoded : Decoded) :
    Twin (finish before after decoded)
      (finish (before.tuned tuning) (after.tuned tuning) decoded) := by
  rw [finish_eq, finish_eq]
  have same : (after.tuned tuning).store = after.store := rfl
  rw [same]
  cases decoded.position with
  | none => exact complete_twin before after tuning [] [] decoded.response
  | some position =>
    dsimp only
    cases after.store.addPosition position with
    | error fault => exact ⟨rfl, tuning, rfl⟩
    | ok added =>
      exact complete_twin before { after with store := added.2 } tuning _ _ decoded.response

/-- A report comes to the same under every tuning. -/
theorem report_twin (request : Http.Request) :
    Twin (gateway.report request) ((gateway.tuned tuning).report request) := by
  unfold report
  have made : (gateway.tuned tuning).makeDecoder = gateway.makeDecoder := rfl
  have oneTime : (gateway.tuned tuning).clock = gateway.clock := rfl
  rw [made, oneTime]
  cases gateway.makeDecoder with
  | error fault => exact ⟨rfl, tuning, rfl⟩
  | ok decoder =>
    have agree := Report.decode_agrees (services_agree_tuned tuning) decoder gateway.clock
      (fun identifier (_ : identifier ∈ Report.identifiers request) => trivial)
    obtain ⟨same, reached, -⟩ := agree { gateway with decoder := some decoder } _ rfl
    unfold Report.Action.run at same reached
    dsimp only [tuned] at same reached ⊢
    generalize Report.decode decoder gateway.clock services request
      { gateway with decoder := some decoder } = one at same reached ⊢
    generalize Report.decode decoder gateway.clock services request _ = two at same reached ⊢
    obtain ⟨result, middle⟩ := one
    obtain ⟨_, _⟩ := two
    cases same
    cases reached
    cases result with
    | error failure => exact ⟨rfl, tuning, rfl⟩
    | ok decoded => exact finish_twin _ decoded

/-! ## Requests -/

theorem ofAnswer_twin (given : Api.Answer) :
    Twin (gateway.ofAnswer given) ((gateway.tuned tuning).ofAnswer given) :=
  ⟨rfl, tuning, rfl⟩

theorem answer_twin (gateway : Gateway) (tuning : Tuning) (request : Http.Request) :
    Twin (gateway.answer request) ((gateway.tuned tuning).answer request) := by
  unfold answer
  cases Api.target request with
  | nothing => exact ⟨rfl, tuning, rfl⟩
  | redirect location => exact ⟨rfl, tuning, rfl⟩
  | route route =>
    cases route with
    | reports =>
      dsimp only
      unfold ingest
      split
      · exact report_twin request
      · exact ⟨rfl, tuning, rfl⟩
    | health => exact ⟨rfl, tuning, rfl⟩
    | commands uniqueId => exact ofAnswer_twin _

theorem serveRead_twin (request : Http.Request) :
    Twin (gateway.serveRead request) ((gateway.tuned tuning).serveRead request) := by
  obtain ⟨same, reached⟩ := answer_twin gateway tuning request
  unfold serveRead
  dsimp only
  split
  · exact ⟨congrArg (Except.map Http.Response.head) same, reached⟩
  · exact ⟨same, reached⟩

theorem serve_twin (raw : Http.RawRequest) :
    Twin (gateway.serve raw) ((gateway.tuned tuning).serve raw) := by
  unfold serve
  have oneTime : (gateway.tuned tuning).clock = gateway.clock := rfl
  rw [oneTime]
  split
  · exact ⟨rfl, tuning, rfl⟩
  · split
    · exact serveRead_twin _
    · exact ⟨rfl, tuning, rfl⟩

/-! ## Steps -/

theorem Twin.toReply {first second : Outcome α} (twin : Twin first second) (reply : α → Reply) :
    Twin (first.toReply reply) (second.toReply reply) :=
  ⟨congrArg (Except.map reply) twin.1, twin.2⟩

/-- A step comes to the same under every tuning. -/
theorem step_twin (gateway : Gateway) (tuning : Tuning) (what : Step) :
    Twin (gateway.step what) ((gateway.tuned tuning).step what) := by
  cases what with
  | setTime now => exact ⟨rfl, tuning, rfl⟩
  | setSettings settings => exact ⟨rfl, ⟨settings.broadcast, tuning.layer⟩, rfl⟩
  | setLayer layer => exact ⟨rfl, ⟨tuning.broadcast, layer⟩, rfl⟩
  | forgetDecoder => exact ⟨rfl, tuning, rfl⟩
  | createDevice change => exact attempt_twin _ (createDevice_tuned change)
  | updateDevice uniqueId change => exact attempt_twin _ (updateDevice_tuned uniqueId change)
  | overwriteDevice uniqueId change => exact attempt_twin _ (overwriteDevice_tuned uniqueId change)
  | deleteDevice uniqueId => exact attemptDone_twin (deleteDevice_tuned uniqueId)
  | openSession manager protocol remote identifiers =>
    cases manager with
    | shared => exact attempt_twin _ (openSession_tuned protocol remote identifiers)
    | own => exact attempt_twin _ (openOwnSession_tuned protocol remote identifiers)
  | evict manager device =>
    cases manager with
    | shared =>
      have dropped := evictNumbered_tuned gateway tuning device
      refine ⟨?_, tuning, dropped⟩
      show Except.ok (Reply.sessions _) = Except.ok (Reply.sessions _)
      rw [dropped]
      rfl
    | own =>
      show Twin (gateway.evictAt .own device) ((gateway.tuned tuning).evictAt .own device)
      unfold evictAt evictOwnNumbered
      cases device.integer? <;> exact ⟨rfl, tuning, rfl⟩
  | clearSessions manager => cases manager <;> exact ⟨rfl, tuning, rfl⟩
  | queueCommand device type payload => exact attempt_twin _ (queueCommand_tuned gateway tuning _)
  | takeCommands device count => exact attempt_twin _ (takeCommands_tuned device count)
  | registerToken device token => exact attemptDone_twin (registerTokenOf_tuned device token)
  | storePosition position => exact (storePosition_twin position).toReply .stored
  | setValid id valid => exact attemptDone_twin (setValid_tuned id valid)
  | newestPosition device =>
    refine attempt_twin _ ?_
    have told : (gateway.tuned tuning).newestOf device = gateway.newestOf device := rfl
    rw [told]
    cases gateway.newestOf device <;> rfl
  | request raw => exact (serve_twin raw).toReply .response
  | console arguments => exact attempt_twin _ (runConsole_tuned arguments)

/-! ## Runs -/

/-- The outcomes of steps, each taken under a choice of its own. -/
def history (gateway : Gateway) : List (Tuning × Step) → List (Outcome Reply)
  | [] => []
  | (tuning, what) :: rest =>
    let outcome := (gateway.tuned tuning).step what
    outcome :: history outcome.gateway rest

/-- What is seen of an outcome but for its messages: the result, the rows, and the sessions. -/
def Outcome.visible (outcome : Outcome α) : Except Fault α × Store × Sessions × Sessions :=
  (outcome.result, outcome.gateway.store, outcome.gateway.sessions, outcome.gateway.ownSessions)

theorem Twin.visible {first second : Outcome α} (twin : Twin first second) :
    first.visible = second.visible := by
  obtain ⟨same, tuning, reached⟩ := twin
  unfold Outcome.visible
  rw [same, reached]
  rfl

/-- What is seen of a run does not depend on the choices under which its steps are taken. Each step
    comes with the choices of two runs. -/
theorem history_visible (gateway : Gateway) (steps : List (Step × Tuning × Tuning)) :
    (gateway.history (steps.map fun (what, first, _) => (first, what))).map Outcome.visible =
      (gateway.history (steps.map fun (what, _, second) => (second, what))).map
        Outcome.visible := by
  -- The runs need not be in one gateway on the way, but in gateways that differ in their tuning.
  suffices general : ∀ (tuning : Tuning), ∀ gateway : Gateway,
      (gateway.history (steps.map fun (what, first, _) => (first, what))).map Outcome.visible =
        ((gateway.tuned tuning).history
          (steps.map fun (what, _, second) => (second, what))).map Outcome.visible by
    exact general ⟨gateway.settings.broadcast, gateway.layer⟩ gateway
  induction steps with
  | nil => exact fun _ _ => rfl
  | cons head rest ih =>
    intro tuning gateway
    obtain ⟨what, first, second⟩ := head
    have twin := step_twin (gateway.tuned first) second what
    obtain ⟨other, reached⟩ := twin.2
    simp only [List.map_cons, history]
    rw [List.cons.injEq]
    refine ⟨twin.visible, ?_⟩
    have moved : (((gateway.tuned tuning).tuned second).step what).gateway =
        (((gateway.tuned first).step what).gateway).tuned other := reached
    rw [moved]
    exact ih other _

end Telematics.Gateway
