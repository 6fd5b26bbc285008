import Telematics.Gateway.Serve
import Telematics.Proofs.Api.Order
import Telematics.Proofs.Gateway.Ingest

/-!
What comes of a request at any path. Only the entry of reports and new commands change anything, and
only a new command is answered with the status of something created.

* `report?`, `order?`: the report that a request is, and the command that it asks for.
* `Serving`: the ways in which a request is served. `serve_serving`: it is served in one of them.
* `serve_of_report`, `serve_of_order`, `serve_created_iff`: what comes of a report and of a command.
-/

namespace Telematics.Gateway

open Calendar (Moment)

/-- The request that is understood. A user logs in first. -/
def understood? (gateway : Gateway) (raw : Http.RawRequest) : Option Http.Request :=
  if raw.loggedIn && !canLogIn gateway.clock.now then none
  else (Http.RawRequest.read { raw with method := methodName raw.method }).toOption

/-- The request, if it is a report. -/
def report? (gateway : Gateway) (raw : Http.RawRequest) : Option Http.Request :=
  (gateway.understood? raw).filter fun request =>
    Api.target request = .route .reports && reportMethods.contains request.method

/-- The command that a request asks for. -/
def order? (gateway : Gateway) (raw : Http.RawRequest) : Option Command :=
  (gateway.understood? raw).bind fun request =>
    match Api.target request with
    | .route (.commands uniqueId) =>
      Api.order? gateway.store gateway.clock.now uniqueId request
    | _ => none

/-- The ways in which a request is served. -/
inductive Serving (gateway : Gateway) (raw : Http.RawRequest) : Outcome Http.Response → Prop where
  | report {request : Http.Request} :
      gateway.report? raw = some request → gateway.order? raw = none →
      Serving gateway raw (gateway.report request)
  /-- A command is queued, which is told if its time can be shown. -/
  | order {command : Command} {response : Http.Response} :
      gateway.report? raw = none → gateway.order? raw = some command →
      (response.status = Api.createdStatus ↔
        (gateway.clock.zone.at? gateway.clock.now).isSome = true) →
      Serving gateway raw
        ⟨.ok response, [], { gateway with store := (gateway.store.addCommand command).2 }⟩
  /-- Nothing changes. -/
  | idle {result : Except Fault Http.Response} :
      gateway.report? raw = none → gateway.order? raw = none →
      (∀ response, result = .ok response → response.status ≠ Api.createdStatus) →
      Serving gateway raw ⟨result, [], gateway⟩

/-- The device of a command that is asked for exists. -/
theorem order?_known {gateway : Gateway} {raw : Http.RawRequest} {command : Command}
    (ordered : gateway.order? raw = some command) :
    gateway.store.hasDevice command.device = true := by
  obtain ⟨request, -, ordered⟩ := Option.bind_eq_some_iff.1 ordered
  split at ordered
  · exact (Api.order?_eq_some ordered).2
  · cases ordered

/-- The head alone of a response is a response of the same status. -/
theorem headOnly_idle {gateway : Gateway} {raw : Http.RawRequest}
    {result : Except Fault Http.Response} (noReport : gateway.report? raw = none)
    (noOrder : gateway.order? raw = none)
    (other : ∀ response, result = .ok response → response.status ≠ Api.createdStatus) (head : Prop)
    [Decidable head] :
    Serving gateway raw
      (if head then ⟨result.map Http.Response.head, [], gateway⟩ else ⟨result, [], gateway⟩) := by
  split
  · refine .idle noReport noOrder fun response told => ?_
    obtain ⟨whole, first, rfl⟩ := map_eq_ok_iff.1 told
    exact other whole first
  · exact .idle noReport noOrder other

/-- A request that is understood is served in one of the ways of requests. -/
theorem serveRead_serving {gateway : Gateway} {raw : Http.RawRequest} {request : Http.Request}
    (understood : gateway.understood? raw = some request) :
    Serving gateway raw (gateway.serveRead request) := by
  have report : gateway.report? raw =
      if (Api.target request = .route .reports && reportMethods.contains request.method) = true then
        some request else none := by
    simp [report?, understood, Option.filter]
  have order : gateway.order? raw = match Api.target request with
      | .route (.commands uniqueId) =>
        Api.order? gateway.store gateway.clock.now uniqueId request
      | _ => none := by
    simp [order?, understood]
  unfold serveRead answer
  cases aim : Api.target request with
  | nothing =>
    simp only [aim] at report order
    exact headOnly_idle report order (fun _ told => by cases told; simp [Api.createdStatus]) _
  | redirect location =>
    simp only [aim] at report order
    exact headOnly_idle report order (fun _ told => by
      cases told
      unfold redirection
      split <;> simp [Api.createdStatus, Http.Response.empty]) _
  | route route =>
    cases route with
    | reports =>
      simp only [aim] at report order
      unfold ingest
      by_cases allowed : reportMethods.contains request.method = true
      · -- A report keeps the content of its response, since it is never asked for by HEAD.
        have notHead : request.method ≠ "HEAD" := by
          rintro head
          rw [head] at allowed
          exact absurd allowed (by decide)
        rw [if_neg notHead, if_pos allowed]
        simp only [allowed, decide_true, Bool.and_self, if_true] at report
        exact .report report order
      · rw [if_neg allowed]
        simp only [allowed, decide_true, Bool.and_false, Bool.false_eq_true, if_false] at report
        exact headOnly_idle report order
          (fun _ told => by cases told; simp [Api.createdStatus, Http.Response.empty]) _
    | health =>
      simp only [aim] at report order
      exact headOnly_idle report order (fun _ told => by
        cases told
        exact Api.health_ne_created request) _
    | commands uniqueId =>
      simp only [aim] at report order
      have serves := Api.deviceCommands_serves gateway.clock gateway.store uniqueId request
      dsimp only [ofAnswer]
      generalize Api.deviceCommands gateway.clock gateway.store uniqueId request = given at serves ⊢
      obtain ⟨result, store⟩ := given
      cases ordered : Api.order? gateway.store gateway.clock.now uniqueId request with
      | some command =>
        rw [ordered] at order serves
        obtain ⟨rfl, response, rfl, created⟩ := serves
        have notHead : request.method ≠ "HEAD" := by
          rw [(Api.order?_eq_some ordered).1]
          decide
        rw [if_neg notHead]
        exact .order report order created
      | none =>
        rw [ordered] at order serves
        obtain ⟨rfl, others⟩ := serves
        refine headOnly_idle report order (fun response told => ?_) _
        exact others response (mapError_eq_ok_iff.1 told)

/-- A request is served in one of the ways of requests. -/
theorem serve_serving (gateway : Gateway) (raw : Http.RawRequest) :
    Serving gateway raw (gateway.serve raw) := by
  unfold serve
  split
  · rename_i endless
    exact .idle (by simp [report?, understood?, endless]) (by simp [order?, understood?, endless])
      (fun _ told => nomatch told)
  · rename_i loggedIn
    cases read : Http.RawRequest.read { raw with method := methodName raw.method } with
    | error fault =>
      exact .idle (by simp [report?, understood?, loggedIn, read, Except.toOption])
        (by simp [order?, understood?, loggedIn, read, Except.toOption])
        (fun _ told => nomatch told)
    | ok request =>
      have understood : gateway.understood? raw = some request := by
        simp [understood?, loggedIn, read, Except.toOption]
      dsimp only
      exact serveRead_serving understood

theorem serve_of_report {gateway : Gateway} {raw : Http.RawRequest} {request : Http.Request}
    (reports : gateway.report? raw = some request) :
    gateway.serve raw = gateway.report request := by
  have serving := serve_serving gateway raw
  generalize gateway.serve raw = outcome at serving ⊢
  cases serving with
  | report reports' _ =>
    rw [reports] at reports'
    cases reports'
    rfl
  | order noReport _ _ =>
    rw [reports] at noReport
    cases noReport
  | idle noReport _ _ =>
    rw [reports] at noReport
    cases noReport

/-- The command that a request asks for is queued. -/
theorem serve_of_order {gateway : Gateway} {raw : Http.RawRequest} {command : Command}
    (ordered : gateway.order? raw = some command) :
    (gateway.serve raw).gateway =
      { gateway with store := (gateway.store.addCommand command).2 } := by
  have serving := serve_serving gateway raw
  generalize gateway.serve raw = outcome at serving ⊢
  cases serving with
  | report _ noOrder =>
    rw [ordered] at noOrder
    cases noOrder
  | order _ ordered' _ =>
    rw [ordered] at ordered'
    cases ordered'
    rfl
  | idle _ noOrder _ =>
    rw [ordered] at noOrder
    cases noOrder

/-- A request is answered with the status of something created if it queues a command whose time
    can be shown. -/
theorem serve_created_iff (gateway : Gateway) (raw : Http.RawRequest) :
    (∃ response, (gateway.serve raw).result = .ok response ∧
        response.status = Api.createdStatus) ↔
      (gateway.order? raw).isSome = true ∧
        (gateway.clock.zone.at? gateway.clock.now).isSome = true := by
  have serving := serve_serving gateway raw
  generalize gateway.serve raw = outcome at serving ⊢
  cases serving with
  | report _ noOrder =>
    refine iff_of_false ?_ (by simp [noOrder])
    rintro ⟨response, answered, created⟩
    rcases report_status answered with status | status | status <;>
      · rw [status] at created
        exact absurd created (by decide)
  | order _ ordered created =>
    rw [ordered]
    constructor
    · rintro ⟨_, same, status⟩
      cases same
      exact ⟨rfl, created.mp status⟩
    · rintro ⟨-, shown⟩
      exact ⟨_, rfl, created.mpr shown⟩
  | idle _ noOrder others =>
    refine iff_of_false ?_ (by simp [noOrder])
    rintro ⟨response, answered, created⟩
    exact others response answered created

end Telematics.Gateway
