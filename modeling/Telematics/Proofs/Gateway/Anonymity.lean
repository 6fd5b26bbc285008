import Telematics.Proofs.Gateway.Isolation

/-!
Anonymous requests. A request that comes without a user, for any path below that of the devices, is
answered from the request alone: no store, session, setting or clock can be told from the answer,
and the request leaves no trace in them.

* `Api.deviceCommands_anonymous`: what an anonymous request for commands is answered.
* `serve_anonymous`: an anonymous request has one answer, in whatever gateway, and changes nothing.
* `run_without_anonymous`, `answersOf_anonymous`: in a run, anonymous requests and everything else
  do not notice each other.
-/

namespace Telematics

namespace Api

/-- A path is below that of the devices, where the commands of every device are. -/
def isBelowDevices (path : List Char) : Bool :=
  commandsStart.toList.isPrefixOf (pathText path)

/-- The response to a request for the commands of a device that comes without a user. -/
def anonymousResponse (request : Http.Request) : Http.Response :=
  match rendering request with
  | .error response => response
  | .ok rendering =>
    rendering.write (refusal 403 "Authentication credentials were not provided.")

/-- The statuses of responses to anonymous requests below the path of the devices: another place,
    what cannot be read, what is forbidden, and what there is not. -/
def anonymousStatuses : List Nat := [301, 400, 403, 404]

/-- A request for commands that comes without a user is refused before the store is looked at. -/
theorem deviceCommands_anonymous {request : Http.Request} (anonymous : request.loggedIn = false)
    (clock : Calendar.Clock) (store : Store) (uniqueId : String) :
    deviceCommands clock store uniqueId request = ⟨.ok (anonymousResponse request), store⟩ := by
  have unforged : forgery? request = none := by
    rw [forgery?, anonymous]
    rfl
  have nobody : anonymous? request =
      some (refusal 403 "Authentication credentials were not provided.") := by
    rw [anonymous?, anonymous]
    rfl
  rw [deviceCommands, anonymousResponse]
  cases rendering request with
  | error response => rfl
  | ok rendering =>
    dsimp only
    rw [commandsFor, unforged, nobody]
    rfl

theorem status_anonymousResponse (request : Http.Request) :
    (anonymousResponse request).status ∈ anonymousStatuses := by
  unfold anonymousResponse
  split
  · rename_i response refused
    unfold rendering at refused
    split at refused
    · cases refused
      decide
    · split at refused <;> cases refused
      decide
  · rw [status_write]
    decide

/-- Neither the entry of reports nor the health check is below the path of the devices. -/
theorem target_below_devices {request : Http.Request}
    (below : isBelowDevices request.path = true) :
    target request ≠ .route .reports ∧ target request ≠ .route .health := by
  have elsewhere : ∀ path : List Char, commandsStart.toList.isPrefixOf path = false →
      pathText request.path ≠ path := by
    rintro _ apart rfl
    rw [isBelowDevices, apart] at below
    cases below
  have notReports := elsewhere reportsPath.toList (by decide)
  have notHealth := elsewhere healthPath.toList (by decide)
  have routes : ∀ route, route? (pathText request.path) = some route →
      ∃ uniqueId, route = .commands uniqueId := by
    intro route found
    rw [route?, if_neg notReports, if_neg notHealth] at found
    split at found
    · split at found
      · cases found
      · cases found
        exact ⟨_, rfl⟩
    · cases found
  unfold target
  dsimp only
  cases found : route? (pathText request.path) with
  | some route =>
    obtain ⟨uniqueId, rfl⟩ := routes route found
    simp
  | none =>
    dsimp only
    split <;> simp

end Api

namespace Gateway

/-- What is answered to an anonymous request below the path of the devices. -/
def anonymousAnswer (request : Http.Request) : Http.Response :=
  match Api.target request with
  | .route _ => Api.anonymousResponse request
  | .redirect location => redirection location
  | .nothing => .page 404

theorem status_anonymousAnswer (request : Http.Request) :
    (anonymousAnswer request).status ∈ Api.anonymousStatuses := by
  unfold anonymousAnswer
  split
  · exact Api.status_anonymousResponse request
  · unfold redirection
    split
    · decide
    · exact (by decide : 301 ∈ Api.anonymousStatuses)
  · decide

theorem answer_anonymous {request : Http.Request} (anonymous : request.loggedIn = false)
    (below : Api.isBelowDevices request.path = true) (gateway : Gateway) :
    gateway.answer request = ⟨.ok (anonymousAnswer request), [], gateway⟩ := by
  obtain ⟨notReports, notHealth⟩ := Api.target_below_devices below
  unfold answer anonymousAnswer
  cases aim : Api.target request with
  | nothing => rfl
  | redirect location => rfl
  | route route =>
    cases route with
    | reports => exact absurd aim notReports
    | health => exact absurd aim notHealth
    | commands uniqueId =>
      dsimp only
      rw [Api.deviceCommands_anonymous anonymous]
      rfl

/-- A request that is understood comes with a user if it was sent with one. -/
theorem loggedIn_of_asked? {raw : Http.RawRequest} {request : Http.Request}
    (asked : asked? raw = some request) : request.loggedIn = raw.loggedIn := by
  obtain ⟨url, -, -, same⟩ := asked?_eq_some asked
  rw [same]

/-- A request comes without a user, for a path below that of the devices. One that is not understood
    has no path. -/
def isAnonymous (raw : Http.RawRequest) : Bool :=
  !raw.loggedIn && (asked? raw).all fun request => Api.isBelowDevices request.path

/-- An anonymous request has one answer, in whatever gateway, and leaves the gateway as it is. -/
theorem serve_anonymous {raw : Http.RawRequest} (anonymous : isAnonymous raw = true) :
    ∃ result, (∀ gateway : Gateway, gateway.serve raw = ⟨result, [], gateway⟩) ∧
      ∀ response, result = .ok response → response.status ∈ Api.anonymousStatuses := by
  obtain ⟨nobody, below⟩ := (Bool.and_eq_true ..).mp anonymous
  have nobody : raw.loggedIn = false := by simpa using nobody
  have unblocked : ∀ gateway : Gateway, ¬ (raw.loggedIn && !canLogIn gateway.clock.now) = true := by
    simp [nobody]
  cases read : Http.RawRequest.read { raw with method := methodName raw.method } with
  | error fault =>
    refine ⟨.error (.request fault), fun gateway => ?_, nofun⟩
    rw [serve, if_neg (unblocked gateway), read]
  | ok request =>
    have asked : asked? raw = some request := by rw [asked?, read]; rfl
    rw [asked] at below
    have unknown : request.loggedIn = false := (loggedIn_of_asked? asked).trans nobody
    have served : ∀ gateway : Gateway, gateway.serve raw =
        ⟨.ok (if request.method = "HEAD" then (anonymousAnswer request).head
          else anonymousAnswer request), [], gateway⟩ := by
      intro gateway
      rw [serve, if_neg (unblocked gateway), read]
      simp only [serveRead, answer_anonymous unknown below gateway]
      split <;> rfl
    refine ⟨_, served, fun response told => ?_⟩
    cases told
    split <;> exact status_anonymousAnswer request

/-- Anonymous clients learn and change nothing: a request without a user, for any path below that of
    the devices, is answered alike in every two gateways, whatever they store and keep, and it sends
    nothing and leaves the gateway as it is. The answer is never a success. -/
theorem anonymous_learns_nothing {raw : Http.RawRequest} (nobody : raw.loggedIn = false)
    (below : ∀ request, asked? raw = some request → Api.isBelowDevices request.path = true)
    (gateway other : Gateway) :
    (gateway.serve raw).result = (other.serve raw).result ∧
      (gateway.serve raw).outbox = [] ∧ (gateway.serve raw).gateway = gateway ∧
      ∀ response, (gateway.serve raw).result = .ok response →
        response.status ∈ Api.anonymousStatuses := by
  have anonymous : isAnonymous raw = true := by
    rw [isAnonymous, nobody]
    simpa [Option.all_eq_true] using below
  obtain ⟨result, served, statuses⟩ := serve_anonymous anonymous
  rw [served gateway, served other]
  exact ⟨rfl, rfl, rfl, statuses⟩

/-- A command that somebody without a user would queue for a device. -/
def anonymousOrder : Http.RawRequest where
  method := "POST"
  url := "/api/v1/devices/a/commands/"
  body := (Json.render (.object [("payload", .text "1")])).toUTF8.toList
  contentType := some "application/json"

/-- Whether the device exists cannot be told from the answer, and nothing is queued for it. -/
theorem anonymous_order_refused :
    (asked? anonymousOrder).isSome = true ∧
      (openGateway.run [reportStep "id=a"]).store.hasDevice 1 = true ∧
      (openGateway.serve anonymousOrder).result =
        ((openGateway.run [reportStep "id=a"]).serve anonymousOrder).result ∧
      (openGateway.serve anonymousOrder).gateway = openGateway := by
  have below : ∀ request, asked? anonymousOrder = some request →
      Api.isBelowDevices request.path = true := by
    intro request asked
    have all : (asked? anonymousOrder).all fun request => Api.isBelowDevices request.path := by
      decide +kernel
    rw [asked] at all
    exact all
  have law := anonymous_learns_nothing (by rfl) below
    openGateway (openGateway.run [reportStep "id=a"])
  exact ⟨by decide +kernel, by decide +kernel, law.1, law.2.2.1⟩

/-! ## Runs -/

/-- A step is an anonymous request. -/
def Step.isAnonymous : Step → Bool
  | .request raw => Gateway.isAnonymous raw
  | _ => false

/-- An anonymous step is answered alike in every gateway, which stays as it is. -/
theorem step_anonymous {what : Step} (anonymous : what.isAnonymous = true) :
    ∃ result, ∀ gateway : Gateway, gateway.step what = ⟨result, [], gateway⟩ := by
  cases what with
  | request raw =>
    obtain ⟨result, served, -⟩ := serve_anonymous anonymous
    exact ⟨result.map .response, fun gateway => by rw [step, served]; rfl⟩
  | _ => cases anonymous

/-- Nothing can be told from a run about the anonymous requests in it. -/
theorem run_without_anonymous (gateway : Gateway) (steps : List Step) :
    gateway.run steps = gateway.run (steps.filter fun what => !what.isAnonymous) ∧
      answersOf (fun what => !what.isAnonymous) gateway steps =
        answersOf (fun what => !what.isAnonymous) gateway
          (steps.filter fun what => !what.isAnonymous) := by
  induction steps generalizing gateway with
  | nil => exact ⟨rfl, rfl⟩
  | cons what rest ih =>
    cases anonymous : what.isAnonymous with
    | true =>
      obtain ⟨result, same⟩ := step_anonymous anonymous
      rw [List.filter_cons_of_neg (by simp [anonymous]), run_cons, answersOf, same gateway]
      simpa only [anonymous, Bool.not_true, Bool.false_eq_true, if_false] using ih gateway
    | false =>
      obtain ⟨reached, answers⟩ := ih (gateway.step what).gateway
      rw [List.filter_cons_of_pos (by simp [anonymous]), run_cons, run_cons, answersOf, answersOf]
      simp only [anonymous, Bool.not_false, if_true, answers, and_true]
      exact reached

/-- What anonymous clients are answered in a run is what they would be answered in any other
    gateway, without anything that happens in between. -/
theorem answersOf_anonymous (gateway other : Gateway) (steps : List Step) :
    answersOf Step.isAnonymous gateway steps =
      answersOf Step.isAnonymous other (steps.filter Step.isAnonymous) := by
  induction steps generalizing gateway other with
  | nil => rfl
  | cons what rest ih =>
    cases anonymous : what.isAnonymous with
    | true =>
      obtain ⟨result, same⟩ := step_anonymous anonymous
      rw [List.filter_cons_of_pos anonymous, answersOf, answersOf, same gateway, same other]
      simp only [anonymous, if_true]
      rw [ih gateway other]
    | false =>
      rw [List.filter_cons_of_neg (by simp [anonymous]), answersOf]
      simp only [anonymous, Bool.false_eq_true, if_false]
      exact ih _ other

end Gateway

end Telematics
