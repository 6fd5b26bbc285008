import Telematics.Proofs.Report.Action
import Telematics.Report.Basic

/-!
What decoding says to its services, and what they answer. Listening to the services changes nothing
for decoding.

* `Exchange`: a call of a service with its answer.
* `Services.overheard`: the same services with a record of every exchange.
* `conversation`: the exchanges of decoding a request, newest first.
* `Action.Projects`: an action is what another one is in a projection of its state, with one lemma
  for each way in which actions are put together.
* `decode_projects`: decoding with services that project to others is decoding with the others.
* `decode_overheard`, `conversation_calls`: decoding with overheard services has the result of
  decoding, and its calls are the recorded ones.
-/

namespace Telematics.Report

open Calendar (Clock Moment)

variable {ε σ τ α β : Type}

/-! ## Exchanges -/

/-- A call of a service, and its answer. -/
inductive Exchange (ε : Type) where
  | findDevice (protocol : Json) (remote : Option String) (identifiers : List Letters)
      (answer : Except ε (Option Int))
  | registerToken (device : Int) (token : String) (answer : Except ε Unit)
  | lastPosition (device : Int) (answer : Except ε (Option Position))
  | takeCommands (device : Int) (count : Nat) (answer : Except ε (List Json))

/-- The call of an exchange. -/
def Exchange.call : Exchange ε → Call
  | .findDevice protocol remote identifiers _ => .findDevice protocol remote identifiers
  | .registerToken device token _ => .registerToken device token
  | .lastPosition device _ => .lastPosition device
  | .takeCommands device count _ => .takeCommands device count

/-- An action with a record of the exchange in front of it. -/
def overhear (exchange : Except ε α → Exchange ε) (action : Action ε σ α) :
    Action ε (σ × List (Exchange ε)) α :=
  fun (state, said) =>
    let (result, after) := action state
    (result, (after, exchange result :: said))

/-- The same services with a record of every exchange, newest first. -/
def Services.overheard (services : Services ε σ) : Services ε (σ × List (Exchange ε)) where
  findDevice protocol remote identifiers :=
    overhear (.findDevice protocol remote identifiers)
      (services.findDevice protocol remote identifiers)
  registerToken device token :=
    overhear (.registerToken device token) (services.registerToken device token)
  lastPosition device := overhear (.lastPosition device) (services.lastPosition device)
  takeCommands device count :=
    overhear (.takeCommands device count) (services.takeCommands device count)
  complaint? := services.complaint?

/-- The exchanges of decoding a request, newest first. -/
def conversation (decoder : Decoder) (clock : Clock) (services : Services ε σ)
    (request : Http.Request) (state : σ) : List (Exchange ε) :=
  ((decode decoder clock services.overheard request).run (state, [])).2.2

/-! ## Projections -/

namespace Action

/-- What an action gives, and the state that it reaches, are those of another one in a projection of
    the state. -/
def Projects (view : τ → σ) (action : Action ε τ α) (other : Action ε σ α) : Prop :=
  ∀ state, other.run (view state) = ((action.run state).1, view (action.run state).2)

variable {view : τ → σ}

theorem projects_pure (value : α) :
    Projects view (pure value : Action ε τ α) (pure value) := fun _ => rfl

theorem projects_throw (fault : ε) :
    Projects view (throw fault : Action ε τ α) (throw fault) := fun _ => rfl

theorem projects_bind {action : Action ε τ α} {other : Action ε σ α} {next : α → Action ε τ β}
    {following : α → Action ε σ β} (first : action.Projects view other)
    (rest : ∀ value, (next value).Projects view (following value)) :
    Projects view (action >>= next) (other >>= following) := by
  intro state
  rw [run_bind, run_bind, first state]
  generalize action.run state = outcome
  obtain ⟨fault | value, middle⟩ := outcome
  · rfl
  · exact rest value middle

theorem projects_call {action : Action ε τ α} {other : Action ε σ α}
    (projects : action.Projects view other) : Projects view (call action) (call other) := by
  intro state
  rw [run_call, run_call, projects state]
  generalize action.run state = outcome
  obtain ⟨fault | value, after⟩ := outcome <;> rfl

theorem projects_adapt {φ : Type} {rename : ε → φ} {action : Action ε τ α} {other : Action ε σ α}
    (projects : action.Projects view other) :
    Projects view (ExceptT.adapt rename action : Action φ τ α) (ExceptT.adapt rename other) := by
  intro state
  rw [run_adapt, run_adapt, projects state]

theorem projects_orReject (checked : Except Rejection α) :
    Projects view (orReject checked : Action (Failure ε) τ α) (orReject checked) := by
  cases checked with
  | error rejection => exact projects_throw _
  | ok value => exact projects_pure _

end Action

/-- Services are what others are in a projection of the state. -/
structure Services.Project (view : τ → σ) (services : Services ε τ) (others : Services ε σ) :
    Prop where
  findDevice : ∀ protocol remote identifiers,
    (services.findDevice protocol remote identifiers).Projects view
      (others.findDevice protocol remote identifiers)
  registerToken : ∀ device token,
    (services.registerToken device token).Projects view (others.registerToken device token)
  lastPosition : ∀ device,
    (services.lastPosition device).Projects view (others.lastPosition device)
  takeCommands : ∀ device count,
    (services.takeCommands device count).Projects view (others.takeCommands device count)
  complaint? : services.complaint? = others.complaint?

section Project

open Report.Action

variable {view : τ → σ} {services : Services ε τ} {others : Services ε σ}
  (project : services.Project view others)

include project

theorem handle_projects (decoder : Decoder) (remote : Option String) (draft : Draft)
    (entry : Entry) :
    (handle decoder services remote draft entry).Projects view
      (handle decoder others remote draft entry) := by
  cases entry with
  | identifier text =>
    refine projects_bind (projects_call (project.findDevice _ _ _)) fun found => ?_
    cases found <;> exact projects_pure _
  | token text =>
    simp only [handle]
    split
    · exact projects_bind (projects_call (project.registerToken _ _)) fun _ => projects_pure _
    · exact projects_pure _
  | detail detail => exact projects_pure _

theorem handleField_projects (decoder : Decoder) (remote : Option String) (draft : Draft)
    (key value : String) (entry : Entry) :
    (handleField decoder services remote draft key value entry).Projects view
      (handleField decoder others remote draft key value entry) := by
  unfold handleField
  rw [project.complaint?]
  exact projects_adapt (handle_projects project decoder remote draft entry)

theorem handleAll_projects (decoder : Decoder) (zone : Calendar.Zone) (remote : Option String)
    (fields : List Http.Field) (draft : Draft) :
    (handleAll decoder zone services remote draft fields).Projects view
      (handleAll decoder zone others remote draft fields) := by
  induction fields generalizing draft with
  | nil => exact projects_pure _
  | cons field rest ih =>
    obtain ⟨key, value⟩ := field
    refine projects_bind (projects_orReject _) fun entry => ?_
    refine projects_bind (handleField_projects project decoder remote draft key value entry)
      fun next => ?_
    cases next with
    | none => exact projects_pure _
    | some next => exact ih next

theorem fallBack_projects (device : Int) (position : Position) (time : Moment) :
    (fallBack services device position time).Projects view
      (fallBack others device position time) := by
  unfold fallBack
  split
  · exact projects_pure _
  · exact projects_bind (projects_call (project.lastPosition _)) fun _ => projects_pure _

theorem locate_projects (protocol : Json) (now : Moment) (draft : Draft) :
    (draft.locate protocol services now).Projects view (draft.locate protocol others now) := by
  unfold Draft.locate
  split
  · exact projects_pure _
  · exact fallBack_projects project _ _ _

theorem commandResponse_projects (device : Int) :
    (commandResponse services device).Projects view (commandResponse others device) := by
  refine projects_bind (projects_call (project.takeCommands _ _)) fun payloads => ?_
  split
  · exact projects_pure _
  · exact projects_throw _

theorem decodeFields_projects (decoder : Decoder) (clock : Clock) (remote : Option String)
    (fields : List Http.Field) :
    (decodeFields decoder clock services remote fields).Projects view
      (decodeFields decoder clock others remote fields) := by
  refine projects_bind (handleAll_projects project decoder _ _ _ _) fun found => ?_
  cases found with
  | none => exact projects_pure _
  | some draft =>
    refine projects_bind (locate_projects project _ _ _) fun position => ?_
    split
    · exact projects_pure _
    · exact projects_bind (commandResponse_projects project _) fun _ => projects_pure _

theorem decodeDocument_projects (decoder : Decoder) (clock : Clock) (remote : Option String)
    (document : Json.Members) :
    (decodeDocument decoder clock services remote document).Projects view
      (decodeDocument decoder clock others remote document) := by
  refine projects_bind (projects_orReject _) fun identifier => ?_
  refine projects_bind (projects_call (project.findDevice _ _ _)) fun found => ?_
  cases found with
  | none => exact projects_pure _
  | some device =>
    refine projects_bind (projects_orReject _) fun location => ?_
    refine projects_bind (projects_orReject _) fun timestamp => ?_
    refine projects_bind (projects_orReject _) fun time => ?_
    refine projects_bind (projects_orReject _) fun coords => ?_
    have conclude : ∀ position : Position, Projects view
        (do
          let attributes ← orReject (readExtras location)
          pure ⟨some { position with attributes := .object attributes }, .plain 200 ""⟩ :
            Action (Failure ε) τ Decoded)
        (do
          let attributes ← orReject (readExtras location)
          pure ⟨some { position with attributes := .object attributes }, .plain 200 ""⟩) :=
      fun _ => projects_bind (projects_orReject _) fun _ => projects_pure _
    cases coords with
    | some members => exact projects_bind (projects_orReject _) fun spot => conclude _
    | none =>
      exact projects_bind (fallBack_projects project _ _ _) fun filled => conclude filled

omit project in
theorem readDocument_projects (depth : Nat) (body : List UInt8) :
    (readDocument depth body : Action (Failure ε) τ Json.Members).Projects view
      (readDocument depth body) := by
  unfold readDocument
  split
  · exact projects_throw _
  · split
    · exact projects_pure _
    all_goals exact projects_throw _

/-- Decoding with services that project to others is decoding with the others. -/
theorem decode_projects (decoder : Decoder) (clock : Clock) (request : Http.Request) :
    (decode decoder clock services request).Projects view
      (decode decoder clock others request) := by
  unfold decode
  split
  · unfold decodeJson
    split
    · exact projects_throw _
    · exact projects_bind (readDocument_projects _ _) fun document =>
        decodeDocument_projects project _ _ _ document
  · unfold decodeQuery
    split
    · exact projects_throw _
    · exact decodeFields_projects project _ _ _ _

end Project

/-! ## Listening -/

/-- Without the record, overheard services are the services. -/
theorem Services.overheard_project (services : Services ε σ) :
    services.overheard.Project Prod.fst services :=
  ⟨fun _ _ _ _ => rfl, fun _ _ _ => rfl, fun _ _ => rfl, fun _ _ _ => rfl, rfl⟩

/-- Without the answers, overheard services are recorded ones. -/
theorem Services.overheard_project_recorded (services : Services ε σ) :
    services.overheard.Project (fun (state, said) => (state, said.map Exchange.call))
      services.recorded :=
  ⟨fun _ _ _ _ => rfl, fun _ _ _ => rfl, fun _ _ => rfl, fun _ _ _ => rfl, rfl⟩

variable (decoder : Decoder) (clock : Clock) (services : Services ε σ) (request : Http.Request)
  (state : σ)

/-- Decoding does the same whether its services are overheard or not. -/
theorem decode_overheard (said : List (Exchange ε)) :
    (decode decoder clock services request).run state =
      (((decode decoder clock services.overheard request).run (state, said)).1,
        ((decode decoder clock services.overheard request).run (state, said)).2.1) :=
  decode_projects services.overheard_project decoder clock request (state, said)

/-- The calls of a conversation are those of the record of calls. -/
theorem conversation_calls :
    (conversation decoder clock services request state).map Exchange.call =
      ((decode decoder clock services.recorded request).run (state, [])).2.2 := by
  have projects := decode_projects services.overheard_project_recorded decoder clock request
    (state, [])
  exact (congrArg (fun outcome => outcome.2.2) projects).symm

end Telematics.Report
