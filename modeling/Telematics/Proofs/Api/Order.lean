import Telematics.Api.Basic
import Telematics.Proofs.Report.Action

/-!
What the interface for programs does to the queue of commands. A request queues the command that it
asks for, if it asks for one, and nothing else; only then is it answered with the status of
something that was created.

* `order?`: the command that a request asks for.
* `deviceCommands_serves`: what becomes of it.
-/

namespace Telematics.Api

open Calendar (Moment)

/-- The command in the body of a request. -/
def bodyOrder? (now : Moment) (device : Row Device) (request : Http.Request) : Option Command :=
  ((readBody request).toOption.bind fun body => (NewCommand.check body).toOption).map fun new =>
    ⟨device.id, new.type.getD customType, .text new.payload, now⟩

/-- The command that a request of a user asks for. -/
def userOrder? (store : Store) (now : Moment) (uniqueId : String) (request : Http.Request) :
    Option Command :=
  if request.method = "POST" then
    (store.deviceOf? uniqueId).bind fun device => bodyOrder? now device request
  else none

/-- The command that a request for the commands of a device asks for. -/
def order? (store : Store) (now : Moment) (uniqueId : String) (request : Http.Request) :
    Option Command :=
  match rendering request, forgery? request, anonymous? request with
  | .ok _, none, none => userOrder? store now uniqueId request
  | _, _, _ => none

/-- A command is asked for by posting, and for a device that exists. -/
theorem order?_eq_some {store : Store} {now : Moment} {uniqueId : String}
    {request : Http.Request} {command : Command}
    (ordered : order? store now uniqueId request = some command) :
    request.method = "POST" ∧ store.hasDevice command.device = true := by
  unfold order? at ordered
  split at ordered
  · unfold userOrder? at ordered
    split at ordered
    · rename_i post
      obtain ⟨device, found, ordered⟩ := Option.bind_eq_some_iff.1 ordered
      obtain ⟨new, -, rfl⟩ := Option.map_eq_some_iff.1 ordered
      refine ⟨post, Option.isSome_iff_exists.2 ⟨device, ?_⟩⟩
      exact Table.find?_eq_some_iff.2 ⟨List.mem_of_find?_eq_some found, rfl⟩
    · cases ordered
  · cases ordered

/-- The status of something that was created. -/
def createdStatus : Nat := 201

@[simp] theorem status_json (status : Nat) (value : Json) :
    (Http.Response.json status value).status = status := rfl

@[simp] theorem status_page (status : Nat) : (Http.Response.page status).status = status := rfl

@[simp] theorem status_refusal (status : Nat) (detail : String) :
    (refusal status detail).status = status := rfl

@[simp] theorem status_failed (status : Nat) (error : Json) :
    (failed status error).status = status := rfl

theorem rendering_ne_created {request : Http.Request} {response : Http.Response}
    (refused : rendering request = .error response) : response.status ≠ createdStatus := by
  unfold rendering at refused
  split at refused
  · cases refused
    decide
  · split at refused <;> cases refused
    decide

theorem forgery_ne_created {request : Http.Request} {response : Http.Response}
    (refused : forgery? request = some response) : response.status ≠ createdStatus := by
  unfold forgery? at refused
  split at refused <;> cases refused
  decide

theorem anonymous_ne_created {request : Http.Request} {response : Http.Response}
    (refused : anonymous? request = some response) : response.status ≠ createdStatus := by
  unfold anonymous? at refused
  split at refused <;> cases refused
  decide

theorem bodyRefusal_ne_created {fault : BodyFault} {response : Http.Response}
    (refused : bodyRefusal fault = .ok response) : response.status ≠ createdStatus := by
  unfold bodyRefusal at refused
  split at refused <;> cases refused <;> simp [createdStatus]

theorem listCommands_ne_created {clock : Calendar.Clock} {store : Store} {device : Row Device}
    {response : Http.Response} (listed : listCommands clock store device = .ok response) :
    response.status ≠ createdStatus := by
  unfold listCommands at listed
  dsimp only at listed
  split at listed
  · split at listed <;> cases listed
    simp [createdStatus]
  · cases listed
    simp [createdStatus, timeOutOfRange]

@[simp] theorem status_write (rendering : Rendering) (response : Http.Response) :
    (rendering.write response).status = response.status := by
  cases rendering <;> rfl

theorem health_ne_created (request : Http.Request) :
    (health request).status ≠ createdStatus := by
  unfold health
  split
  · rename_i response refused
    exact rendering_ne_created refused
  · rw [status_write]
    unfold healthOf
    split
    · rename_i response refused
      exact forgery_ne_created refused
    · split <;> simp [createdStatus, notAllowed, description]

/-- An answer that changes nothing, and does not tell of anything that was created. -/
def Answer.IsIdle (answer : Answer) (store : Store) : Prop :=
  answer.store = store ∧
    ∀ response, answer.response = .ok response → response.status ≠ createdStatus

theorem isIdle_of_ne_created {store : Store} {response : Http.Response}
    (other : response.status ≠ createdStatus) : (⟨.ok response, store⟩ : Answer).IsIdle store := by
  refine ⟨rfl, fun told same => ?_⟩
  cases same
  exact other

/-- An answer to a command that is queued. It tells so if the time of the command can be shown. -/
def Answer.Queues (answer : Answer) (clock : Calendar.Clock) (store : Store)
    (command : Command) : Prop :=
  answer.store = (store.addCommand command).2 ∧
    ∃ response, answer.response = .ok response ∧
      (response.status = createdStatus ↔ (clock.zone.at? clock.now).isSome = true)

/-- A command is shown if its time can be shown. -/
theorem isSome_commandJson? (clock : Calendar.Clock) (uniqueId : String) (row : Row Command) :
    (commandJson? clock uniqueId row).isSome = (clock.zone.at? row.value.createdAt).isSome := by
  rw [commandJson?, Option.isSome_map]

theorem queueNew_queues (clock : Calendar.Clock) (store : Store) (device : Row Device)
    (new : NewCommand) :
    (queueNew clock store device new).Queues clock store
      ⟨device.id, new.type.getD customType, .text new.payload, clock.now⟩ := by
  unfold queueNew
  dsimp only
  split
  · rename_i command written
    have shown := congrArg Option.isSome written
    rw [isSome_commandJson?] at shown
    exact ⟨rfl, _, rfl, iff_of_true rfl shown⟩
  · rename_i written
    have hidden := congrArg Option.isSome written
    rw [isSome_commandJson?] at hidden
    exact ⟨rfl, _, rfl, iff_of_false (by decide) (Bool.eq_false_iff.1 hidden)⟩

/-- What becomes of an order, if there is one. -/
def Answer.Serves (answer : Answer) (clock : Calendar.Clock) (store : Store) :
    Option Command → Prop
  | some command => answer.Queues clock store command
  | none => answer.IsIdle store

theorem postCommand_serves (clock : Calendar.Clock) (store : Store) (device : Row Device)
    (request : Http.Request) :
    (postCommand clock store device request).Serves clock store
      (bodyOrder? clock.now device request) := by
  unfold postCommand bodyOrder?
  cases readBody request with
  | error fault => exact ⟨rfl, fun response refused => bodyRefusal_ne_created refused⟩
  | ok body =>
    simp only [Except.toOption, Option.bind_some]
    cases NewCommand.check body with
    | error problems => exact isIdle_of_ne_created (by simp [createdStatus])
    | ok new => exact queueNew_queues clock store device new

theorem commands_serves (clock : Calendar.Clock) (store : Store) (uniqueId : String)
    (request : Http.Request) :
    (commands clock store uniqueId request).Serves clock store
      (userOrder? store clock.now uniqueId request) := by
  unfold commands userOrder?
  split
  · rename_i get
    rw [if_neg (by simp [get])]
    split
    · exact ⟨rfl, fun _ => listCommands_ne_created⟩
    · exact isIdle_of_ne_created (by simp [deviceNotFound, createdStatus])
  · rename_i head
    rw [if_neg (by simp [head])]
    split
    · exact ⟨rfl, fun _ => listCommands_ne_created⟩
    · exact isIdle_of_ne_created (by simp [deviceNotFound, createdStatus])
  · rename_i post
    rw [if_pos post]
    cases store.deviceOf? uniqueId with
    | some device => exact postCommand_serves clock store device request
    | none => exact isIdle_of_ne_created (by simp [deviceNotFound, createdStatus])
  · rename_i options
    rw [if_neg (by simp [options])]
    exact isIdle_of_ne_created (by simp [description, createdStatus])
  · rename_i post _
    rw [if_neg post]
    exact isIdle_of_ne_created (by simp [notAllowed, createdStatus])

/-- A response is written in another form. What was done stays the same. -/
theorem Answer.Serves.write {answer : Answer} {clock : Calendar.Clock} {store : Store}
    {order : Option Command} (serves : answer.Serves clock store order) (rendering : Rendering) :
    ({ answer with response := answer.response.map rendering.write } : Answer).Serves clock store
      order := by
  cases order with
  | some command =>
    obtain ⟨queued, response, told, created⟩ := serves
    refine ⟨queued, rendering.write response, ?_, ?_⟩
    · rw [told]
      rfl
    · rw [status_write]
      exact created
  | none =>
    obtain ⟨same, others⟩ := serves
    refine ⟨same, fun response told => ?_⟩
    obtain ⟨unwritten, first, rfl⟩ := map_eq_ok_iff.1 told
    rw [status_write]
    exact others unwritten first

/-- A request for the commands of a device queues the command that it asks for, and nothing else. -/
theorem deviceCommands_serves (clock : Calendar.Clock) (store : Store) (uniqueId : String)
    (request : Http.Request) :
    (deviceCommands clock store uniqueId request).Serves clock store
      (order? store clock.now uniqueId request) := by
  unfold deviceCommands order?
  cases rendered : rendering request with
  | error refusal => exact isIdle_of_ne_created (rendering_ne_created rendered)
  | ok rendering =>
    dsimp only
    refine Answer.Serves.write ?_ rendering
    unfold commandsFor
    cases forged : forgery? request with
    | some refusal => exact isIdle_of_ne_created (forgery_ne_created forged)
    | none =>
      cases nobody : anonymous? request with
      | some refusal => exact isIdle_of_ne_created (anonymous_ne_created nobody)
      | none => exact commands_serves clock store uniqueId request

end Telematics.Api
