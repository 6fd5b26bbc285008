import Telematics.Proofs.Report.Action
import Telematics.Report.Basic

/-!
How decoding ends, for services of any kind. Decoding looks for devices, keeps tokens and asks for
the last position as often as the report makes it; commands are taken at most once, by a report of
flat parameters that is accepted, and nothing else happens afterwards.

* `Services.Follow`: the services but for the taking of commands follow a relation.
* `Ending`: the ways in which decoding ends, each with what has been done to the state.
* `decode_ending`: decoding ends in one of these ways.
-/

namespace Telematics.Report

open Calendar (Clock Moment)
open Relation (ReflTransGen)

variable {ε σ : Type} {services : Services ε σ} {step : σ → σ → Prop}

/-- The services but for the taking of commands follow a relation. -/
structure Services.Follow (services : Services ε σ) (step : σ → σ → Prop) : Prop where
  findDevice : ∀ protocol remote identifiers,
    (services.findDevice protocol remote identifiers).Follows step
  registerToken : ∀ device token, (services.registerToken device token).Follows step
  lastPosition : ∀ device, (services.lastPosition device).Follows step

/-- The ways in which decoding ends, from a state and for a JSON document or for parameters: the
    result and the state afterwards. -/
inductive Ending (services : Services ε σ) (step : σ → σ → Prop) (state : σ) :
    Bool → Except (Failure ε) Decoded → σ → Prop where
  /-- Nothing comes out. -/
  | failed {json : Bool} {failure : Failure ε} {after : σ} :
      ReflTransGen step state after → Ending services step state json (.error failure) after
  /-- The device of a document is not known. -/
  | unknown {protocol : Json} {remote : Option String} {identifiers : List Letters} {after : σ} :
      (services.findDevice protocol remote identifiers).run state = (.ok none, after) →
      Ending services step state true (.ok (.refused 404)) after
  /-- A device that parameters name is not known, or they name none. -/
  | refused {after : σ} :
      ReflTransGen step state after → Ending services step state false (.ok (.refused 400)) after
  /-- A document is accepted. No command is taken for it. -/
  | document {position : Position} {device : Int} {after : σ} :
      position.deviceId = .int device → ReflTransGen step state after →
      Ending services step state true (.ok ⟨some position, .plain 200 ""⟩) after
  /-- Parameters are accepted, and the oldest command is taken. -/
  | parameters {position : Position} {device : Int} {middle after : σ} {payloads : List Json}
      {text : String} :
      position.deviceId = .int device → device ≠ 0 → ReflTransGen step state middle →
      (services.takeCommands device 1).run middle = (.ok payloads, after) →
      Http.payloadText (payloads.getLast?.getD .null) = some text →
      Ending services step state false (.ok ⟨some position, .plain 200 text⟩) after
  /-- Parameters would be accepted, but the command cannot be taken. -/
  | untaken {device : Int} {middle after : σ} {fault : ε} :
      device ≠ 0 → ReflTransGen step state middle →
      (services.takeCommands device 1).run middle = (.error fault, after) →
      Ending services step state false (.error (.service fault)) after
  /-- Parameters would be accepted, but the command that is taken cannot be sent. -/
  | unsent {device : Int} {middle after : σ} {payloads : List Json} :
      device ≠ 0 → ReflTransGen step state middle →
      (services.takeCommands device 1).run middle = (.ok payloads, after) →
      Http.payloadText (payloads.getLast?.getD .null) = none →
      Ending services step state false (.error .unencodable) after

section Follows

variable (follow : services.Follow step)

include follow

theorem follows_handle (decoder : Decoder) (remote : Option String) (draft : Draft)
    (entry : Entry) : (handle decoder services remote draft entry).Follows step := by
  cases entry with
  | identifier text =>
    refine Action.follows_bind (Action.follows_call (follow.findDevice _ _ _)) fun found => ?_
    cases found with
    | none => exact Action.follows_pure _
    | some device => exact Action.follows_pure _
  | token text =>
    simp only [handle]
    split
    · exact Action.follows_bind (Action.follows_call (follow.registerToken _ _)) fun _ =>
        Action.follows_pure _
    · exact Action.follows_pure _
  | detail detail => exact Action.follows_pure _

theorem follows_handleAll (decoder : Decoder) (zone : Calendar.Zone) (remote : Option String)
    (draft : Draft) (fields : List Http.Field) :
    (handleAll decoder zone services remote draft fields).Follows step := by
  induction fields generalizing draft with
  | nil => exact Action.follows_pure _
  | cons field rest ih =>
    obtain ⟨key, value⟩ := field
    refine Action.follows_bind (Action.follows_orReject _) fun entry => ?_
    refine Action.follows_bind
      (Action.follows_adapt (follows_handle follow decoder remote draft entry)) fun next => ?_
    cases next with
    | none => exact Action.follows_pure _
    | some draft => exact ih draft

theorem follows_fallBack (device : Int) (position : Position) (deviceTime : Moment) :
    (fallBack services device position deviceTime).Follows step := by
  unfold fallBack
  split
  · exact Action.follows_pure _
  · exact Action.follows_bind (Action.follows_call (follow.lastPosition _)) fun _ =>
      Action.follows_pure _

theorem follows_locate (protocol : Json) (now : Moment) (draft : Draft) :
    (draft.locate protocol services now).Follows step := by
  unfold Draft.locate
  split
  · exact Action.follows_pure _
  · exact follows_fallBack follow _ _ _

end Follows

@[simp] theorem deviceId_fillFromLast (last : Option Position) (position : Position) :
    (fillFromLast last position).deviceId = position.deviceId := by
  cases last <;> rfl

/-- Filling in a position leaves its device. -/
theorem deviceId_of_run_fallBack {device : Int} {position filled : Position} {deviceTime : Moment}
    {state after : σ}
    (ran : (fallBack services device position deviceTime).run state = (.ok filled, after)) :
    filled.deviceId = position.deviceId := by
  unfold fallBack at ran
  split at ran
  · cases ran
    rfl
  · rcases Action.run_bind_cases ran with ⟨fault, -, failed⟩ | ⟨last, middle, -, done⟩
    · cases failed
    · cases done
      simp

theorem deviceId_of_run_locate {protocol : Json} {now : Moment} {draft : Draft}
    {position : Position} {state after : σ}
    (ran : (draft.locate protocol services now).run state = (.ok position, after)) :
    position.deviceId = .int draft.device := by
  unfold Draft.locate at ran
  split at ran
  · cases ran
    rfl
  · exact deviceId_of_run_fallBack ran

/-- The response to accepted parameters is what taking a command gives, if that can be sent. -/
theorem run_commandResponse_cases {device : Int} {middle after : σ}
    {result : Except (Failure ε) Http.Response}
    (ran : (commandResponse services device).run middle = (result, after)) :
    (∃ fault, (services.takeCommands device 1).run middle = (.error fault, after) ∧
        result = .error (.service fault)) ∨
      ∃ payloads, (services.takeCommands device 1).run middle = (.ok payloads, after) ∧
        ((∃ text, Http.payloadText (payloads.getLast?.getD .null) = some text ∧
            result = .ok (.plain 200 text)) ∨
          Http.payloadText (payloads.getLast?.getD .null) = none ∧
            result = .error .unencodable) := by
  rcases Action.run_bind_cases ran with ⟨failure, failed, rfl⟩ | ⟨payloads, reached, taken, done⟩
  · rcases Action.run_call_cases failed with ⟨fault, called, same⟩ | ⟨_, _, same⟩
    · cases same
      exact .inl ⟨fault, called, rfl⟩
    · cases same
  · rcases Action.run_call_cases taken with ⟨_, _, same⟩ | ⟨value, called, same⟩
    · cases same
    · cases same
      cases written : Http.payloadText (payloads.getLast?.getD .null) with
      | some text =>
        rw [written] at done
        cases done
        exact .inr ⟨payloads, called, .inl ⟨text, written, rfl⟩⟩
      | none =>
        rw [written] at done
        cases done
        exact .inr ⟨payloads, called, .inr ⟨written, rfl⟩⟩

/-- Decoding of parameters ends in one of the ways in which decoding ends. -/
theorem decodeFields_ending (follow : services.Follow step) (decoder : Decoder) (clock : Clock)
    (remote : Option String) (fields : List Http.Field) {state after : σ}
    {result : Except (Failure ε) Decoded}
    (ran : (decodeFields decoder clock services remote fields).run state = (result, after)) :
    Ending services step state false result after := by
  have walks := follows_handleAll follow decoder clock.zone remote {} fields
  rcases Action.run_bind_cases ran with ⟨failure, failed, rfl⟩ | ⟨found, middle, walk, rest⟩
  · exact .failed (walks.reaches failed)
  have walked := walks.reaches walk
  cases found with
  | none =>
    cases rest
    exact .refused walked
  | some draft =>
    have locates := follows_locate follow decoder.protocol clock.now draft
    rcases Action.run_bind_cases rest with ⟨failure, failed, rfl⟩ | ⟨position, ready, place, last⟩
    · exact .failed (walked.trans (locates.reaches failed))
    have located := locates.reaches place
    by_cases nobody : draft.device = 0
    · simp only [nobody, if_pos] at last
      cases last
      exact .refused (walked.trans located)
    · simp only [nobody, if_false] at last
      have reached := walked.trans located
      rcases Action.run_bind_cases last with
        ⟨failure, failed, rfl⟩ | ⟨response, done, answer, final⟩
      · rcases run_commandResponse_cases failed with
          ⟨fault, taken, same⟩ | ⟨payloads, taken, ⟨_, _, same⟩ | ⟨torn, same⟩⟩
        · cases same
          exact .untaken nobody reached taken
        · cases same
        · cases same
          exact .unsent nobody reached taken torn
      · rcases run_commandResponse_cases answer with
          ⟨_, _, same⟩ | ⟨payloads, taken, ⟨text, written, same⟩ | ⟨_, same⟩⟩
        · cases same
        · cases same
          cases final
          exact .parameters (deviceId_of_run_locate place) nobody reached taken written
        · cases same

/-- A rejection that may stop decoding changes nothing. -/
theorem run_orReject_bind_cases {α β : Type} {checked : Except Rejection α}
    {next : α → Action (Failure ε) σ β} {state after : σ} {result : Except (Failure ε) β}
    (ran : (orReject checked >>= next : Action (Failure ε) σ β).run state = (result, after)) :
    (∃ rejection, result = .error (.rejected rejection) ∧ after = state) ∨
      ∃ value, checked = .ok value ∧ (next value).run state = (result, after) := by
  rw [Action.run_bind, Action.run_orReject] at ran
  cases checked with
  | error rejection =>
    cases ran
    exact .inl ⟨rejection, rfl, rfl⟩
  | ok value => exact .inr ⟨value, rfl, ran⟩

/-- What is read is not rejected where a sequence succeeds. -/
theorem run_orReject_bind_ok {α β : Type} {checked : Except Rejection α}
    {next : α → Action (Failure ε) σ β} {state after : σ} {result : β}
    (ran : (orReject checked >>= next : Action (Failure ε) σ β).run state = (.ok result, after)) :
    ∃ value, checked = .ok value ∧ (next value).run state = (.ok result, after) := by
  rcases run_orReject_bind_cases ran with ⟨_, failed, -⟩ | passed
  · cases failed
  · exact passed

/-- Decoding of a document ends in one of the ways in which decoding ends. -/
theorem decodeDocument_ending (follow : services.Follow step) (decoder : Decoder) (clock : Clock)
    (remote : Option String) (document : Json.Members) {state after : σ}
    {result : Except (Failure ε) Decoded}
    (ran : (decodeDocument decoder clock services remote document).run state = (result, after)) :
    Ending services step state true result after := by
  rcases run_orReject_bind_cases ran with ⟨_, rfl, rfl⟩ | ⟨identifier, -, ran⟩
  · exact .failed .refl
  have looks := Action.follows_call (follow.findDevice decoder.protocol remote [identifier])
  rcases Action.run_bind_cases ran with ⟨failure, failed, rfl⟩ | ⟨found, middle, look, ran⟩
  · exact .failed (looks.reaches failed)
  have looked := looks.reaches look
  cases found with
  | none =>
    cases ran
    exact .unknown (Action.run_call_ok look)
  | some device =>
    rcases run_orReject_bind_cases ran with ⟨_, rfl, rfl⟩ | ⟨location, -, ran⟩
    · exact .failed looked
    -- Whatever position the coordinates lead to, the attributes come last and call no service.
    have conclude : ∀ (position : Position) {reached : σ}, position.deviceId = .int device →
        ReflTransGen step state reached →
        (do
          let attributes ← orReject (readExtras location)
          pure ⟨some { position with attributes := .object attributes }, .plain 200 ""⟩ :
            Action (Failure ε) σ Decoded).run reached = (result, after) →
        Ending services step state true result after := by
      intro position reached own followed last
      rcases run_orReject_bind_cases last with ⟨_, rfl, rfl⟩ | ⟨attributes, -, last⟩
      · exact .failed followed
      · cases last
        exact .document own followed
    rcases run_orReject_bind_cases ran with ⟨_, rfl, rfl⟩ | ⟨timestamp, -, ran⟩
    · exact .failed looked
    rcases run_orReject_bind_cases ran with ⟨_, rfl, rfl⟩ | ⟨time, -, ran⟩
    · exact .failed looked
    rcases run_orReject_bind_cases ran with ⟨_, rfl, rfl⟩ | ⟨coordinates, -, ran⟩
    · exact .failed looked
    cases coordinates with
    | some members =>
      rcases run_orReject_bind_cases ran with ⟨_, rfl, rfl⟩ | ⟨spot, -, ran⟩
      · exact .failed looked
      · exact conclude (spot.putInto _) rfl looked ran
    | none =>
      rcases Action.run_bind_cases ran with ⟨failure, failed, rfl⟩ | ⟨position, filled, fill, ran⟩
      · exact .failed (looked.trans ((follows_fallBack follow _ _ _).reaches failed))
      · exact conclude position (deviceId_of_run_fallBack fill)
          (looked.trans ((follows_fallBack follow _ _ _).reaches fill)) ran

/-- Reading a document needs no service. -/
theorem run_readDocument (depth : Nat) (body : List UInt8) (state : σ) :
    ∃ result, (readDocument depth body : Action (Failure ε) σ Json.Members).run state =
      (result, state) := by
  unfold readDocument
  split
  · exact ⟨_, rfl⟩
  · split <;> exact ⟨_, rfl⟩

theorem decodeJson_ending (follow : services.Follow step) (decoder : Decoder) (clock : Clock)
    (request : Http.Request) {state after : σ} {result : Except (Failure ε) Decoded}
    (ran : (decodeJson decoder clock services request).run state = (result, after)) :
    Ending services step state true result after := by
  unfold decodeJson at ran
  split at ran
  · cases ran
    exact .failed .refl
  · rename_i body kept
    obtain ⟨parsed, read⟩ := run_readDocument request.depth body state
    rcases Action.run_bind_cases ran with ⟨failure, failed, rfl⟩ | ⟨document, begun, parse, ran⟩
    · rw [read] at failed
      cases failed
      exact .failed .refl
    · rw [read] at parse
      cases parse
      exact decodeDocument_ending follow decoder clock request.remote document ran

/-- Decoding ends in one of the ways in which decoding ends, whatever the services are. -/
theorem decode_ending (follow : services.Follow step) (decoder : Decoder) (clock : Clock)
    (request : Http.Request) {state after : σ} {result : Except (Failure ε) Decoded}
    (ran : (decode decoder clock services request).run state = (result, after)) :
    Ending services step state (isJson request) result after := by
  unfold decode at ran
  split at ran
  · rename_i json
    rw [json]
    exact decodeJson_ending follow decoder clock request ran
  · rename_i plain
    rw [Bool.eq_false_iff.mpr plain]
    unfold decodeQuery at ran
    split at ran
    · cases ran
      exact .failed .refl
    · exact decodeFields_ending follow decoder clock request.remote _ ran

end Telematics.Report
