import Telematics.Proofs.Gateway.Broadcast
import Telematics.Proofs.Gateway.Effect
import Telematics.Proofs.Store.Consistency

/-!
What comes of a report. A report that is not decoded is undone, one that is refused keeps what was
done until then, and one that is accepted hands over at most one command before its position is
stored and everything is completed.

* `Handover`: what an accepted report hands over to its device.
* `Reporting`: the ways in which a report ends. `report_reporting`: a report ends in one of them.
* `report_isConsistent`: a report leaves a consistent store consistent.
-/

namespace Telematics.Gateway

open Relation (ReflTransGen)
open Report (Decoded Failure)

/-- What an accepted report hands over to its device: the response, and the gateway afterwards. -/
inductive Handover (gateway : Gateway) (device : Int) : Http.Response → Gateway → Prop where
  /-- No command is looked for. -/
  | nothing : Handover gateway device (.plain 200 "") gateway
  /-- The oldest command goes with the response. -/
  | oldest {text : String} :
      Http.payloadText (((gateway.store.takeCommands device (some 1)).1.map
        (·.value.payload)).getLast?.getD .null) = some text →
      Handover gateway device (.plain 200 text)
        { gateway with store := (gateway.store.takeCommands device (some 1)).2 }

/-- How decoding ends on the gateway, with the decoder and the gateway that it begins with. -/
def Decodes (gateway : Gateway) (request : Http.Request)
    (result : Except (Failure Fault) Decoded) (before after : Gateway) : Prop :=
  ∃ decoder, gateway.makeDecoder = .ok decoder ∧ before = { gateway with decoder := some decoder } ∧
    (Report.decode decoder gateway.clock services request).run before = (result, after)

/-- The ways in which a report ends. -/
inductive Reporting (gateway : Gateway) (request : Http.Request) :
    Outcome Http.Response → Prop where
  /-- There is no decoder for the settings. -/
  | unmade {fault : Report.UnsupportedUnit} :
      gateway.makeDecoder = .error fault →
      Reporting gateway request ⟨.error (.decoder fault), [], gateway⟩
  /-- The report cannot be decoded. All that was done is undone, but for sessions. A command that
      was taken and cannot be sent waits again. -/
  | undecoded {failure : Failure Fault} {before middle after : Gateway} :
      Decodes gateway request (.error failure) before after → ReflTransGen Effect before middle →
      Reporting gateway request ⟨failureResult failure, [], rollBack before middle⟩
  /-- The device is not known, or there is none. What was done until then stays. -/
  | refused {status : Nat} {before after : Gateway} :
      status = 404 ∧ after = before ∨ status = 400 ∧ Report.isJson request = false →
      Decodes gateway request (.ok (.refused status)) before after →
      ReflTransGen Effect before after →
      Reporting gateway request (complete before after [] (.plain status ""))
  /-- The position does not fit into the store. -/
  | unstorable {position : Position} {device : Int} {response : Http.Response}
      {before middle after : Gateway} {fault : Store.Fault} :
      position.deviceId = .int device →
      Decodes gateway request (.ok ⟨some position, response⟩) before after →
      ReflTransGen Effect before middle → Handover middle device response after →
      after.store.addPosition position = .error fault →
      Reporting gateway request ⟨.error (.store fault), [], rollBack before after⟩
  /-- The position is stored. -/
  | stored {position : Position} {device : Int} {response : Http.Response}
      {before middle after : Gateway} {stored : Store.Stored} {store : Store} :
      position.deviceId = .int device →
      Decodes gateway request (.ok ⟨some position, response⟩) before after →
      ReflTransGen Effect before middle → Handover middle device response after →
      after.store.addPosition position = .ok (stored, store) →
      Reporting gateway request
        (complete before { after with store } (after.publication stored.handedIn) response)

/-- A report whose position is decoded ends with the position stored, or with nothing done. -/
theorem finish_reporting {gateway before middle after : Gateway} {request : Http.Request}
    {position : Position} {device : Int} {response : Http.Response}
    (own : position.deviceId = .int device)
    (decodes : Decodes gateway request (.ok ⟨some position, response⟩) before after)
    (effects : ReflTransGen Effect before middle)
    (handover : Handover middle device response after) :
    Reporting gateway request (finish before after ⟨some position, response⟩) := by
  rw [finish_eq]
  dsimp only
  cases added : after.store.addPosition position with
  | ok result => exact .stored own decodes effects handover added
  | error fault => exact .unstorable own decodes effects handover added

/-- A report ends in one of the ways of reports. -/
theorem report_reporting (gateway : Gateway) (request : Http.Request) :
    Reporting gateway request (gateway.report request) := by
  unfold report
  cases made : gateway.makeDecoder with
  | error fault => exact .unmade made
  | ok decoder =>
    dsimp only
    cases ran : Report.decode decoder gateway.clock services request
        { gateway with decoder := some decoder } with
    | mk result after =>
      have decodes : Decodes gateway request result { gateway with decoder := some decoder }
          after := ⟨decoder, made, rfl, ran⟩
      have ending := Report.decode_ending services_follow_effect decoder gateway.clock request ran
      -- The ending speaks of the format of the request, which has to be a variable to split cases.
      generalize json : Report.isJson request = format at ending
      cases ending with
      | failed effects => exact .undecoded decodes effects
      | unknown looked =>
        have same := findDevice_none looked
        subst same
        exact .refused (.inl ⟨rfl, rfl⟩) decodes .refl
      | refused effects => exact .refused (.inr ⟨rfl, json⟩) decodes effects
      | document own effects => exact finish_reporting own decodes effects .nothing
      | parameters own somebody effects taken written =>
        rw [run_takeCommands] at taken
        cases taken
        exact finish_reporting own decodes effects (.oldest written)
      | unsent somebody effects taken _ =>
        rw [run_takeCommands] at taken
        cases taken
        have undone := Reporting.undecoded decodes effects
        exact undone
      | untaken somebody effects taken =>
        rw [run_takeCommands] at taken
        cases taken

@[simp] theorem store_rollBack (before after : Gateway) :
    (rollBack before after).store = before.store := rfl

theorem complete_of_consistent {before after : Gateway} {outbox : Outbox}
    {response : Http.Response} (consistent : after.store.isConsistent = true) :
    complete before after outbox response = ⟨.ok response, outbox, after⟩ := by
  rw [complete, if_pos consistent]

theorem complete_of_dangling {before after : Gateway} {outbox : Outbox}
    {response : Http.Response} (dangling : after.store.isConsistent = false) :
    complete before after outbox response =
      ⟨.error (.store .danglingReference), outbox, rollBack before after⟩ := by
  rw [complete, if_neg (by simp [dangling])]

/-- Decoding begins with the store and the sessions that are there. -/
theorem Decodes.before_eq {gateway before after : Gateway} {request : Http.Request}
    {result : Except (Failure Fault) Decoded}
    (decodes : Decodes gateway request result before after) :
    ∃ decoder, before = { gateway with decoder := some decoder } := by
  obtain ⟨decoder, -, same, -⟩ := decodes
  exact ⟨decoder, same⟩

/-- Decoding ends in one way. -/
theorem Decodes.unique {gateway before after before' after' : Gateway} {request : Http.Request}
    {result result' : Except (Failure Fault) Decoded}
    (decodes : Decodes gateway request result before after)
    (decodes' : Decodes gateway request result' before' after') :
    result = result' ∧ before = before' ∧ after = after' := by
  obtain ⟨decoder, made, rfl, ran⟩ := decodes
  obtain ⟨decoder', made', rfl, ran'⟩ := decodes'
  rw [made] at made'
  cases made'
  rw [ran] at ran'
  cases ran'
  exact ⟨rfl, rfl, rfl⟩

/-- What is done by decoding keeps the store consistent. -/
theorem effects_isConsistent {before after : Gateway} (effects : ReflTransGen Effect before after)
    (consistent : before.store.isConsistent = true) : after.store.isConsistent = true := by
  refine Store.isConsistent_of_hasDevice consistent ?_ ?_ fun id => effects_hasDevice effects
  · obtain ⟨_, _, rfl⟩ := effects_frame effects
    rfl
  · obtain ⟨_, _, rfl⟩ := effects_frame effects
    rfl

/-- A completed change is consistent, and one that is not completed is undone. -/
theorem complete_isConsistent {before after : Gateway} {outbox : Outbox}
    {response : Http.Response} (consistent : before.store.isConsistent = true) :
    (complete before after outbox response).gateway.store.isConsistent = true := by
  cases reached : after.store.isConsistent with
  | true =>
    rw [complete_of_consistent reached]
    exact reached
  | false =>
    rw [complete_of_dangling reached]
    exact consistent

/-- A report leaves a consistent store consistent. -/
theorem report_isConsistent {gateway : Gateway} {request : Http.Request}
    (consistent : gateway.store.isConsistent = true) :
    (gateway.report request).gateway.store.isConsistent = true := by
  have begins : ∀ {result before after}, Decodes gateway request result before after →
      before.store.isConsistent = true := by
    intro result before after decodes
    obtain ⟨_, rfl⟩ := decodes.before_eq
    exact consistent
  have reporting := report_reporting gateway request
  generalize gateway.report request = outcome at reporting ⊢
  cases reporting with
  | unmade _ => exact consistent
  | undecoded decodes _ =>
    rw [store_rollBack]
    exact begins decodes
  | refused _ decodes _ => exact complete_isConsistent (begins decodes)
  | unstorable _ decodes _ _ _ =>
    rw [store_rollBack]
    exact begins decodes
  | stored _ decodes _ _ _ => exact complete_isConsistent (begins decodes)

theorem status_failureResult {failure : Failure Fault} {response : Http.Response}
    (answered : failureResult failure = .ok response) : response.status = 400 := by
  cases failure <;> cases answered <;> rfl

/-- Nothing but commands is handed over. -/
theorem Handover.frame {gateway after : Gateway} {device : Int} {response : Http.Response}
    (handover : Handover gateway device response after) :
    after = gateway ∨
      ∃ ids, after = { gateway with store := gateway.store.removeCommands ids } := by
  cases handover with
  | nothing => exact .inl rfl
  | oldest => exact .inr ⟨_, rfl⟩

theorem Handover.status {gateway after : Gateway} {device : Int} {response : Http.Response}
    (handover : Handover gateway device response after) : response.status = 200 := by
  cases handover <;> rfl

/-- A completed change is answered with the response that it comes with. -/
theorem complete_answered {before after : Gateway} {outbox : Outbox}
    {response told : Http.Response}
    (answered : (complete before after outbox response).result = .ok told) : told = response := by
  cases reached : after.store.isConsistent with
  | true =>
    rw [complete_of_consistent reached] at answered
    exact (Except.ok.inj answered).symm
  | false =>
    rw [complete_of_dangling reached] at answered
    cases answered

/-- A report is answered with one of three statuses. -/
theorem report_status {gateway : Gateway} {request : Http.Request} {response : Http.Response}
    (answered : (gateway.report request).result = .ok response) :
    response.status = 200 ∨ response.status = 400 ∨ response.status = 404 := by
  have reporting := report_reporting gateway request
  generalize gateway.report request = outcome at reporting answered
  cases reporting with
  | unmade _ => cases answered
  | undecoded _ _ => exact .inr (.inl (status_failureResult answered))
  | refused status _ _ =>
    rw [complete_answered answered]
    rcases status with ⟨rfl, -⟩ | ⟨rfl, -⟩
    · exact .inr (.inr rfl)
    · exact .inr (.inl rfl)
  | unstorable _ _ _ _ _ => cases answered
  | stored _ _ _ handover _ =>
    rw [complete_answered answered]
    exact .inl handover.status

end Telematics.Gateway
