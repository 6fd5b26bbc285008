import Telematics.Proofs.Report.Acceptance

/-!
Which failures the parts of decoding may have. What fails of its own is a parameter that is rejected
and a payload that cannot be sent; the services add the faults that they may have.

* `Action.FailsOnly`: the failures that an action may have, with one lemma for each way in which
  actions are put together.
* `Services.FailOnly`: the failures that the services may lead to. `Services.NeverFail`: services of
  which none ever fails.
* `Malformed`: one of the parameters is rejected. `failsOnly_decodeFields`: the failures of decoding
  parameters. `requestFields_error_cases`, `failsOnly_readDocument`: those of reading a request.
-/

namespace Telematics.Report

open Calendar (Clock Moment)

/-! ## Failures of actions -/

namespace Action

variable {ε σ α β : Type}

/-- Every failure of an action is one of those that it may have. -/
def FailsOnly (may : ε → Prop) (action : Action ε σ α) : Prop :=
  ∀ state fault after, action.run state = (.error fault, after) → may fault

variable {may : ε → Prop}

theorem failsOnly_pure (value : α) : FailsOnly may (pure value : Action ε σ α) := nofun

theorem failsOnly_throw {fault : ε} (allowed : may fault) :
    FailsOnly may (throw fault : Action ε σ α) := by
  intro state _ after ran
  cases ran
  exact allowed

theorem failsOnly_bind {action : Action ε σ α} {next : α → Action ε σ β}
    (first : action.FailsOnly may) (rest : ∀ value, (next value).FailsOnly may) :
    FailsOnly may (action >>= next) := by
  intro state fault after ran
  rcases run_bind_cases ran with ⟨_, failed, same⟩ | ⟨value, middle, -, failed⟩
  · cases same
    exact first _ _ _ failed
  · exact rest value _ _ _ failed

/-- A service leads to the failures that its faults are. -/
theorem failsOnly_call {may : Failure ε → Prop} {action : Action ε σ α}
    (faults : action.FailsOnly fun fault => may (.service fault)) :
    FailsOnly may (call action) := by
  intro state failure after ran
  rcases run_call_cases ran with ⟨fault, called, same⟩ | ⟨_, _, same⟩
  · cases same
    exact faults _ _ _ called
  · cases same

theorem failsOnly_adapt {φ : Type} {may : φ → Prop} {rename : ε → φ} {action : Action ε σ α}
    (faults : action.FailsOnly fun fault => may (rename fault)) :
    FailsOnly may (ExceptT.adapt rename action : Action φ σ α) := by
  intro state failure after ran
  rcases run_adapt_cases ran with ⟨fault, failed, same⟩ | ⟨_, _, same⟩
  · cases same
    exact faults _ _ _ failed
  · cases same

theorem failsOnly_orReject {may : Failure ε → Prop} {checked : Except Rejection α}
    (refused : ∀ rejection, checked = .error rejection → may (.rejected rejection)) :
    FailsOnly may (orReject checked : Action (Failure ε) σ α) := by
  intro state failure after ran
  rw [run_orReject] at ran
  cases checked with
  | error rejection =>
    cases ran
    exact refused rejection rfl
  | ok value => cases ran

end Action

/-- Every fault of a service is one of those that it may have. -/
structure Services.FailOnly {ε σ : Type} (services : Services ε σ) (may : ε → Prop) : Prop where
  findDevice : ∀ protocol remote identifiers,
    (services.findDevice protocol remote identifiers).FailsOnly may
  registerToken : ∀ device token, (services.registerToken device token).FailsOnly may
  lastPosition : ∀ device, (services.lastPosition device).FailsOnly may
  takeCommands : ∀ device count, (services.takeCommands device count).FailsOnly may

/-- Services of which none ever fails. -/
abbrev Services.NeverFail {ε σ : Type} (services : Services ε σ) : Prop :=
  services.FailOnly fun _ => False

theorem Services.FailOnly.mono {ε σ : Type} {services : Services ε σ} {may others : ε → Prop}
    (faults : services.FailOnly may) (looser : ∀ fault, may fault → others fault) :
    services.FailOnly others where
  findDevice protocol remote identifiers _ _ _ failed :=
    looser _ (faults.findDevice protocol remote identifiers _ _ _ failed)
  registerToken device token _ _ _ failed :=
    looser _ (faults.registerToken device token _ _ _ failed)
  lastPosition device _ _ _ failed := looser _ (faults.lastPosition device _ _ _ failed)
  takeCommands device count _ _ _ failed := looser _ (faults.takeCommands device count _ _ _ failed)

theorem Services.failOnly_true {ε σ : Type} (services : Services ε σ) :
    services.FailOnly fun _ => True where
  findDevice _ _ _ _ _ _ _ := trivial
  registerToken _ _ _ _ _ _ := trivial
  lastPosition _ _ _ _ _ := trivial
  takeCommands _ _ _ _ _ _ := trivial

/-! ## Parameters -/

/-- One of the parameters is rejected, for the cause for which its value cannot be read. -/
inductive Malformed {ε : Type} (decoder : Decoder) (zone : Calendar.Zone)
    (fields : List Http.Field) : Failure ε → Prop where
  | at {key value : String} {cause : Cause} :
      (key, value) ∈ fields → readEntry decoder zone key value = .error cause →
      Malformed decoder zone fields (.rejected (.malformedParameter key value cause))

section FailOnly

open Report.Action

variable {ε σ : Type} {services : Services ε σ} {may : Failure ε → Prop}
  (faults : services.FailOnly fun fault => may (.service fault)) (decoder : Decoder)
  (zone : Calendar.Zone)

include faults

theorem failsOnly_handle (remote : Option String) (draft : Draft) (entry : Entry) :
    (handle decoder services remote draft entry).FailsOnly may := by
  cases entry with
  | identifier text =>
    refine failsOnly_bind (failsOnly_call (faults.findDevice _ _ _)) fun found => ?_
    cases found <;> exact failsOnly_pure _
  | token text =>
    simp only [handle]
    split
    · exact failsOnly_bind (failsOnly_call (faults.registerToken _ _)) fun _ => failsOnly_pure _
    · exact failsOnly_pure _
  | detail detail => exact failsOnly_pure _

theorem failsOnly_handleField (remote : Option String) (draft : Draft) (key value : String)
    (entry : Entry)
    (blames : ∀ fault, may (.service fault) →
      may ((Failure.service fault).blame services.complaint? key value)) :
    (handleField decoder services remote draft key value entry).FailsOnly may :=
  failsOnly_adapt (failsOnly_handle (faults.mono blames) decoder remote draft entry)

theorem failsOnly_handleAll (remote : Option String) {fields : List Http.Field} (draft : Draft)
    (malformed : ∀ failure, Malformed decoder zone fields failure → may failure)
    (blames : ∀ key value fault, may (.service fault) →
      may ((Failure.service fault).blame services.complaint? key value)) :
    (handleAll decoder zone services remote draft fields).FailsOnly may := by
  induction fields generalizing draft with
  | nil => exact failsOnly_pure _
  | cons field rest ih =>
    obtain ⟨key, value⟩ := field
    refine failsOnly_bind (failsOnly_orReject fun rejection refused => ?_) fun entry =>
      failsOnly_bind (failsOnly_handleField faults decoder remote draft key value entry
        (blames key value)) fun next => ?_
    · cases unread : readEntry decoder zone key value with
      | ok entry =>
        rw [unread] at refused
        cases refused
      | error cause =>
        rw [unread] at refused
        cases refused
        exact malformed _ (.at List.mem_cons_self unread)
    · cases next with
      | none => exact failsOnly_pure _
      | some next =>
        -- What is rejected among the others is one of all the parameters.
        refine ih next fun _ ⟨among, unread⟩ => ?_
        exact malformed _ (.at (List.mem_cons_of_mem _ among) unread)

theorem failsOnly_fallBack (device : Int) (position : Position) (deviceTime : Moment) :
    (fallBack services device position deviceTime).FailsOnly may := by
  unfold fallBack
  split
  · exact failsOnly_pure _
  · exact failsOnly_bind (failsOnly_call (faults.lastPosition _)) fun _ => failsOnly_pure _

theorem failsOnly_locate (protocol : Json) (now : Moment) (draft : Draft) :
    (draft.locate protocol services now).FailsOnly may := by
  unfold Draft.locate
  split
  · exact failsOnly_pure _
  · exact failsOnly_fallBack faults _ _ _

theorem failsOnly_commandResponse (unsendable : may .unencodable) (device : Int) :
    (commandResponse services device).FailsOnly may := by
  refine failsOnly_bind (failsOnly_call (faults.takeCommands _ _)) fun payloads => ?_
  split
  · exact failsOnly_pure _
  · exact failsOnly_throw unsendable

/-- Parameters fail by being rejected, or by a payload that cannot be sent. -/
theorem failsOnly_decodeFields (clock : Clock) (remote : Option String)
    {fields : List Http.Field}
    (malformed : ∀ failure, Malformed decoder clock.zone fields failure → may failure)
    (blames : ∀ key value fault, may (.service fault) →
      may ((Failure.service fault).blame services.complaint? key value))
    (unsendable : may .unencodable) :
    (decodeFields decoder clock services remote fields).FailsOnly may := by
  refine failsOnly_bind (failsOnly_handleAll faults decoder _ _ _ malformed blames) fun found => ?_
  cases found with
  | none => exact failsOnly_pure _
  | some draft =>
    refine failsOnly_bind (failsOnly_locate faults _ _ _) fun position => ?_
    split
    · exact failsOnly_pure _
    · exact failsOnly_bind (failsOnly_commandResponse faults unsendable _) fun _ =>
        failsOnly_pure _

end FailOnly

/-! ## Requests -/

variable {ε : Type} {request : Http.Request}

/-- The parameters of a request cannot be read if it is beyond a limit. -/
theorem requestFields_error_cases {failure : Failure ε}
    (read : requestFields request = .error failure) :
    failure = .tooManyFields ∨ failure = .bodyTooLong := by
  have limited_cases : ∀ {fields : Except Http.FormFault (List Http.Field)},
      limited fields = .error failure → failure = .tooManyFields := by
    intro fields refused
    cases fields <;> cases refused
    rfl
  unfold requestFields at read
  cases kept : (limited request.fields : Except (Failure ε) _) with
  | error fault =>
    rw [kept] at read
    cases read
    exact .inl (limited_cases kept)
  | ok known =>
    rw [kept] at read
    dsimp only [bind, Except.bind] at read
    split at read
    · exact .inl (limited_cases read)
    · cases read
      exact .inr rfl
    · cases read

/-- A document that cannot be read is rejected, or nested too deeply. -/
theorem failsOnly_readDocument {σ : Type} {may : Failure ε → Prop} (depth : Nat)
    (body : List UInt8) (rejected : ∀ rejection, may (.rejected rejection))
    (tooDeep : may .tooDeep) :
    (readDocument depth body : Action (Failure ε) σ Json.Members).FailsOnly may := by
  unfold readDocument
  split
  · exact Action.failsOnly_throw (rejected _)
  · split
    · exact Action.failsOnly_pure _
    · exact Action.failsOnly_throw (rejected _)
    · exact Action.failsOnly_throw tooDeep
    · exact Action.failsOnly_throw (rejected _)

end Telematics.Report
