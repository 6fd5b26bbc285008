import Telematics.Proofs.Report.Acceptance

/-!
Decoding in states that are alike. If the services give the same in alike states, for the devices
that the identifiers of a request can lead to, then decoding does so too, and it leads to alike
states again. Nothing is asked of the services for any other device.

* `identifiers`: the identifiers that a request names.
* `Action.Agrees`: an action gives the same in alike states, with one lemma for each way in which
  actions are put together.
* `Services.Agree`: the services do so for identifiers that are known and devices that are owned.
* `decode_agrees`: decoding does so for requests with such identifiers.
-/

namespace Telematics.Report

open Calendar (Clock Moment)

/-! ## Identifiers -/

/-- The identifiers that a request names, in the order in which they are handled. -/
def identifiers (request : Http.Request) : List Letters :=
  if isJson request then
    ((document? request).bind fun document => (readIdentifier document).toOption).toList
  else (((parameters? request).getD []).filterMap identifierOf?).map .whole

variable {ε σ α β : Type}

/-! ## Actions -/

namespace Action

/-- In alike states an action gives the same and leads to alike states. What it gives is good. -/
def Agrees (alike : σ → σ → Prop) (good : α → Prop) (action : Action ε σ α) : Prop :=
  ∀ first second, alike first second →
    (action.run first).1 = (action.run second).1 ∧
      alike (action.run first).2 (action.run second).2 ∧
      ∀ value, (action.run first).1 = .ok value → good value

variable {alike : σ → σ → Prop} {good : α → Prop} {fine : β → Prop}

theorem agrees_pure {value : α} (holds : good value) :
    Agrees alike good (pure value : Action ε σ α) := by
  intro first second related
  refine ⟨rfl, related, fun other same => ?_⟩
  cases same
  exact holds

theorem agrees_throw (fault : ε) : Agrees alike good (throw fault : Action ε σ α) :=
  fun _ _ related => ⟨rfl, related, nofun⟩

theorem agrees_bind {action : Action ε σ α} {next : α → Action ε σ β}
    (begins : action.Agrees alike good)
    (rest : ∀ value, good value → (next value).Agrees alike fine) :
    Agrees alike fine (action >>= next) := by
  intro first second related
  obtain ⟨same, reached, holds⟩ := begins first second related
  rw [run_bind, run_bind]
  generalize action.run first = one at same reached holds ⊢
  generalize action.run second = two at same reached ⊢
  obtain ⟨fault | value, middle⟩ := one
  · obtain ⟨_, other⟩ := two
    cases same
    exact ⟨rfl, reached, nofun⟩
  · obtain ⟨_, other⟩ := two
    cases same
    exact rest value (holds value rfl) middle other reached

theorem agrees_call {action : Action ε σ α} (agrees : action.Agrees alike good) :
    Agrees alike good (call action) := by
  intro first second related
  obtain ⟨same, reached, holds⟩ := agrees first second related
  rw [run_call, run_call]
  generalize action.run first = one at same reached holds ⊢
  generalize action.run second = two at same reached ⊢
  obtain ⟨fault | value, middle⟩ := one
  · obtain ⟨_, other⟩ := two
    cases same
    exact ⟨rfl, reached, nofun⟩
  · obtain ⟨_, other⟩ := two
    cases same
    refine ⟨rfl, reached, fun result given => ?_⟩
    cases given
    exact holds value rfl

theorem agrees_adapt {φ : Type} {rename : ε → φ} {action : Action ε σ α}
    (agrees : action.Agrees alike good) :
    Agrees alike good (ExceptT.adapt rename action : Action φ σ α) := by
  intro first second related
  obtain ⟨same, reached, holds⟩ := agrees first second related
  rw [run_adapt, run_adapt, same]
  exact ⟨rfl, reached, fun value given => holds value (same.trans (mapError_eq_ok_iff.mp given))⟩

theorem agrees_orReject {checked : Except Rejection α}
    (holds : ∀ value, checked = .ok value → good value) :
    Agrees alike good (orReject checked : Action (Failure ε) σ α) := by
  cases checked with
  | error rejection => exact agrees_throw _
  | ok value => exact agrees_pure (holds value rfl)

/-- What is true of everything that an action gives may be relied on. -/
theorem Agrees.strengthen {action : Action ε σ α} (agrees : action.Agrees alike fun _ => True)
    (holds : ∀ state value after, action.run state = (.ok value, after) → good value) :
    action.Agrees alike good := by
  intro first second related
  obtain ⟨same, reached, -⟩ := agrees first second related
  exact ⟨same, reached, fun value given => holds first value _ (Prod.ext given rfl)⟩

/-- An action that keeps something true of the state agrees with itself. -/
theorem agrees_self {holds : σ → Prop} {action : Action ε σ α}
    (keeps : ∀ state, holds state → holds (action.run state).2 ∧
      ∀ value, (action.run state).1 = .ok value → good value) :
    Agrees (fun first second => first = second ∧ holds first) good action := by
  rintro first _ ⟨rfl, begins⟩
  obtain ⟨lasts, given⟩ := keeps first begins
  exact ⟨rfl, ⟨rfl, lasts⟩, given⟩

end Action

/-! ## Decoding -/

/-- The services give the same in alike states, for known identifiers and the devices that these
    lead to. -/
structure Services.Agree (services : Services ε σ) (alike : σ → σ → Prop)
    (knows : Letters → Prop) (owns : Int → Prop) : Prop where
  findDevice : ∀ protocol remote identifier, knows identifier →
    (services.findDevice protocol remote [identifier]).Agrees alike
      fun found => ∀ device, found = some device → owns device
  registerToken : ∀ device token, owns device →
    (services.registerToken device token).Agrees alike fun _ => True
  lastPosition : ∀ device, owns device →
    (services.lastPosition device).Agrees alike fun _ => True
  takeCommands : ∀ device count, owns device →
    (services.takeCommands device count).Agrees alike fun _ => True

section Agree

open Report.Action

variable {services : Services ε σ} {alike : σ → σ → Prop} {knows : Letters → Prop}
  {owns : Int → Prop} (agree : services.Agree alike knows owns)

include agree

/-- A draft of an owned device, or of none so far. -/
theorem agrees_handle (decoder : Decoder) (remote : Option String) {draft : Draft} {entry : Entry}
    (own : draft.device ≠ 0 → owns draft.device)
    (known : ∀ identifier, entry.identifier? = some identifier → knows (.whole identifier)) :
    (handle decoder services remote draft entry).Agrees alike
      fun next => ∀ draft, next = some draft → draft.device ≠ 0 → owns draft.device := by
  cases entry with
  | identifier text =>
    refine agrees_bind (agrees_call (agree.findDevice _ _ _ (known text rfl))) fun found owned => ?_
    cases found with
    | none => exact agrees_pure fun _ same => nomatch same
    | some device =>
      refine agrees_pure fun next same _ => ?_
      cases same
      exact owned device rfl
  | token text =>
    have stays : ∀ next, some draft = some next → next.device ≠ 0 → owns next.device := by
      rintro _ ⟨⟩
      exact own
    simp only [handle]
    split
    · rename_i somebody
      exact agrees_bind (agrees_call (agree.registerToken _ _ (own somebody))) fun _ _ =>
        agrees_pure stays
    · exact agrees_pure stays
  | detail detail =>
    refine agrees_pure fun next same => ?_
    cases same
    rw [device_add]
    exact own

theorem agrees_handleAll (decoder : Decoder) (zone : Calendar.Zone) (remote : Option String)
    {fields : List Http.Field} {draft : Draft} (own : draft.device ≠ 0 → owns draft.device)
    (known : ∀ identifier ∈ fields.filterMap identifierOf?, knows (.whole identifier)) :
    (handleAll decoder zone services remote draft fields).Agrees alike
      fun last => ∀ draft, last = some draft → draft.device ≠ 0 → owns draft.device := by
  induction fields generalizing draft with
  | nil =>
    refine agrees_pure fun last same => ?_
    cases same
    exact own
  | cons field rest ih =>
    obtain ⟨key, value⟩ := field
    have reads : Agrees alike (fun entry => readEntry decoder zone key value = .ok entry)
        (orReject ((readEntry decoder zone key value).mapError (.malformedParameter key value)) :
          Action (Failure ε) σ Entry) :=
      agrees_orReject fun _ read => mapError_eq_ok_iff.mp read
    refine agrees_bind reads fun entry read => ?_
    have tells := (readEntry_tells read).1
    refine agrees_bind
      (agrees_adapt (agrees_handle agree decoder remote own fun identifier said => ?_))
      fun next owned => ?_
    · exact known identifier (List.mem_filterMap.mpr ⟨_, List.mem_cons_self, tells.trans said⟩)
    · cases next with
      | none => exact agrees_pure fun _ same => nomatch same
      | some next =>
        refine ih (owned next rfl) fun identifier named => known identifier ?_
        obtain ⟨field, listed, said⟩ := List.mem_filterMap.mp named
        exact List.mem_filterMap.mpr ⟨field, List.mem_cons_of_mem _ listed, said⟩

theorem agrees_fallBack {device : Int} (position : Position) (time : Moment)
    (own : device ≠ 0 → owns device) :
    (fallBack services device position time).Agrees alike
      fun filled => filled.deviceId = position.deviceId := by
  unfold fallBack
  split
  · exact agrees_pure rfl
  · rename_i somebody
    exact agrees_bind (agrees_call (agree.lastPosition _ (own somebody))) fun last _ =>
      agrees_pure (deviceId_fillFromLast last position)

theorem agrees_locate (protocol : Json) (now : Moment) {draft : Draft}
    (own : draft.device ≠ 0 → owns draft.device) :
    (draft.locate protocol services now).Agrees alike
      fun position => position.deviceId = .int draft.device := by
  unfold Draft.locate
  split
  · exact agrees_pure rfl
  · exact agrees_fallBack agree _ _ own

/-- A result whose position, if it has one, is that of an owned device. -/
def Decoded.IsOwned (owns : Int → Prop) (decoded : Decoded) : Prop :=
  ∀ position, decoded.position = some position →
    ∃ device, owns device ∧ position.deviceId = .int device

omit agree in
theorem Decoded.isOwned_refused (status : Nat) : (Decoded.refused status).IsOwned owns :=
  fun _ same => nomatch same

theorem agrees_commandResponse {device : Int} (own : owns device) :
    (commandResponse services device).Agrees alike fun _ => True :=
  agrees_bind (agrees_call (agree.takeCommands _ _ own)) fun payloads _ => by
    cases Http.payloadText (payloads.getLast?.getD .null) with
    | some text => exact agrees_pure trivial
    | none => exact agrees_throw _

theorem agrees_decodeFields (decoder : Decoder) (clock : Clock) (remote : Option String)
    {fields : List Http.Field}
    (known : ∀ identifier ∈ fields.filterMap identifierOf?, knows (.whole identifier)) :
    (decodeFields decoder clock services remote fields).Agrees alike (Decoded.IsOwned owns) := by
  refine agrees_bind (agrees_handleAll agree decoder _ remote (absurd rfl) known)
    fun found owned => ?_
  cases found with
  | none => exact agrees_pure (Decoded.isOwned_refused 400)
  | some draft =>
    have own := owned draft rfl
    refine agrees_bind (agrees_locate agree _ _ own) fun position mine => ?_
    split
    · exact agrees_pure (Decoded.isOwned_refused 400)
    · rename_i somebody
      refine agrees_bind (agrees_commandResponse agree (own somebody)) fun response _ =>
        agrees_pure ?_
      rintro _ ⟨⟩
      exact ⟨draft.device, own somebody, mine⟩

theorem agrees_decodeDocument (decoder : Decoder) (clock : Clock) (remote : Option String)
    {document : Json.Members}
    (known : ∀ identifier, readIdentifier document = .ok identifier → knows identifier) :
    (decodeDocument decoder clock services remote document).Agrees alike
      (Decoded.IsOwned owns) := by
  refine agrees_bind (agrees_orReject known) fun identifier named => ?_
  refine agrees_bind (agrees_call (agree.findDevice _ _ _ named)) fun found owned => ?_
  cases found with
  | none => exact agrees_pure (Decoded.isOwned_refused 404)
  | some device =>
    have own := owned device rfl
    -- What is read from the document is the same in all states.
    have read : ∀ {γ : Type} (checked : Except Rejection γ),
        Agrees alike (fun _ => True) (orReject checked : Action (Failure ε) σ γ) :=
      fun checked => agrees_orReject fun _ _ => trivial
    refine agrees_bind (read _) fun location _ => ?_
    refine agrees_bind (read _) fun timestamp _ => ?_
    refine agrees_bind (read _) fun time _ => ?_
    refine agrees_bind (read _) fun coords _ => ?_
    -- Whatever position the coordinates lead to, the attributes come last and call no service.
    have conclude : ∀ position : Position, position.deviceId = .int device →
        Agrees alike (Decoded.IsOwned owns) (do
          let attributes ← orReject (readExtras location)
          pure ⟨some { position with attributes := .object attributes }, .plain 200 ""⟩ :
            Action (Failure ε) σ Decoded) := by
      intro position mine
      refine agrees_bind (read _) fun attributes _ => agrees_pure ?_
      rintro _ ⟨⟩
      exact ⟨device, own, mine⟩
    cases coords with
    | some members => exact agrees_bind (read _) fun spot _ => conclude _ rfl
    | none =>
      exact agrees_bind (agrees_fallBack agree _ _ fun _ => own) fun filled mine =>
        conclude filled mine

omit agree in
theorem agrees_readDocument (depth : Nat) (body : List UInt8) :
    (readDocument depth body : Action (Failure ε) σ Json.Members).Agrees alike fun _ => True := by
  unfold readDocument
  split
  · exact agrees_throw _
  · split
    · exact agrees_pure trivial
    all_goals exact agrees_throw _

/-- Decoding gives the same in alike states if the identifiers of the request are known. -/
theorem decode_agrees (decoder : Decoder) (clock : Clock) {request : Http.Request}
    (known : ∀ identifier ∈ identifiers request, knows identifier) :
    (decode decoder clock services request).Agrees alike (Decoded.IsOwned owns) := by
  unfold decode
  split
  · rename_i json
    unfold decodeJson
    split
    · exact agrees_throw _
    · rename_i body kept
      have reads : Agrees alike (fun document => document? request = some document)
          (readDocument request.depth body : Action (Failure ε) σ Json.Members) :=
        (agrees_readDocument request.depth body).strengthen fun _ _ _ ran =>
          (document?_of_run kept ran).1
      refine agrees_bind reads fun document read =>
        agrees_decodeDocument agree decoder clock _ fun identifier named => known identifier ?_
      rw [identifiers, if_pos json, read]
      simp [named, Except.toOption]
  · rename_i plain
    unfold decodeQuery
    split
    · exact agrees_throw _
    · rename_i fields read
      refine agrees_decodeFields agree decoder clock _ fun identifier named => known identifier ?_
      rw [identifiers, if_neg plain, parameters?_of_requestFields read]
      exact List.mem_map_of_mem named

end Agree

end Telematics.Report
