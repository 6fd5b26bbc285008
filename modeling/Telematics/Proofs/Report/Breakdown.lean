import Telematics.Proofs.Report.Failing

/-!
Decoding that breaks down. A report that says something wrong is rejected, which is an answer. It is
none if a document is nested too deeply to be read, if a service fails where a device is looked for
or a token is kept, or if the command that waits for the device cannot be sent. A service that
complains of the value of a parameter is no failure of this kind: the parameter is rejected.

* `Failure.isFatal`: the failures that are no answer.
* `Halting`: a service fails where what a parameter says is handled.
* `Breakdown`: how decoding breaks down. `decode_isFatal_iff`: it ends in a fatal failure if it
  breaks down, for services that always find the last position and the commands of a device.
-/

namespace Telematics.Report

open Calendar (Clock Moment)

variable {ε σ : Type} {services : Services ε σ} {decoder : Decoder} {state after : σ}

/-- A failure is no answer: nothing is wrong with what the report says. -/
def Failure.isFatal : Failure ε → Bool
  | .tooDeep | .unencodable | .service _ => true
  | .rejected _ | .tooManyFields | .bodyTooLong => false

/-! ## Parameters -/

/-- A service fails where what a parameter says is handled, and it does not complain of the
    parameter. -/
inductive Halting (services : Services ε σ) (decoder : Decoder) (remote : Option String)
    (draft : Draft) (state : σ) : Entry → Prop where
  | search {text : String} {fault : ε} {after : σ} :
      (services.findDevice decoder.protocol remote [text]).run state = (.error fault, after) →
      services.complaint? fault = none →
      Halting services decoder remote draft state (.identifier text)
  | token {text : String} {fault : ε} {after : σ} :
      draft.device ≠ 0 →
      (services.registerToken draft.device text).run state = (.error fault, after) →
      services.complaint? fault = none →
      Halting services decoder remote draft state (.token text)

section Parameters

variable {remote : Option String} {draft : Draft} {entry : Entry} {zone : Calendar.Zone}
  {key value : String}

/-- Handling fails only where a service does. -/
theorem halting_of_handle {failure : Failure ε}
    (ran : (handle decoder services remote draft entry).run state = (.error failure, after)) :
    ∃ fault, failure = .service fault ∧
      (services.complaint? fault = none → Halting services decoder remote draft state entry) := by
  cases entry with
  | identifier text =>
    rcases Action.run_bind_cases ran with ⟨_, failed, same⟩ | ⟨device, _, _, done⟩
    · rcases Action.run_call_cases failed with ⟨fault, called, wrapped⟩ | ⟨_, _, wrapped⟩
      · cases same
        cases wrapped
        exact ⟨fault, rfl, .search called⟩
      · cases wrapped
    · cases device <;> cases done
  | token text =>
    simp only [handle] at ran
    split at ran
    · rename_i named
      rcases Action.run_bind_cases ran with ⟨_, failed, same⟩ | ⟨_, _, _, done⟩
      · rcases Action.run_call_cases failed with ⟨fault, called, wrapped⟩ | ⟨_, _, wrapped⟩
        · cases same
          cases wrapped
          exact ⟨fault, rfl, .token named called⟩
        · cases wrapped
      · cases done
    · cases ran
  | detail detail => cases ran

/-- A parameter is rejected if a service complains of it, and fails fatally if one just fails. -/
theorem halting_of_handleField {failure : Failure ε}
    (ran : (handleField decoder services remote draft key value entry).run state =
      (.error failure, after)) (fatal : failure.isFatal = true) :
    Halting services decoder remote draft state entry := by
  rcases Action.run_adapt_cases ran with ⟨_, failed, same⟩ | ⟨_, _, same⟩
  · obtain ⟨fault, rfl, halting⟩ := halting_of_handle failed
    cases same
    refine halting ?_
    cases spoken : services.complaint? fault with
    | none => rfl
    | some complaint =>
      rw [Failure.blame, spoken] at fatal
      cases fatal
  · cases same

/-- A service that fails is all that comes of a sequence. -/
theorem run_call_bind_error {α β : Type} {action : Action ε σ α} {next : α → Action (Failure ε) σ β}
    {fault : ε} (called : action.run state = (.error fault, after)) :
    (call action >>= next).run state = (.error (.service fault), after) := by
  rw [Action.run_bind, Action.run_call, called]

/-- A service that fails without a complaint is all that comes of a parameter. -/
theorem run_handleField_of_silent {fault : ε} (silent : services.complaint? fault = none)
    (failed : (handle decoder services remote draft entry).run state =
      (.error (.service fault), after)) :
    (handleField decoder services remote draft key value entry).run state =
      (.error (.service fault), after) := by
  rw [handleField, Action.run_adapt, failed]
  show (Except.error (Failure.blame services.complaint? key value (.service fault)), after) = _
  rw [Failure.blame, silent]

theorem Halting.run (halting : Halting services decoder remote draft state entry) :
    ∃ fault after, (handleField decoder services remote draft key value entry).run state =
      (.error (.service fault), after) := by
  cases halting with
  | search called silent =>
    exact ⟨_, _, run_handleField_of_silent silent (run_call_bind_error called)⟩
  | @token text fault after named called silent =>
    refine ⟨fault, after, run_handleField_of_silent silent ?_⟩
    simp only [handle, ne_eq, named, not_false_eq_true, if_true]
    exact run_call_bind_error called

theorem Handling.run {next : Option Draft}
    (handling : Handling services decoder remote draft state entry next after) :
    (handleField decoder services remote draft key value entry).run state = (.ok next, after) := by
  have handled : (handle decoder services remote draft entry).run state = (.ok next, after) := by
    cases handling with
    | found looked => simp only [handle, Action.run_bind, Action.run_call, looked]; rfl
    | unknown looked => simp only [handle, Action.run_bind, Action.run_call, looked]; rfl
    | registered named kept =>
      simp only [handle, ne_eq, named, not_false_eq_true, if_true, Action.run_bind, Action.run_call,
        kept]
      rfl
    | skipped unnamed =>
      simp only [handle, ne_eq, unnamed, not_true_eq_false, if_false]
      rfl
    | said => rfl
  rw [handleField, Action.run_adapt, handled]
  rfl

/-- One parameter is read, handled, and followed by the others. -/
theorem run_handleAll_cons {rest : List Http.Field}
    (read : readEntry decoder zone key value = .ok entry) :
    (handleAll decoder zone services remote draft ((key, value) :: rest)).run state =
      match (handleField decoder services remote draft key value entry).run state with
      | (.ok (some next), middle) =>
        (handleAll decoder zone services remote next rest).run middle
      | (.ok none, middle) => (.ok none, middle)
      | (.error failure, middle) => (.error failure, middle) := by
  rw [handleAll, read]
  show (handleField decoder services remote draft key value entry >>= _).run state = _
  rw [Action.run_bind]
  rcases (handleField decoder services remote draft key value entry).run state with
    ⟨_ | _ | _, _⟩ <;> rfl

/-- Parameters that are handled up to some draft leave the others to be handled. -/
theorem Walk.run_append {front : List Http.Field} {last : Draft}
    (walk : Walk services decoder zone remote state draft front last after)
    (back : List Http.Field) :
    (handleAll decoder zone services remote draft (front ++ back)).run state =
      (handleAll decoder zone services remote last back).run after := by
  induction walk with
  | done => rfl
  | step read handling _ ih =>
    rw [List.cons_append, run_handleAll_cons read, handling.run]
    exact ih

/-- Handling parameters fails where one of them is rejected, or where a service fails for one. -/
theorem halting_of_handleAll {fields : List Http.Field} {failure : Failure ε}
    (ran : (handleAll decoder zone services remote draft fields).run state =
      (.error failure, after)) :
    failure.isFatal = false ∨ failure.isFatal = true ∧
      ∃ front key value back entry last middle, fields = front ++ (key, value) :: back ∧
        Walk services decoder zone remote state draft front last middle ∧
        readEntry decoder zone key value = .ok entry ∧
        Halting services decoder remote last middle entry := by
  induction fields generalizing draft state with
  | nil => cases ran
  | cons field rest ih =>
    obtain ⟨key, value⟩ := field
    rcases run_orReject_bind_cases ran with ⟨_, same, -⟩ | ⟨entry, checked, ran⟩
    · -- The parameter itself is rejected, which is no fatal failure.
      cases same
      exact .inl rfl
    rw [mapError_eq_ok_iff] at checked
    rcases Action.run_bind_cases ran with ⟨_, failed, same⟩ | ⟨next, middle, handled, ran⟩
    · cases same
      cases fatal : failure.isFatal with
      | false => exact .inl rfl
      | true =>
        have halting := halting_of_handleField failed fatal
        exact .inr ⟨rfl, [], key, value, rest, entry, draft, state, rfl, .done, checked, halting⟩
    · cases next with
      | none => cases ran
      | some next =>
        rcases ih ran with mild |
          ⟨fatal, front, key', value', back, entry', last, reached, rfl, walk, read, halting⟩
        · exact .inl mild
        · exact .inr ⟨fatal, (key, value) :: front, key', value', back, entry', last, reached, rfl,
            .step checked (handleField_handling handled) walk, read, halting⟩

end Parameters

/-! ## Reports -/

/-- How decoding breaks down. -/
inductive Breakdown (services : Services ε σ) (decoder : Decoder) (clock : Clock)
    (request : Http.Request) (state : σ) : Prop where
  /-- The document is nested too deeply. -/
  | nested {body : List UInt8} {text : List Char} :
      isJson request = true → request.body? = some body → Text.readUtf8 body = .ok text →
      Json.parse false request.depth text = .error .tooDeep →
      Breakdown services decoder clock request state
  /-- A service fails for the device of the document. -/
  | document {document : Json.Members} {identifier : Letters} {fault : ε} {after : σ} :
      isJson request = true → document? request = some document →
      readIdentifier document = .ok identifier →
      (services.findDevice decoder.protocol request.remote [identifier]).run state =
        (.error fault, after) →
      Breakdown services decoder clock request state
  /-- A service fails for one of the parameters, after those before it have been handled. -/
  | parameter {front back : List Http.Field} {key value : String} {entry : Entry} {draft : Draft}
      {middle : σ} :
      isJson request = false → parameters? request = some (front ++ (key, value) :: back) →
      Walk services decoder clock.zone request.remote state {} front draft middle →
      readEntry decoder clock.zone key value = .ok entry →
      Halting services decoder request.remote draft middle entry →
      Breakdown services decoder clock request state
  /-- The command that is taken for the parameters cannot be sent. -/
  | unsendable {fields : List Http.Field} {draft : Draft} {position : Position}
      {payloads : List Json} {middle located after : σ} :
      isJson request = false → parameters? request = some fields →
      Walk services decoder clock.zone request.remote state {} fields draft middle →
      draft.device ≠ 0 →
      (draft.locate decoder.protocol services clock.now).run middle = (.ok position, located) →
      (services.takeCommands draft.device 1).run located = (.ok payloads, after) →
      Http.payloadText (payloads.getLast?.getD .null) = none →
      Breakdown services decoder clock request state

/-- The last position and the commands of a device are always found. -/
structure Services.Obliging (services : Services ε σ) : Prop where
  lastPosition : ∀ device state, ∃ last after,
    (services.lastPosition device).run state = (.ok last, after)
  takeCommands : ∀ device count state, ∃ payloads after,
    (services.takeCommands device count).run state = (.ok payloads, after)

section Obliging

variable (obliging : services.Obliging) {clock : Clock} {request : Http.Request}
  {failure : Failure ε}

include obliging

theorem fallBack_ne_error {device : Int} {position : Position} {time : Moment} :
    (fallBack services device position time).run state ≠ (.error failure, after) := by
  intro ran
  unfold fallBack at ran
  split at ran
  · cases ran
  · obtain ⟨last, middle, looked⟩ := obliging.lastPosition device state
    rw [Action.run_bind, Action.run_call, looked] at ran
    cases ran

theorem locate_ne_error {protocol : Json} {now : Moment} {draft : Draft} :
    (draft.locate protocol services now).run state ≠ (.error failure, after) := by
  intro ran
  unfold Draft.locate at ran
  split at ran
  · cases ran
  · exact fallBack_ne_error obliging ran

theorem decodeFields_breakdown {fields : List Http.Field} (plain : isJson request = false)
    (known : parameters? request = some fields)
    (ran : (decodeFields decoder clock services request.remote fields).run state =
      (.error failure, after)) (fatal : failure.isFatal = true) :
    Breakdown services decoder clock request state := by
  rcases Action.run_bind_cases ran with ⟨_, failed, same⟩ | ⟨found, middle, handled, ran⟩
  · cases same
    rcases halting_of_handleAll failed with mild |
      ⟨-, front, key, value, back, entry, last, middle, rfl, walk, read, halting⟩
    · rw [fatal] at mild
      cases mild
    · exact .parameter plain known walk read halting
  cases found with
  | none => cases ran
  | some draft =>
    rcases Action.run_bind_cases ran with ⟨_, failed, same⟩ | ⟨place, located, placed, ran⟩
    · exact absurd failed (locate_ne_error obliging)
    -- The last place and the commands are always found, so the command is what is left to fail.
    by_cases nobody : draft.device = 0
    · simp only [nobody, if_pos] at ran
      cases ran
    · simp only [nobody, if_false] at ran
      obtain ⟨payloads, reached, taken⟩ := obliging.takeCommands draft.device 1 located
      rcases Action.run_bind_cases ran with ⟨_, failed, -⟩ | ⟨_, _, _, done⟩
      · rcases run_commandResponse_cases failed with
          ⟨_, untaken, -⟩ | ⟨_, given, ⟨_, -, same⟩ | ⟨unsendable, -⟩⟩
        · rw [taken] at untaken
          cases untaken
        · cases same
        · exact .unsendable plain known (handleAll_walk handled) nobody placed given unsendable
      · cases done

omit obliging in
/-- What is read before a fatal failure is not what is rejected. -/
theorem run_orReject_bind_fatal {α β : Type} {part : Except Rejection α}
    {next : α → Action (Failure ε) σ β}
    (ran : (orReject part >>= next).run state = (.error failure, after))
    (fatal : failure.isFatal = true) :
    ∃ value, (next value).run state = (.error failure, after) := by
  rcases run_orReject_bind_cases ran with ⟨_, same, -⟩ | ⟨value, -, ran⟩
  · cases same
    cases fatal
  · exact ⟨value, ran⟩

theorem decodeDocument_breakdown {document : Json.Members} (json : isJson request = true)
    (known : document? request = some document)
    (ran : (decodeDocument decoder clock services request.remote document).run state =
      (.error failure, after)) (fatal : failure.isFatal = true) :
    Breakdown services decoder clock request state := by
  rcases run_orReject_bind_cases ran with ⟨_, same, -⟩ | ⟨identifier, named, ran⟩
  · cases same
    cases fatal
  rcases Action.run_bind_cases ran with ⟨_, failed, same⟩ | ⟨found, middle, -, ran⟩
  · rcases Action.run_call_cases failed with ⟨fault, called, -⟩ | ⟨_, _, wrapped⟩
    · exact .document json known named called
    · cases wrapped
  cases found with
  | none => cases ran
  | some device =>
    -- Nothing behind the device is fatal: what is read is rejected at most.
    obtain ⟨location, ran⟩ := run_orReject_bind_fatal ran fatal
    obtain ⟨timestamp, ran⟩ := run_orReject_bind_fatal ran fatal
    obtain ⟨time, ran⟩ := run_orReject_bind_fatal ran fatal
    obtain ⟨coords, ran⟩ := run_orReject_bind_fatal ran fatal
    cases coords with
    | some members =>
      obtain ⟨spot, ran⟩ := run_orReject_bind_fatal ran fatal
      obtain ⟨attributes, done⟩ := run_orReject_bind_fatal ran fatal
      cases done
    | none =>
      rcases Action.run_bind_cases ran with ⟨_, failed, -⟩ | ⟨filled, reached, -, ran⟩
      · exact absurd failed (fallBack_ne_error obliging)
      obtain ⟨attributes, done⟩ := run_orReject_bind_fatal ran fatal
      cases done

/-- Decoding that ends in a fatal failure breaks down. -/
theorem decode_breakdown
    (ran : (decode decoder clock services request).run state = (.error failure, after))
    (fatal : failure.isFatal = true) : Breakdown services decoder clock request state := by
  unfold decode at ran
  split at ran
  · rename_i json
    unfold decodeJson at ran
    split at ran
    · cases ran
      cases fatal
    rename_i body kept
    rcases Action.run_bind_cases ran with ⟨_, failed, same⟩ | ⟨document, middle, read, decoded⟩
    · cases same
      unfold readDocument at failed
      split at failed
      · cases failed
        cases fatal
      rename_i text read
      split at failed
      · cases failed
      · cases failed
        cases fatal
      · rename_i deep
        exact .nested json kept read deep
      · cases failed
        cases fatal
    · obtain ⟨known, rfl⟩ := document?_of_run kept read
      exact decodeDocument_breakdown obliging json known decoded fatal
  · rename_i plain
    unfold decodeQuery at ran
    split at ran
    · rename_i refused
      cases ran
      rcases requestFields_error_cases refused with rfl | rfl <;> cases fatal
    · rename_i fields read
      exact decodeFields_breakdown obliging (Bool.eq_false_iff.mpr plain)
        (parameters?_of_requestFields read) ran fatal

end Obliging

/-- A document that is there can be read from the body. -/
theorem run_readDocument_of_document? {request : Http.Request} {document : Json.Members}
    (known : document? request = some document) :
    ∃ body, request.body? = some body ∧ ∀ state : σ,
      (readDocument request.depth body : Action (Failure ε) σ Json.Members).run state =
        (.ok document, state) := by
  obtain ⟨body, kept, read⟩ := Option.bind_eq_some_iff.mp known
  refine ⟨body, kept, fun state => ?_⟩
  cases readable : Text.readUtf8 body with
  | error _ => simp [readable, Except.toOption] at read
  | ok text =>
    cases parsed : Json.parse false request.depth text with
    | error _ => simp [readable, parsed, Except.toOption] at read
    | ok value =>
      rw [readDocument, readable]
      dsimp only
      rw [parsed]
      cases value <;> simp [readable, parsed, Except.toOption] at read
      rw [read]
      rfl

theorem requestFields_of_parameters? {request : Http.Request} {fields : List Http.Field}
    (known : parameters? request = some fields) :
    ∃ listed, (requestFields request : Except (Failure ε) _) = .ok listed ∧
      fields = Http.grouped listed := by
  obtain ⟨listed, read, rfl⟩ := Option.map_eq_some_iff.mp known
  exact ⟨listed, requestFields_eq_ok (toOption_eq_some_iff.mp read), rfl⟩

/-- Decoding that breaks down ends in a fatal failure. -/
theorem Breakdown.run {clock : Clock} {request : Http.Request}
    (breakdown : Breakdown services decoder clock request state) :
    ∃ failure after, (decode decoder clock services request).run state =
      (.error failure, after) ∧ failure.isFatal = true := by
  cases breakdown with
  | @nested body text json kept read deep =>
    refine ⟨.tooDeep, state, ?_, rfl⟩
    have stuck : (readDocument request.depth body : Action (Failure ε) σ Json.Members).run state =
        (.error .tooDeep, state) := by
      rw [readDocument, read]
      dsimp only
      rw [deep]
      rfl
    rw [decode, if_pos json, decodeJson, kept]
    dsimp only
    rw [Action.run_bind, stuck]
  | @document document identifier fault reached json known named called =>
    obtain ⟨body, kept, read⟩ := run_readDocument_of_document? known
    refine ⟨.service fault, reached, ?_, rfl⟩
    rw [decode, if_pos json, decodeJson, kept]
    dsimp only
    rw [Action.run_bind, read]
    dsimp only
    rw [decodeDocument, named]
    exact run_call_bind_error called
  | @parameter front back key value entry draft middle plain known walk read halting =>
    obtain ⟨listed, fields, same⟩ := requestFields_of_parameters? known
    obtain ⟨fault, reached, stuck⟩ := halting.run
    have failed : (handleAll decoder clock.zone services request.remote {}
        (Http.grouped listed)).run state = (.error (.service fault), reached) := by
      rw [← same, walk.run_append, run_handleAll_cons read, stuck]
    refine ⟨.service fault, reached, ?_, rfl⟩
    rw [decode, if_neg (by simp [plain]), decodeQuery, fields]
    dsimp only
    rw [decodeFields, Action.run_bind, failed]
  | @unsendable _ draft position payloads middle located reached plain known walk named placed taken
      unsendable =>
    obtain ⟨listed, fields, same⟩ := requestFields_of_parameters? known
    have handled : (handleAll decoder clock.zone services request.remote {}
        (Http.grouped listed)).run state = (.ok (some draft), middle) := by
      have walked := walk.run_append []
      rw [List.append_nil, same] at walked
      exact walked
    have refused : (commandResponse services draft.device).run located =
        (.error .unencodable, reached) := by
      rw [commandResponse, Action.run_bind, Action.run_call, taken]
      dsimp only
      rw [unsendable]
      rfl
    refine ⟨.unencodable, reached, ?_, rfl⟩
    rw [decode, if_neg (by simp [plain]), decodeQuery, fields]
    dsimp only
    rw [decodeFields, Action.run_bind, handled]
    dsimp only
    rw [Action.run_bind, placed]
    dsimp only
    rw [if_neg named, Action.run_bind, refused]

/-- Decoding ends in a fatal failure if it breaks down. -/
theorem decode_isFatal_iff (obliging : services.Obliging) {clock : Clock}
    {request : Http.Request} {result : Except (Failure ε) Decoded}
    (ran : (decode decoder clock services request).run state = (result, after)) :
    (∃ failure, result = .error failure ∧ failure.isFatal = true) ↔
      Breakdown services decoder clock request state := by
  constructor
  · rintro ⟨failure, rfl, fatal⟩
    exact decode_breakdown obliging ran fatal
  · intro breakdown
    obtain ⟨failure, reached, failed, fatal⟩ := breakdown.run
    rw [ran] at failed
    cases failed
    exact ⟨failure, rfl, fatal⟩

end Telematics.Report
