import Telematics.Proofs.Report.Conversation
import Telematics.Proofs.Report.Failing

/-!
The order in which decoding calls its services, whatever they answer. Devices are looked for and
tokens are kept first, then the last position is asked for at most once, and at the very end the
commands of the device are taken, if parameters are accepted.

* `Unsent`: a command that was asked for does not go with the response.
* `foundLast?`: the device of the newest look-up that found one.
* `Searching`, `Locating`, `Course`: how a conversation begins, how it goes on when a device is
  found, and how it ends, each with its newest exchange first.
* `decode_course`: the conversation of decoding takes such a course. `decode_unencodable_iff`: a
  payload that cannot be sent is what makes decoding fail without a fault or a rejection.
* `Disciplined`, `decode_disciplined`: which calls there may be, where they stand among the others,
  and which device they are about.
-/

namespace Telematics.Report

open Calendar (Clock Moment)

variable {ε σ α : Type}

/-! ## Courses -/

/-- The device of the newest look-up that found one. -/
def foundLast? : List (Exchange ε) → Option Int
  | [] => none
  | .findDevice _ _ _ (.ok (some device)) :: _ => some device
  | _ :: earlier => foundLast? earlier

/-- Devices are looked for, and tokens are kept of the device that was found last. -/
inductive Searching : List (Exchange ε) → Prop where
  | start : Searching []
  | looked {protocol : Json} {remote : Option String} {identifiers : List Letters}
      {answer : Except ε (Option Int)} {said : List (Exchange ε)} :
      Searching said → Searching (.findDevice protocol remote identifiers answer :: said)
  | kept {device : Int} {token : String} {answer : Except ε Unit} {said : List (Exchange ε)} :
      Searching said → foundLast? said = some device →
      Searching (.registerToken device token answer :: said)

/-- After the search a device is found, and its last position is asked for if the request does not
    carry both coordinates. -/
inductive Locating (request : Http.Request) (device : Int) : List (Exchange ε) → Prop where
  | found {said : List (Exchange ε)} :
      Searching said → foundLast? said = some device → Locating request device said
  | filled {said : List (Exchange ε)} {answer : Except ε (Option Position)} :
      Searching said → foundLast? said = some device → carriedCoordinates? request = none →
      Locating request device (.lastPosition device answer :: said)

/-- Why no command goes with the response when one was asked for: it cannot be taken, or it cannot
    be sent. -/
inductive Unsent : Except ε (List Json) → Failure ε → Prop where
  | untaken {fault : ε} : Unsent (.error fault) (.service fault)
  | unsendable {payloads : List Json} :
      Http.payloadText (payloads.getLast?.getD .null) = none → Unsent (.ok payloads) .unencodable

/-- The courses that a conversation takes, each with the result of decoding. -/
inductive Course (request : Http.Request) : Except (Failure ε) Decoded → List (Exchange ε) → Prop
    where
  /-- Nothing comes out of the search. -/
  | lost {failure : Failure ε} {said : List (Exchange ε)} :
      Searching said → failure ≠ .unencodable → Course request (.error failure) said
  /-- The search leads to no device. -/
  | refused {status : Nat} {said : List (Exchange ε)} :
      Searching said → status ≠ 200 → Course request (.ok (.refused status)) said
  /-- Nothing comes out after a device is found. -/
  | stopped {device : Int} {failure : Failure ε} {said : List (Exchange ε)} :
      Locating request device said → failure ≠ .unencodable → Course request (.error failure) said
  | document {device : Int} {position : Position} {said : List (Exchange ε)} :
      Locating request device said → position.deviceId = .int device →
      Course request (.ok ⟨some position, .plain 200 ""⟩) said
  /-- Parameters are accepted, and a command is taken at last. -/
  | parameters {device : Int} {position : Position} {text : String} {payloads : List Json}
      {said : List (Exchange ε)} :
      isJson request = false → Locating request device said → position.deviceId = .int device →
      Http.payloadText (payloads.getLast?.getD .null) = some text →
      Course request (.ok ⟨some position, .plain 200 text⟩)
        (.takeCommands device 1 (.ok payloads) :: said)
  /-- Parameters would be accepted, but the command cannot be taken or sent. -/
  | unsent {device : Int} {answer : Except ε (List Json)} {failure : Failure ε}
      {said : List (Exchange ε)} :
      isJson request = false → Locating request device said → Unsent answer failure →
      Course request (.error failure) (.takeCommands device 1 answer :: said)

/-! ## Decoding -/

/-- No service fails for a payload that cannot be sent. -/
theorem failOnly_sendable (services : Services ε σ) :
    services.FailOnly fun fault => Failure.service fault ≠ .unencodable :=
  services.failOnly_true.mono fun _ _ => nofun

theorem blame_ne_unencodable (complaint? : ε → Option String) (key value : String) (fault : ε) :
    (Failure.service fault).blame complaint? key value ≠ .unencodable := by
  rw [Failure.blame]
  cases complaint? fault <;> nofun

/-- An action that is overheard adds its exchange. -/
theorem run_overhear (exchange : Except ε α → Exchange ε) {action : Action ε σ α}
    {before after : σ × List (Exchange ε)} {answer : Except ε α}
    (ran : (overhear exchange action).run before = (answer, after)) :
    after.2 = exchange answer :: before.2 := by
  cases ran
  rfl

theorem run_call_overhear (exchange : Except ε α → Exchange ε) {action : Action ε σ α}
    {before after : σ × List (Exchange ε)} {result : Except (Failure ε) α}
    (ran : (call (overhear exchange action)).run before = (result, after)) :
    ∃ answer, result = answer.mapError .service ∧ after.2 = exchange answer :: before.2 := by
  rcases Action.run_call_cases ran with ⟨fault, called, rfl⟩ | ⟨value, called, rfl⟩
  · exact ⟨.error fault, rfl, run_overhear exchange called⟩
  · exact ⟨.ok value, rfl, run_overhear exchange called⟩

variable {decoder : Decoder} {clock : Clock} {services : Services ε σ} {request : Http.Request}
  {before after : σ × List (Exchange ε)}

/-- The device of a draft, if it has one, is the one that was found last. -/
def Draft.IsFound (draft : Draft) (said : List (Exchange ε)) : Prop :=
  draft.device ≠ 0 → foundLast? said = some draft.device

theorem handle_searching {remote : Option String} {draft : Draft} {entry : Entry}
    {result : Except (Failure ε) (Option Draft)}
    (ran : (handle decoder services.overheard remote draft entry).run before = (result, after))
    (searching : Searching before.2) (own : draft.IsFound before.2) :
    Searching after.2 ∧ ∀ next, result = .ok (some next) → next.IsFound after.2 := by
  cases entry with
  | identifier text =>
    rcases Action.run_bind_cases ran with ⟨failure, look, rfl⟩ | ⟨found, middle, look, ran⟩
    · obtain ⟨answer, -, said⟩ :=
        run_call_overhear (.findDevice decoder.protocol remote [text]) look
      rw [said]
      exact ⟨searching.looked, fun _ same => nomatch same⟩
    · obtain ⟨answer, same, said⟩ :=
        run_call_overhear (.findDevice decoder.protocol remote [text]) look
      cases found with
      | none =>
        cases ran
        rw [said]
        exact ⟨searching.looked, fun _ same => nomatch same⟩
      | some device =>
        cases ran
        rw [said]
        refine ⟨searching.looked, fun next done _ => ?_⟩
        cases mapError_eq_ok_iff.mp same.symm
        cases done
        rfl
  | token text =>
    simp only [handle] at ran
    split at ran
    · rename_i somebody
      have known := own somebody
      rcases Action.run_bind_cases ran with ⟨failure, keep, rfl⟩ | ⟨_, middle, keep, ran⟩
      · obtain ⟨answer, -, said⟩ := run_call_overhear (.registerToken draft.device text) keep
        rw [said]
        exact ⟨searching.kept known, fun _ same => nomatch same⟩
      · cases ran
        obtain ⟨answer, -, said⟩ := run_call_overhear (.registerToken draft.device text) keep
        rw [said]
        refine ⟨searching.kept known, fun next same _ => ?_⟩
        cases same
        exact known
    · cases ran
      refine ⟨searching, fun next same => ?_⟩
      cases same
      exact own
  | detail detail =>
    cases ran
    refine ⟨searching, fun next same => ?_⟩
    cases same
    unfold Draft.IsFound
    rw [device_add]
    exact own

theorem handleField_searching {remote : Option String} {draft : Draft} {key value : String}
    {entry : Entry} {result : Except (Failure ε) (Option Draft)}
    (ran : (handleField decoder services.overheard remote draft key value entry).run before =
      (result, after))
    (searching : Searching before.2) (own : draft.IsFound before.2) :
    Searching after.2 ∧ ∀ next, result = .ok (some next) → next.IsFound after.2 := by
  rcases Action.run_adapt_cases ran with ⟨_, handled, rfl⟩ | ⟨found, handled, rfl⟩
  · exact ⟨(handle_searching handled searching own).1, fun _ same => nomatch same⟩
  · obtain ⟨still, owns⟩ := handle_searching handled searching own
    refine ⟨still, fun next same => owns next ?_⟩
    cases same
    rfl

theorem handleAll_searching {remote : Option String} {fields : List Http.Field} {draft : Draft}
    {result : Except (Failure ε) (Option Draft)}
    (ran : (handleAll decoder clock.zone services.overheard remote draft fields).run before =
      (result, after))
    (searching : Searching before.2) (own : draft.IsFound before.2) :
    Searching after.2 ∧ ∀ last, result = .ok (some last) → last.IsFound after.2 := by
  induction fields generalizing draft before with
  | nil =>
    cases ran
    refine ⟨searching, fun last same => ?_⟩
    cases same
    exact own
  | cons field rest ih =>
    obtain ⟨key, value⟩ := field
    rcases run_orReject_bind_cases ran with ⟨_, rfl, rfl⟩ | ⟨entry, -, ran⟩
    · exact ⟨searching, fun _ same => nomatch same⟩
    rcases Action.run_bind_cases ran with ⟨failure, handled, rfl⟩ | ⟨next, middle, handled, ran⟩
    · exact ⟨(handleField_searching handled searching own).1, fun _ same => nomatch same⟩
    · obtain ⟨still, owns⟩ := handleField_searching handled searching own
      cases next with
      | none =>
        cases ran
        exact ⟨still, fun _ same => nomatch same⟩
      | some next => exact ih ran still (owns next rfl)

theorem fallBack_locating {device : Int} {base : Position} {time : Moment}
    {result : Except (Failure ε) Position}
    (ran : (fallBack services.overheard device base time).run before = (result, after))
    (searching : Searching before.2) (found : foundLast? before.2 = some device)
    (unplaced : carriedCoordinates? request = none) : Locating request device after.2 := by
  unfold fallBack at ran
  split at ran
  · cases ran
    exact .found searching found
  · rcases Action.run_bind_cases ran with ⟨failure, ask, -⟩ | ⟨last, middle, ask, ran⟩
    · obtain ⟨answer, -, said⟩ := run_call_overhear (.lastPosition device) ask
      rw [said]
      exact .filled searching found unplaced
    · cases ran
      obtain ⟨answer, -, said⟩ := run_call_overhear (.lastPosition device) ask
      rw [said]
      exact .filled searching found unplaced

theorem locate_locating {protocol : Json} {now : Moment} {draft : Draft}
    {result : Except (Failure ε) Position}
    (ran : (draft.locate protocol services.overheard now).run before = (result, after))
    (searching : Searching before.2) (found : foundLast? before.2 = some draft.device)
    (carried : carriedCoordinates? request = both? draft.latitude draft.longitude) :
    Locating request draft.device after.2 := by
  unfold Draft.locate at ran
  split at ran
  · cases ran
    exact .found searching found
  · rename_i missing
    refine fallBack_locating ran searching found ?_
    rw [carried]
    unfold both?
    split
    · rename_i latitude longitude one two
      exact absurd two (missing latitude longitude one)
    · rfl

/-- A draft of no device asks for no last position. -/
theorem run_locate_nobody (services : Services ε σ) (protocol : Json) (now : Moment)
    {draft : Draft} (nobody : draft.device = 0) (state : σ) :
    ∃ position, (draft.locate protocol services now).run state = (.ok position, state) := by
  unfold Draft.locate
  split
  · exact ⟨_, rfl⟩
  · unfold fallBack
    rw [if_pos nobody]
    exact ⟨_, rfl⟩

theorem decodeFields_course {fields : List Http.Field} {result : Except (Failure ε) Decoded}
    (plain : isJson request = false) (known : parameters? request = some fields)
    (ran : (decodeFields decoder clock services.overheard request.remote fields).run before =
      (result, after))
    (silent : before.2 = []) : Course request result after.2 := by
  have begins : Searching before.2 := by
    rw [silent]
    exact .start
  have malformed : ∀ failure : Failure ε, Malformed decoder clock.zone fields failure →
      failure ≠ .unencodable := by
    rintro _ ⟨_, _⟩
    nofun
  rcases Action.run_bind_cases ran with ⟨failure, handled, rfl⟩ | ⟨found, middle, handled, ran⟩
  · exact .lost (handleAll_searching handled begins (absurd rfl)).1
      (failsOnly_handleAll (failOnly_sendable _) _ _ _ _ malformed
        (fun _ _ _ _ => blame_ne_unencodable _ _ _ _) _ _ _ handled)
  obtain ⟨searching, owns⟩ := handleAll_searching handled begins (absurd rfl)
  cases found with
  | none =>
    cases ran
    exact .refused searching (by decide)
  | some draft =>
    by_cases nobody : draft.device = 0
    · obtain ⟨position, placed⟩ :=
        run_locate_nobody services.overheard decoder.protocol clock.now nobody middle
      rw [Action.run_bind, placed] at ran
      simp only [nobody, if_pos] at ran
      cases ran
      exact .refused searching (by decide)
    · have carried : carriedCoordinates? request = both? draft.latitude draft.longitude := by
        obtain ⟨latitude, longitude⟩ := (handleAll_walk handled).coordinates
        rw [carriedCoordinates?, if_neg (by simp [plain]), known, latitude, longitude]
        rfl
      have found := owns draft rfl nobody
      rcases Action.run_bind_cases ran with ⟨failure, failed, rfl⟩ | ⟨position, reached, place, ran⟩
      · have others : (draft.locate decoder.protocol services.overheard clock.now).FailsOnly
            (· ≠ .unencodable) := failsOnly_locate (failOnly_sendable _) _ _ _
        exact .stopped (locate_locating failed searching found carried) (others _ _ _ failed)
      have located := locate_locating place searching found carried
      have mine := deviceId_of_run_locate place
      simp only [nobody, if_false] at ran
      -- Taking the commands is the last thing that happens.
      rcases Action.run_bind_cases ran with ⟨failure, answer, rfl⟩ | ⟨response, done, answer, ran⟩
      · rcases run_commandResponse_cases answer with
          ⟨fault, taken, same⟩ | ⟨payloads, taken, ⟨_, -, same⟩ | ⟨unsendable, same⟩⟩
        · cases same
          rw [run_overhear (.takeCommands draft.device 1) taken]
          exact .unsent plain located .untaken
        · cases same
        · cases same
          rw [run_overhear (.takeCommands draft.device 1) taken]
          exact .unsent plain located (.unsendable unsendable)
      · rcases run_commandResponse_cases answer with
          ⟨_, _, same⟩ | ⟨payloads, taken, ⟨text, written, same⟩ | ⟨-, same⟩⟩
        · cases same
        · cases same
          cases ran
          rw [run_overhear (.takeCommands draft.device 1) taken]
          exact .parameters plain located mine written
        · cases same

theorem decodeDocument_course {document : Json.Members} {result : Except (Failure ε) Decoded}
    (json : isJson request = true) (known : document? request = some document)
    (ran : (decodeDocument decoder clock services.overheard request.remote document).run before =
      (result, after))
    (silent : before.2 = []) : Course request result after.2 := by
  have begins : Searching before.2 := by
    rw [silent]
    exact .start
  rcases run_orReject_bind_cases ran with ⟨_, rfl, rfl⟩ | ⟨identifier, -, ran⟩
  · exact .lost begins nofun
  rcases Action.run_bind_cases ran with ⟨failure, look, rfl⟩ | ⟨found, middle, look, ran⟩
  · obtain ⟨answer, failed, said⟩ :=
      run_call_overhear (.findDevice decoder.protocol request.remote [identifier]) look
    rw [said]
    refine .lost begins.looked ?_
    rintro rfl
    cases answer <;> cases failed
  obtain ⟨answer, same, said⟩ :=
    run_call_overhear (.findDevice decoder.protocol request.remote [identifier]) look
  cases mapError_eq_ok_iff.mp same.symm
  have searching : Searching middle.2 := by
    rw [said]
    exact begins.looked
  cases found with
  | none =>
    cases ran
    exact .refused searching (by decide)
  | some device =>
    have found : foundLast? middle.2 = some device := by
      rw [said]
      rfl
    rcases run_orReject_bind_cases ran with ⟨_, rfl, rfl⟩ | ⟨location, inside, ran⟩
    · exact .lost searching nofun
    rcases run_orReject_bind_cases ran with ⟨_, rfl, rfl⟩ | ⟨timestamp, -, ran⟩
    · exact .lost searching nofun
    rcases run_orReject_bind_cases ran with ⟨_, rfl, rfl⟩ | ⟨time, -, ran⟩
    · exact .lost searching nofun
    rcases run_orReject_bind_cases ran with ⟨_, rfl, rfl⟩ | ⟨coords, listed, ran⟩
    · exact .lost searching nofun
    -- Whatever position the coordinates lead to, the attributes come last and call no service.
    have conclude : ∀ (position : Position) {reached : σ × List (Exchange ε)},
        position.deviceId = .int device → Locating request device reached.2 →
        (do
          let attributes ← orReject (readExtras location)
          pure ⟨some { position with attributes := .object attributes }, .plain 200 ""⟩ :
            Action (Failure ε) (σ × List (Exchange ε)) Decoded).run reached = (result, after) →
        Course request result after.2 := by
      intro position reached mine located last
      rcases run_orReject_bind_cases last with ⟨_, rfl, rfl⟩ | ⟨attributes, -, last⟩
      · exact .stopped located nofun
      · cases last
        exact .document located mine
    cases coords with
    | some members =>
      rcases run_orReject_bind_cases ran with ⟨_, rfl, rfl⟩ | ⟨spot, -, ran⟩
      · exact .lost searching nofun
      · exact conclude (spot.putInto _) rfl (.found searching found) ran
    | none =>
      have unplaced : carriedCoordinates? request = none := by
        rw [carriedCoordinates?, if_pos json, known]
        show Option.map _ (spotOf? document) = none
        rw [spotOf?_eq inside listed]
        rfl
      rcases Action.run_bind_cases ran with ⟨failure, failed, rfl⟩ | ⟨filled, reached, fill, ran⟩
      · have others : (fallBack services.overheard device
            (documentPosition decoder.protocol clock.now device time []) clock.now).FailsOnly
            (· ≠ .unencodable) := failsOnly_fallBack (failOnly_sendable _) _ _ _
        exact .stopped (fallBack_locating failed searching found unplaced) (others _ _ _ failed)
      · exact conclude filled (deviceId_of_run_fallBack fill)
          (fallBack_locating fill searching found unplaced) ran

/-- The conversation of decoding takes one of the courses. -/
theorem decode_course {result : Except (Failure ε) Decoded}
    (ran : (decode decoder clock services.overheard request).run before = (result, after))
    (silent : before.2 = []) : Course request result after.2 := by
  have begins : Searching before.2 := by
    rw [silent]
    exact .start
  unfold decode at ran
  split at ran
  · rename_i json
    unfold decodeJson at ran
    split at ran
    · cases ran
      exact .lost begins nofun
    · rename_i body kept
      rcases Action.run_bind_cases ran with
        ⟨failure, failed, rfl⟩ | ⟨document, middle, read, decoded⟩
      · have others : (readDocument request.depth body : Action (Failure ε) (σ × List (Exchange ε))
            Json.Members).FailsOnly (· ≠ .unencodable) :=
          failsOnly_readDocument request.depth body (fun _ => nofun) nofun
        have readable := others _ _ _ failed
        obtain ⟨parsed, same⟩ := run_readDocument request.depth body before
        rw [same] at failed
        cases failed
        exact .lost begins readable
      · obtain ⟨known, rfl⟩ := document?_of_run kept read
        exact decodeDocument_course json known decoded silent
  · rename_i plain
    unfold decodeQuery at ran
    split at ran
    · rename_i unread
      cases ran
      refine .lost begins ?_
      rcases requestFields_error_cases unread with rfl | rfl <;> nofun
    · rename_i fields read
      exact decodeFields_course (Bool.eq_false_iff.mpr plain) (parameters?_of_requestFields read)
        ran silent

/-! ## Discipline -/

/-- A last position is asked for. -/
def Exchange.Fills : Exchange ε → Prop
  | .lastPosition _ _ => True
  | _ => False

/-- Commands are taken. -/
def Exchange.Takes : Exchange ε → Prop
  | .takeCommands _ _ _ => True
  | _ => False

/-- The payload of the commands that are taken cannot be sent. -/
def Exchange.Unsendable : Exchange ε → Prop
  | .takeCommands _ _ (.ok payloads) => Http.payloadText (payloads.getLast?.getD .null) = none
  | _ => False

/-- The rules that the conversation of decoding a request obeys. Its newest exchange comes first, so
    that what is said before an exchange stands behind it. -/
structure Disciplined (request : Http.Request) (result : Except (Failure ε) Decoded)
    (said : List (Exchange ε)) : Prop where
  answered : ∀ decoded, result = .ok decoded →
    (decoded.response.status = 200 ↔ ∃ position, decoded.position = some position)
  /-- A token is one of the device that was found last. -/
  tokens : ∀ later device token answer earlier,
    said = later ++ .registerToken device token answer :: earlier →
    foundLast? earlier = some device
  /-- A last position is asked for once, between the search and the taking of commands, if the
      request does not carry both coordinates. It is that of the device of the position. -/
  fills : ∀ later device answer earlier,
    said = later ++ .lastPosition device answer :: earlier →
    carriedCoordinates? request = none ∧ foundLast? earlier = some device ∧
      (∀ exchange ∈ earlier, ¬ exchange.Fills) ∧ (∀ exchange ∈ later, exchange.Takes) ∧
      ∀ position response, result = .ok ⟨some position, response⟩ → position.deviceId = .int device
  /-- One command is taken, by parameters alone and at the very end. It is one of the device of the
      position and its payload is the response. Nothing but a fault of the queue or a payload that
      cannot be sent keeps the position from coming out. -/
  takes : ∀ later device count answer earlier,
    said = later ++ .takeCommands device count answer :: earlier →
    isJson request = false ∧ later = [] ∧ (∀ exchange ∈ earlier, ¬ exchange.Takes) ∧ count = 1 ∧
      foundLast? earlier = some device ∧
      ((∃ payloads text position, answer = .ok payloads ∧
          Http.payloadText (payloads.getLast?.getD .null) = some text ∧
          result = .ok ⟨some position, .plain 200 text⟩ ∧ position.deviceId = .int device) ∨
        ∃ failure, Unsent answer failure ∧ result = .error failure)
  /-- No command is taken for a report that is rejected or answered without success. -/
  spares : ((∃ rejection, result = .error (.rejected rejection)) ∨
      ∃ decoded, result = .ok decoded ∧ decoded.response.status ≠ 200) →
    ∀ exchange ∈ said, ¬ exchange.Takes

section Rules

variable {said later earlier : List (Exchange ε)} {device : Int}
  {result : Except (Failure ε) Decoded}

theorem Searching.plain (searching : Searching said) :
    ∀ exchange ∈ said, ¬ exchange.Fills ∧ ¬ exchange.Takes := by
  induction searching with
  | start => exact fun _ absent => nomatch absent
  | looked searching ih => exact List.forall_mem_cons.mpr ⟨⟨id, id⟩, ih⟩
  | kept searching found ih => exact List.forall_mem_cons.mpr ⟨⟨id, id⟩, ih⟩

theorem Searching.tokens {device : Int} {token : String} {answer : Except ε Unit}
    (searching : Searching said)
    (split : said = later ++ .registerToken device token answer :: earlier) :
    foundLast? earlier = some device := by
  induction searching generalizing later with
  | start => cases later <;> cases split
  | looked searching ih =>
    cases later with
    | nil => cases split
    | cons newest later => exact ih (List.cons.inj split).2
  | kept searching found ih =>
    cases later with
    | nil =>
      cases split
      exact found
    | cons newest later => exact ih (List.cons.inj split).2

theorem Locating.foundLast (locating : Locating request device said) :
    foundLast? said = some device := by
  cases locating with
  | found searching found => exact found
  | filled searching found unplaced => exact found

theorem Locating.plain (locating : Locating request device said) :
    ∀ exchange ∈ said, ¬ exchange.Takes := by
  cases locating with
  | found searching found => exact fun exchange among => (searching.plain exchange among).2
  | filled searching found unplaced =>
    exact List.forall_mem_cons.mpr ⟨id, fun exchange among => (searching.plain exchange among).2⟩

theorem Locating.tokens {other : Int} {token : String} {answer : Except ε Unit}
    (locating : Locating request device said)
    (split : said = later ++ .registerToken other token answer :: earlier) :
    foundLast? earlier = some other := by
  cases locating with
  | found searching found => exact searching.tokens split
  | filled searching found unplaced =>
    cases later with
    | nil => cases split
    | cons newest later => exact searching.tokens (List.cons.inj split).2

/-- Nothing of the search asks for a last position. -/
theorem Searching.ne_fills {answer : Except ε (Option Position)} (searching : Searching said) :
    said ≠ later ++ .lastPosition device answer :: earlier := by
  rintro rfl
  exact (searching.plain _ (List.mem_append_right later List.mem_cons_self)).1 trivial

theorem Locating.fills {other : Int} {answer : Except ε (Option Position)}
    (locating : Locating request device said)
    (split : said = later ++ .lastPosition other answer :: earlier) :
    later = [] ∧ other = device ∧ carriedCoordinates? request = none ∧
      foundLast? earlier = some other ∧ ∀ exchange ∈ earlier, ¬ exchange.Fills := by
  cases locating with
  | found searching found => exact absurd split searching.ne_fills
  | filled searching found unplaced =>
    cases later with
    | nil =>
      cases split
      exact ⟨rfl, rfl, unplaced, found, fun exchange among => (searching.plain exchange among).1⟩
    | cons newest later => exact absurd (List.cons.inj split).2 searching.ne_fills

/-- Until a device is found and its place is known no commands are taken. -/
theorem Locating.ne_takes {other : Int} {count : Nat} {answer : Except ε (List Json)}
    (locating : Locating request device said) :
    said ≠ later ++ .takeCommands other count answer :: earlier := by
  rintro rfl
  exact locating.plain _ (List.mem_append_right later List.mem_cons_self) trivial

/-- A conversation that takes one of the courses obeys the rules. -/
theorem Course.disciplined (course : Course request result said) :
    Disciplined request result said where
  answered decoded same := by
    cases course with
    | lost | stopped | unsent => cases same
    | refused searching other =>
      cases same
      exact iff_of_false other fun ⟨_, absent⟩ => nomatch absent
    | document | parameters =>
      cases same
      exact iff_of_true rfl ⟨_, rfl⟩
  tokens later device token answer earlier split := by
    cases course with
    | lost searching _ | refused searching _ => exact searching.tokens split
    | stopped locating _ | document locating _ => exact locating.tokens split
    | parameters _ locating _ _ | unsent _ locating _ =>
      cases later with
      | nil => cases split
      | cons newest later => exact locating.tokens (List.cons.inj split).2
  fills later device answer earlier split := by
    cases course with
    | lost searching _ | refused searching _ => exact absurd split searching.ne_fills
    | stopped locating _ =>
      obtain ⟨rfl, -, unplaced, found, once⟩ := locating.fills split
      exact ⟨unplaced, found, once, List.forall_mem_nil _, fun _ _ same => nomatch same⟩
    | document locating mine =>
      obtain ⟨rfl, rfl, unplaced, found, once⟩ := locating.fills split
      refine ⟨unplaced, found, once, List.forall_mem_nil _, fun position _ same => ?_⟩
      cases same
      exact mine
    | parameters plain locating mine written =>
      cases later with
      | nil => cases split
      | cons newest later =>
        obtain ⟨rfl, rest⟩ := List.cons.inj split
        obtain ⟨rfl, rfl, unplaced, found, once⟩ := locating.fills rest
        refine ⟨unplaced, found, once, List.forall_mem_singleton.mpr trivial,
          fun position _ same => ?_⟩
        cases same
        exact mine
    | unsent plain locating unsent =>
      cases later with
      | nil => cases split
      | cons newest later =>
        obtain ⟨rfl, rest⟩ := List.cons.inj split
        obtain ⟨rfl, -, unplaced, found, once⟩ := locating.fills rest
        exact ⟨unplaced, found, once, List.forall_mem_singleton.mpr trivial,
          fun _ _ same => nomatch same⟩
  takes later device count answer earlier split := by
    cases course with
    | lost searching _ | refused searching _ =>
      subst split
      exact absurd trivial (searching.plain _ (List.mem_append_right later List.mem_cons_self)).2
    | stopped locating _ | document locating _ => exact absurd split locating.ne_takes
    | parameters plain locating mine written =>
      cases later with
      | nil =>
        cases split
        exact ⟨plain, rfl, locating.plain, rfl, locating.foundLast,
          .inl ⟨_, _, _, rfl, written, rfl, mine⟩⟩
      | cons newest later => exact absurd (List.cons.inj split).2 locating.ne_takes
    | unsent plain locating unsent =>
      cases later with
      | nil =>
        cases split
        exact ⟨plain, rfl, locating.plain, rfl, locating.foundLast, .inr ⟨_, unsent, rfl⟩⟩
      | cons newest later => exact absurd (List.cons.inj split).2 locating.ne_takes
  spares unsuccessful := by
    cases course with
    | lost searching _ | refused searching _ =>
      exact fun exchange among => (searching.plain exchange among).2
    | stopped locating _ | document locating _ => exact locating.plain
    | parameters plain locating mine written =>
      rcases unsuccessful with ⟨_, same⟩ | ⟨_, same, other⟩
      · cases same
      · cases same
        exact absurd rfl other
    | unsent plain locating unsent =>
      rcases unsuccessful with ⟨_, same⟩ | ⟨_, same, -⟩
      · cases same
        cases unsent
      · cases same

/-- Where no commands are taken, nothing is that cannot be sent. -/
theorem Exchange.Unsendable.takes {exchange : Exchange ε} (unsendable : exchange.Unsendable) :
    exchange.Takes := by
  cases exchange with
  | takeCommands device count answer => trivial
  | _ => cases unsendable

/-- Decoding fails for a payload that cannot be sent if it takes one. -/
theorem Course.unencodable_iff (course : Course request result said) :
    result = .error .unencodable ↔ ∃ exchange ∈ said, exchange.Unsendable := by
  have spared : ∀ {before : List (Exchange ε)}, (∀ exchange ∈ before, ¬ exchange.Takes) →
      ¬ ∃ exchange ∈ before, exchange.Unsendable :=
    fun none ⟨exchange, among, unsendable⟩ => none exchange among unsendable.takes
  cases course with
  | lost searching other =>
    exact iff_of_false (fun same => other (Except.error.inj same))
      (spared fun exchange among => (searching.plain exchange among).2)
  | refused searching _ =>
    exact iff_of_false nofun (spared fun exchange among => (searching.plain exchange among).2)
  | stopped locating other =>
    exact iff_of_false (fun same => other (Except.error.inj same)) (spared locating.plain)
  | document locating _ => exact iff_of_false nofun (spared locating.plain)
  | parameters _ locating _ written =>
    refine iff_of_false nofun fun unsent => ?_
    simp only [List.mem_cons, exists_eq_or_imp] at unsent
    rcases unsent with unsendable | earlier
    · exact nomatch written.symm.trans unsendable
    · exact spared locating.plain earlier
  | unsent _ locating unsent =>
    cases unsent with
    | untaken =>
      refine iff_of_false nofun fun unsent => ?_
      simp only [List.mem_cons, exists_eq_or_imp] at unsent
      rcases unsent with unsendable | earlier
      · exact unsendable
      · exact spared locating.plain earlier
    | unsendable refused => exact iff_of_true rfl ⟨_, List.mem_cons_self, refused⟩

end Rules

/-- Decoding fails for a payload that cannot be sent exactly if it takes one, for services of any
    kind. -/
theorem decode_unencodable_iff (decoder : Decoder) (clock : Clock) (services : Services ε σ)
    (request : Http.Request) (state : σ) :
    ((decode decoder clock services request).run state).1 = .error .unencodable ↔
      ∃ exchange ∈ conversation decoder clock services request state, exchange.Unsendable := by
  rw [decode_overheard decoder clock services request state []]
  exact (decode_course rfl rfl).unencodable_iff

/-- Every conversation of decoding obeys the rules, for every request and for services of any
    kind. -/
theorem decode_disciplined (decoder : Decoder) (clock : Clock) (services : Services ε σ)
    (request : Http.Request) (state : σ) :
    Disciplined request ((decode decoder clock services request).run state).1
      (conversation decoder clock services request state) := by
  rw [decode_overheard decoder clock services request state []]
  exact (decode_course rfl rfl).disciplined

end Telematics.Report
