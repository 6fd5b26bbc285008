import Telematics.Proofs.Http.Form
import Telematics.Proofs.Report.Discipline

/-!
Which failures decoding of parameters can have. If no service fails, a report of flat parameters
that tells no encoding is decoded, or it is rejected for one of its parameters. The limits on
requests are all that can stand in the way.

* `Action.FailsOnly`: the failures that an action may have, with one lemma for each way in which
  actions are put together.
* `Request.KeepsLimits`: the limits on requests. `requestFields_cases`: within them, parameters
  are read.
* `Verdict`: a report is decoded, or rejected for a parameter. `decode_verdict_iff`: decoding of
  parameters ends in a verdict exactly within the limits.
-/

namespace Telematics

open Calendar (Clock Moment)

/-! ## Limits -/

/-- The limits on the parameters of a request. What is in the body counts only if there is none in
    the query string. -/
structure Http.Request.KeepsLimits (request : Http.Request) : Prop where
  query : Http.fieldCount request.query ≤ Http.fieldLimit
  body : request.fields = .ok [] →
    Http.fieldCount request.body ≤ Http.fieldLimit ∧ request.body.length ≤ Http.bodyLimit

namespace Report

theorem count_formText (body : List UInt8) :
    (formText body).count '&' = body.count Http.ampersand := by
  induction body with
  | nil => rfl
  | cons byte rest ih =>
    have shown : (Text.asciiPiece byte).shown.count '&' =
        if byte = Http.ampersand then 1 else 0 := by
      simp only [Http.ampersand, Http.isPlain_ampersand.eq_plainByte_iff]
      unfold Text.asciiPiece
      split
      · exact Http.isPlain_ampersand.count_char
      · rename_i beyond
        have ascii := Http.isPlain_ampersand.ascii
        rw [Http.isPlain_ampersand.count_illFormed, if_neg (by omega)]
    have rest_count : (Text.lossyText (rest.map Text.asciiPiece)).count '&' =
        rest.count Http.ampersand := ih
    rw [formText, List.map_cons, Text.lossyText, List.flatMap_cons, List.count_append, shown,
      ← Text.lossyText, rest_count, List.count_cons]
    simp only [beq_iff_eq]
    omega

/-- What the report says is rejected. -/
def Failure.IsRejection {ε : Type} (failure : Failure ε) : Prop :=
  ∃ rejection, failure = .rejected rejection

/-- The parameters of a request that tells no encoding are read within the limits, and beyond them
    it fails without being rejected. -/
theorem requestFields_cases (ε : Type) {request : Http.Request} (unnamed : request.codec = none) :
    (request.KeepsLimits ∧
        ∃ fields, (requestFields request : Except (Failure ε) _) = .ok fields) ∨
      (¬ request.KeepsLimits ∧
        ∃ failure : Failure ε, requestFields request = .error failure ∧ ¬ failure.IsRejection) := by
  have read : request.fields = Http.readFormBytes .utf8 request.query := by
    rw [Http.Request.fields, Http.Request.charset, unnamed]
  have query := Http.readFormBytes_utf8 request.query
  rw [← read] at query
  by_cases few : Http.fieldCount request.query ≤ Http.fieldLimit
  case neg =>
    rw [if_neg few] at query
    exact .inr ⟨fun keeps => few keeps.query, .tooManyFields,
      by rw [requestFields, query]; rfl, nofun⟩
  rw [if_pos few] at query
  obtain ⟨fields, found⟩ := query
  cases fields with
  | cons field rest =>
    exact .inl ⟨⟨few, fun none => by rw [found] at none; cases none⟩, field :: rest,
      by rw [requestFields, found]; rfl⟩
  | nil =>
    -- There is nothing in the query string, so the parameters are those of the body.
    by_cases short : request.body.length ≤ Http.bodyLimit
    case neg =>
      have lost : request.body? = none := if_pos (Nat.not_le.mp short)
      exact .inr ⟨fun keeps => short (keeps.body found).2, .bodyTooLong,
        by rw [requestFields, found, lost]; rfl, nofun⟩
    have kept : request.body? = some request.body := if_neg (Nat.not_lt.mpr short)
    have form := Http.readForm_utf8 (congrArg (· + 1) (count_formText request.body))
    have parsed : (requestFields request : Except (Failure ε) _) =
        limited (Http.readForm .utf8 (formText request.body)) := by
      rw [requestFields, found, kept]
      rfl
    by_cases fewInBody : Http.fieldCount request.body ≤ Http.fieldLimit
    · obtain ⟨fields, inBody⟩ := (if_pos fewInBody).mp form
      exact .inl ⟨⟨few, fun _ => ⟨fewInBody, short⟩⟩, fields, by rw [parsed, inBody]; rfl⟩
    · have overfull := (if_neg fewInBody).mp form
      exact .inr ⟨fun keeps => fewInBody (keeps.body found).1, .tooManyFields,
        by rw [parsed, overfull]; rfl, nofun⟩

/-! ## Verdicts -/

/-- What comes of decoding the parameters of a request, if nothing fails: a result, or a rejection
    of one of the parameters, for the cause for which its value cannot be read. -/
inductive Verdict {ε : Type} (decoder : Decoder) (zone : Calendar.Zone) (request : Http.Request) :
    Except (Failure ε) Decoded → Prop where
  | decoded (decoded : Decoded) : Verdict decoder zone request (.ok decoded)
  | rejected {fields : List Http.Field} {key value : String} {cause : Cause} :
      parameters? request = some fields → (key, value) ∈ fields →
      readEntry decoder zone key value = .error cause →
      Verdict decoder zone request (.error (.rejected (.malformedParameter key value cause)))

/-- If no service fails, decoding of the parameters of a request that tells no encoding ends in a
    verdict if and only if the request keeps the limits and no payload is taken that cannot be
    sent. -/
theorem decode_verdict_iff {ε σ : Type} {services : Services ε σ} (never : services.NeverFail)
    (decoder : Decoder) (clock : Clock) {request : Http.Request} (plain : isJson request = false)
    (unnamed : request.codec = none) (state : σ) :
    Verdict decoder clock.zone request
        ((decode decoder clock services request).run state).1 ↔
      request.KeepsLimits ∧
        ∀ exchange ∈ conversation decoder clock services request state, ¬ exchange.Unsendable := by
  have sends : (∀ exchange ∈ conversation decoder clock services request state,
      ¬ exchange.Unsendable) ↔
        ((decode decoder clock services request).run state).1 ≠ .error .unencodable := by
    rw [Ne, decode_unencodable_iff]
    simp only [not_exists, not_and]
  rw [sends, decode, plain]
  rcases requestFields_cases ε unnamed with
    ⟨keeps, fields, read⟩ | ⟨breaks, failure, failed, other⟩
  · rw [and_iff_right keeps]
    simp only [Bool.false_eq_true, if_false, decodeQuery, read]
    have known := parameters?_of_requestFields read
    have fails : (decodeFields decoder clock services request.remote
        (Http.grouped fields)).FailsOnly fun failure =>
          Malformed decoder clock.zone (Http.grouped fields) failure ∨ failure = .unencodable :=
      failsOnly_decodeFields (never.mono fun _ => False.elim) decoder clock request.remote
        (fun _ => .inl) (fun _ _ _ failed => failed.elim nofun nofun) (.inr rfl)
    rcases ran : (decodeFields decoder clock services request.remote (Http.grouped fields)).run
      state with ⟨failure | decoded, after⟩
    · rcases fails _ _ _ ran with ⟨among, unread⟩ | rfl
      · exact iff_of_true (.rejected known among unread) nofun
      · exact iff_of_false nofun fun other => other rfl
    · exact iff_of_true (.decoded decoded) nofun
  · refine iff_of_false (fun verdict => other ?_) fun keeps => breaks keeps.1
    simp only [Bool.false_eq_true, if_false, decodeQuery, failed] at verdict
    generalize same : ((throw failure : Action (Failure ε) σ Decoded).run state).1 = result
      at verdict
    cases verdict with
    | decoded decoded => cases same
    | rejected _ _ _ =>
      cases same
      exact ⟨_, rfl⟩

/-- Services with one device that has neither positions nor commands. -/
def idleServices {ε : Type} : Services ε Unit where
  findDevice _ _ _ := pure (some 1)
  registerToken _ _ := pure ()
  lastPosition _ := pure none
  takeCommands _ _ := pure []

theorem neverFail_idleServices {ε : Type} : (idleServices : Services ε Unit).NeverFail :=
  ⟨fun _ _ _ => Action.failsOnly_pure _, fun _ _ => Action.failsOnly_pure _,
    fun _ => Action.failsOnly_pure _, fun _ _ => Action.failsOnly_pure _⟩

/-- A request with an identifier and a latitude that is no number. -/
def misplacedRequest : Http.Request where
  query := Text.utf8Bytes "id=1&lat=north".toList
  path := ['/']
  header := ⟨"", []⟩
  codec := none

/-- A request whose latitude is no number ends in a verdict. -/
theorem decode_verdict_misplaced :
    (idleServices : Services String Unit).NeverFail ∧ isJson misplacedRequest = false ∧
      misplacedRequest.codec = none ∧ misplacedRequest.KeepsLimits ∧
      Verdict ⟨.text "osmand", .knots⟩ .utc misplacedRequest
        ((decode ⟨.text "osmand", .knots⟩ ⟨noFixTime, .utc⟩
          (idleServices : Services String Unit) misplacedRequest).run ()).1 := by
  have keeps : misplacedRequest.KeepsLimits := ⟨by decide, fun _ => ⟨by decide, by decide⟩⟩
  have said : conversation ⟨.text "osmand", .knots⟩ ⟨noFixTime, .utc⟩
      (idleServices : Services String Unit) misplacedRequest () =
        [.findDevice (.text "osmand") none ["1"] (.ok (some 1))] := by rfl
  refine ⟨neverFail_idleServices, rfl, rfl, keeps,
    (decode_verdict_iff neverFail_idleServices _ ⟨noFixTime, .utc⟩ rfl rfl ()).mpr ⟨keeps, ?_⟩⟩
  rw [said]
  exact List.forall_mem_singleton.mpr id

/-- Services with one device for which a command waits whose payload is half a character. -/
def tornServices {ε : Type} : Services ε Unit where
  findDevice _ _ _ := pure (some 1)
  registerToken _ _ := pure ()
  lastPosition _ := pure none
  takeCommands _ _ := pure [.text (.torn ⟨[.half 0], rfl, rfl⟩)]

/-- A request with an identifier and a place. -/
def placedRequest : Http.Request where
  query := Text.utf8Bytes "id=a&lat=1&lon=2".toList
  path := ['/']
  header := ⟨"", []⟩
  codec := none

/-- A request whose response would be half a character does not end in a verdict. -/
theorem decode_torn_payload :
    (tornServices : Services String Unit).NeverFail ∧ isJson placedRequest = false ∧
      placedRequest.codec = none ∧ placedRequest.KeepsLimits ∧
      ¬ Verdict ⟨.text "osmand", .knots⟩ .utc placedRequest
        ((decode ⟨.text "osmand", .knots⟩ ⟨noFixTime, .utc⟩
          (tornServices : Services String Unit) placedRequest).run ()).1 := by
  have failed : ((decode ⟨.text "osmand", .knots⟩ ⟨noFixTime, .utc⟩
      (tornServices : Services String Unit) placedRequest).run ()).1 = .error .unencodable := by rfl
  refine ⟨⟨fun _ _ _ => Action.failsOnly_pure _, fun _ _ => Action.failsOnly_pure _,
    fun _ => Action.failsOnly_pure _, fun _ _ => Action.failsOnly_pure _⟩, rfl, rfl,
    ⟨by decide, fun _ => ⟨by decide, by decide⟩⟩, ?_⟩
  rw [failed]
  nofun

end Report

end Telematics
