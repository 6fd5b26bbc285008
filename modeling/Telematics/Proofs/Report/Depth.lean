import Telematics.Proofs.Json.Nesting
import Telematics.Proofs.Report.Rejection
import Telematics.Proofs.Text.RoundTrip

/-!
Which failures decoding of documents can have. If no service fails, a report whose body is short
enough to be kept is decoded, or it is rejected, whatever bytes are in the body; only the depth of
the document can stand in the way.

* `Http.Request.IsTooDeep`: the document in the body is nested too deeply.
* `failsOnly_decodeDocument`: a document that has been read fails only by being rejected.
* `decode_rejects_iff`: decoding of a document fails only by rejection exactly if the document is
  not nested too deeply. `decode_lists`: a document that is.
-/

namespace Telematics

open Calendar (Clock)

/-- The document in the body of a request is nested too deeply to be read. -/
def Http.Request.IsTooDeep (request : Http.Request) : Prop :=
  ∃ text, Text.readUtf8 request.body = .ok text ∧
    Json.parse false request.depth text = .error .tooDeep

namespace Report

variable {ε σ : Type}

open Report.Action

section NeverFail

variable {services : Services ε σ} (never : services.NeverFail)

include never

/-- A document that has been read fails only by being rejected. -/
theorem failsOnly_decodeDocument (decoder : Decoder) (clock : Clock) (remote : Option String)
    (document : Json.Members) :
    (decodeDocument decoder clock services remote document).FailsOnly Failure.IsRejection := by
  have checks : ∀ {α : Type} (checked : Except Rejection α),
      (orReject checked : Action (Failure ε) σ α).FailsOnly Failure.IsRejection :=
    fun checked => failsOnly_orReject fun rejection _ => ⟨rejection, rfl⟩
  refine failsOnly_bind (checks _) fun identifier => ?_
  have faults : services.FailOnly fun fault => (Failure.service fault).IsRejection :=
    never.mono fun _ => False.elim
  refine failsOnly_bind (failsOnly_call (faults.findDevice _ _ _)) fun found => ?_
  cases found with
  | none => exact failsOnly_pure _
  | some device =>
    refine failsOnly_bind (checks _) fun location => ?_
    refine failsOnly_bind (checks _) fun timestamp => ?_
    refine failsOnly_bind (checks _) fun time => ?_
    refine failsOnly_bind (checks _) fun coords => ?_
    cases coords with
    | some members =>
      refine failsOnly_bind (checks _) fun spot => ?_
      refine failsOnly_bind (failsOnly_pure _) fun position => ?_
      exact failsOnly_bind (checks _) fun attributes => failsOnly_pure _
    | none =>
      refine failsOnly_bind (failsOnly_fallBack faults _ _ _) fun position => ?_
      exact failsOnly_bind (checks _) fun attributes => failsOnly_pure _

end NeverFail

/-- Bytes are no document that can be read for one of two reasons: they are rejected, or the
    document is nested too deeply. -/
theorem run_readDocument_error {depth : Nat} {body : List UInt8} {state after : σ}
    {failure : Failure ε}
    (ran : (readDocument depth body : Action (Failure ε) σ Json.Members).run state =
      (.error failure, after)) :
    failure.IsRejection ∨ failure = .tooDeep ∧
      ∃ text, Text.readUtf8 body = .ok text ∧ Json.parse false depth text = .error .tooDeep := by
  unfold readDocument at ran
  split at ran
  · cases ran
    exact .inl ⟨_, rfl⟩
  · rename_i text read
    split at ran
    · cases ran
    · cases ran
      exact .inl ⟨_, rfl⟩
    · rename_i deep
      cases ran
      exact .inr ⟨rfl, text, read, deep⟩
    · cases ran
      exact .inl ⟨_, rfl⟩

/-- A document that is nested too deeply is not rejected, but fails. -/
theorem run_readDocument_tooDeep {depth : Nat} {body : List UInt8} {text : List Char}
    (read : Text.readUtf8 body = .ok text) (deep : Json.parse false depth text = .error .tooDeep)
    (state : σ) :
    (readDocument depth body : Action (Failure ε) σ Json.Members).run state =
      (.error .tooDeep, state) := by
  unfold readDocument
  rw [read]
  dsimp only
  rw [deep]
  rfl

theorem decode_of_kept {decoder : Decoder} {clock : Clock} {services : Services ε σ}
    {request : Http.Request} (json : isJson request = true)
    (short : request.body.length ≤ Http.bodyLimit) :
    decode decoder clock services request =
      (readDocument request.depth request.body >>=
        decodeDocument decoder clock services request.remote) := by
  have kept : request.body? = some request.body := if_neg (Nat.not_lt.mpr short)
  rw [decode, if_pos json, decodeJson, kept]

/-- If no service fails, decoding of a document in a body that is short enough fails only by
    rejection, if and only if the document is not nested too deeply. A document that is nested too
    deeply opens more lists and objects than there is depth for. -/
theorem decode_rejects_iff {services : Services ε σ} (never : services.NeverFail)
    (decoder : Decoder) (clock : Clock) {request : Http.Request} (json : isJson request = true)
    (short : request.body.length ≤ Http.bodyLimit) (state : σ) :
    ((∀ failure, ((decode decoder clock services request).run state).1 = .error failure →
        failure.IsRejection) ↔ ¬ request.IsTooDeep) ∧
      ∀ text, Text.readUtf8 request.body = .ok text → request.IsTooDeep →
        request.depth < Json.brackets text := by
  rw [decode_of_kept json short]
  refine ⟨⟨fun rejects deep => ?_, fun shallow failure failed => ?_⟩, fun text read deep => ?_⟩
  · obtain ⟨text, read, deep⟩ := deep
    obtain ⟨rejection, same⟩ := rejects .tooDeep (by
      rw [Action.run_bind, run_readDocument_tooDeep read deep state])
    cases same
  · rcases ran : (readDocument request.depth request.body >>=
      decodeDocument decoder clock services request.remote).run state with ⟨result, after⟩
    rw [ran] at failed
    cases failed
    rcases run_bind_cases ran with ⟨fault, stopped, same⟩ | ⟨document, middle, -, ran⟩
    · cases same
      rcases run_readDocument_error stopped with rejected | ⟨-, deep⟩
      · exact rejected
      · exact absurd deep shallow
    · exact failsOnly_decodeDocument never decoder clock request.remote document _ _ _ ran
  · obtain ⟨other, again, deep⟩ := deep
    cases read.symm.trans again
    exact Json.brackets_of_tooDeep deep

/-- A report of a JSON document, with the bytes of a text as its body. -/
def documentRequest (text : List Char) : Http.Request where
  method := "POST"
  body := Text.utf8Bytes text
  contentType := some jsonType
  path := ['/']
  header := ⟨jsonType, []⟩
  codec := none

theorem isJson_documentRequest (text : List Char) : isJson (documentRequest text) = true := by
  show jsonType.toList.isPrefixOf jsonType.toList = true
  decide

theorem readUtf8_documentRequest (text : List Char) :
    Text.readUtf8 (documentRequest text).body = .ok text :=
  Text.readUtf8_utf8Bytes text

/-- A body that ends in the middle of its document is rejected. -/
theorem decode_rejects_unfinished :
    (idleServices : Services String Unit).NeverFail ∧
      isJson (documentRequest "[[\x7b\"a\"".toList) = true ∧
      (documentRequest "[[\x7b\"a\"".toList).body.length ≤ Http.bodyLimit ∧
      ∀ failure, ((decode ⟨.text "osmand", .knots⟩ ⟨noFixTime, .utc⟩
        (idleServices : Services String Unit) (documentRequest "[[\x7b\"a\"".toList)).run ()).1 =
          .error failure → failure.IsRejection := by
  have json := isJson_documentRequest "[[\x7b\"a\"".toList
  have short : (documentRequest "[[\x7b\"a\"".toList).body.length ≤ Http.bodyLimit := by decide
  have shallow : ¬ (documentRequest "[[\x7b\"a\"".toList).IsTooDeep := by
    rintro ⟨text, read, deep⟩
    cases read.symm.trans (readUtf8_documentRequest _)
    exact absurd (Json.brackets_of_tooDeep deep) (by decide)
  exact ⟨neverFail_idleServices, json, short,
    (decode_rejects_iff neverFail_idleServices _ _ json short ()).1.mpr shallow⟩

/-- Lists inside each other. -/
def nestedLists (depth : Nat) : List Char :=
  List.replicate depth '[' ++ List.replicate depth ']'

theorem length_nestedLists (depth : Nat) :
    (documentRequest (nestedLists depth)).body.length = depth + depth := by
  have bytes : ∀ {c : Char}, (Text.utf8Char c).length = 1 →
      (Text.utf8Bytes (List.replicate depth c)).length = depth := by
    intro c one
    rw [Text.utf8Bytes, List.length_flatMap, List.map_replicate, List.sum_replicate_nat, one,
      Nat.mul_one]
  show (Text.utf8Bytes (nestedLists depth)).length = _
  rw [nestedLists, Text.utf8Bytes, List.flatMap_append, List.length_append]
  exact congrArg₂ (· + ·) (bytes rfl) (bytes rfl)

/-- Lists that are nested too deeply are read by nobody. -/
theorem run_decode_nestedLists {services : Services ε σ} {decoder : Decoder} {clock : Clock}
    {limit depth : Nat} (deep : limit < depth) (short : depth + depth ≤ Http.bodyLimit)
    (state : σ) :
    (decode decoder clock services
        { documentRequest (nestedLists depth) with depth := limit }).run state =
      (.error .tooDeep, state) := by
  have stops : (readDocument limit (documentRequest (nestedLists depth)).body :
      Action (Failure ε) σ Json.Members).run state = (.error .tooDeep, state) :=
    run_readDocument_tooDeep (readUtf8_documentRequest _) (Json.parse_lists deep _) state
  have json : isJson { documentRequest (nestedLists depth) with depth := limit } = true :=
    isJson_documentRequest (nestedLists depth)
  rw [decode_of_kept json (by dsimp only; rw [length_nestedLists]; exact short), Action.run_bind,
    stops]

/-- Lists that are nested too deeply are not rejected. -/
theorem decode_lists :
    (idleServices : Services String Unit).NeverFail ∧
      isJson (documentRequest (nestedLists 20000)) = true ∧
      (documentRequest (nestedLists 20000)).body.length ≤ Http.bodyLimit ∧
      ∃ failure, ((decode ⟨.text "osmand", .knots⟩ ⟨noFixTime, .utc⟩
        (idleServices : Services String Unit) (documentRequest (nestedLists 20000))).run ()).1 =
          .error failure ∧ ¬ failure.IsRejection := by
  refine ⟨neverFail_idleServices, isJson_documentRequest _, ?_, .tooDeep, ?_, nofun⟩
  · rw [length_nestedLists]
    decide
  · exact congrArg Prod.fst (run_decode_nestedLists (by decide : 990 < 20000) (by decide) ())

end Report

end Telematics
