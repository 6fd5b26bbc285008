import Telematics.Proofs.Http.Form
import Telematics.Proofs.Report.Rejection
import Telematics.Proofs.Text.RoundTrip
import Telematics.Report.Basic

/-!
Where the parameters of a report stand. The query string of a request is read as UTF-8 and the form
in its body as ASCII, and the form is asked for only if the query string holds no parameters. A text
of ASCII characters is read alike in both places. An empty body holds no parameters either, so a
text without parameters leads to the same in the query string as well.

* `formText_utf8Bytes`: a form of ASCII characters is read as it was written.
* `requestFields_of_query_text`, `requestFields_of_form_text`: what is read in either place.
* `decodeText`: what parameters lead to, by their text alone.
* `receive`: what a request as it comes leads to. `receive_asking`, `receive_posting`: one with its
  parameters in either place.
* `receive_query_eq_form`: it does not matter in which place they stand.
-/

namespace Telematics

namespace Http.RawRequest

/-- The request with a text as its query string, and nothing in its body. -/
def asking (raw : RawRequest) (text : List Char) : RawRequest :=
  { raw with query := Text.utf8Bytes text, body := [] }

/-- The request with a text as the form in its body, and no query string. -/
def posting (raw : RawRequest) (text : List Char) : RawRequest :=
  { raw with query := [], body := Text.utf8Bytes text }

end Http.RawRequest

namespace Report

open Calendar (Clock)

variable {ε σ : Type} {decoder : Decoder} {clock : Clock} {services : Services ε σ}

/-! ## Requests that are understood -/

section Request

variable {request : Http.Request} {text : List Char}

/-- A form of ASCII characters is read as it was written. -/
theorem formText_utf8Bytes (ascii : ∀ c ∈ text, c.toNat < 0x80) :
    formText (Text.utf8Bytes text) = text := by
  induction text with
  | nil => rfl
  | cons c rest ih =>
    obtain ⟨first, others⟩ := List.forall_mem_cons.mp ascii
    have value : c.toNat.toUInt8.toNat = c.toNat := Text.toNat_toUInt8 (by omega)
    have shown : (Text.asciiPiece c.toNat.toUInt8).shown = [c] := by
      rw [Text.asciiPiece, value, if_pos first, Text.latin1Piece, value, Char.ofNat_toNat]
      rfl
    rw [formText, Text.lossyText, Text.utf8Bytes_cons_of_ascii first, List.map_cons,
      List.flatMap_cons, shown]
    exact congrArg (c :: ·) (ih others)

/-- The parameters of a query string in front of an empty body. If it holds none, then neither does
    the body. -/
theorem requestFields_of_query_text (charset : request.charset = .utf8)
    (query : request.query = Text.utf8Bytes text) (empty : request.body = []) :
    (requestFields request : Except (Failure ε) _) = limited (Http.readForm .utf8 text) := by
  have fields : request.fields = Http.readForm .utf8 text := by
    rw [Http.Request.fields, charset, query, Http.readFormBytes, Text.readOrLatin1_utf8Bytes]
  have body : request.body? = some [] := by rw [Http.Request.body?, empty]; rfl
  rw [requestFields, fields, body]
  cases Http.readForm .utf8 text with
  | error fault => rfl
  | ok fields => cases fields <;> rfl

/-- The parameters of the form in the body behind an empty query string. -/
theorem requestFields_of_form_text (charset : request.charset = .utf8) (empty : request.query = [])
    (ascii : ∀ c ∈ text, c.toNat < 0x80) (form : request.body = Text.utf8Bytes text)
    (short : request.body.length ≤ Http.bodyLimit) :
    (requestFields request : Except (Failure ε) _) = limited (Http.readForm .utf8 text) := by
  have none : request.fields = .ok [] := by
    rw [Http.Request.fields, charset, empty]
    rfl
  have body : request.body? = some (Text.utf8Bytes text) := by
    rw [Http.Request.body?, if_neg (Nat.not_lt.mpr short), form]
  rw [requestFields, none, body]
  show limited (Http.readForm .utf8 (formText (Text.utf8Bytes text))) = _
  rw [formText_utf8Bytes ascii]

/-- What parameters lead to, by their text alone: they are handled key by key, unless there are too
    many of them. -/
def decodeText (decoder : Decoder) (clock : Clock) (services : Services ε σ)
    (remote : Option String) (text : List Char) : Action (Failure ε) σ Decoded :=
  match Http.readForm .utf8 text with
  | .ok fields => decodeFields decoder clock services remote (Http.grouped fields)
  | .error _ => throw .tooManyFields

theorem decode_of_text (plain : isJson request = false)
    (read : (requestFields request : Except (Failure ε) _) = limited (Http.readForm .utf8 text)) :
    decode decoder clock services request =
      decodeText decoder clock services request.remote text := by
  rw [decode, if_neg (Bool.eq_false_iff.mp plain), decodeQuery, read, decodeText]
  cases Http.readForm .utf8 text <;> rfl

end Request

/-! ## Requests as they come -/

/-- What a request as it comes leads to: it is decoded, if it is understood. -/
def receive (decoder : Decoder) (clock : Clock) (services : Services ε σ)
    (raw : Http.RawRequest) : Except Http.RequestFault (Action (Failure ε) σ Decoded) :=
  raw.read.map (decode decoder clock services)

/-- A request in which parameters may stand in either place: its content type neither begins as that
    of JSON does nor names an encoding, and its URL has no query. -/
structure TakesParameters (raw : Http.RawRequest) : Prop where
  plain : ∀ type, raw.contentType = some type → jsonType.toList.isPrefixOf type.toList = false
  unnamed : ∀ header, Http.HeaderValue.read (raw.contentType.getD "") = .ok header →
    header.parameter? "charset" = none
  bare : ∀ url, Http.Url.read raw.url.toList = .ok url → url.query = []

section Raw

variable {raw : Http.RawRequest}

/-- A request in which parameters may stand in either place is understood if its URL and its content
    type can be read. -/
theorem TakesParameters.read (takes : TakesParameters raw) :
    raw.read = do
      let url ← (Http.Url.read raw.url.toList).mapError .host
      let header ← (Http.HeaderValue.read (raw.contentType.getD "")).mapError .header
      return { raw with path := url.path, header, codec := none } := by
  unfold Http.RawRequest.read
  cases place : Http.Url.read raw.url.toList with
  | error fault => rfl
  | ok url =>
    cases told : Http.HeaderValue.read (raw.contentType.getD "") with
    | error fault => rfl
    | ok header =>
      have codec : Http.namedCodec? header = .ok none := by
        rw [Http.namedCodec?, takes.unnamed header told]
      -- The URL has no query that could stand in for an empty query string.
      have query :
          (if raw.query = [] then Text.utf8Bytes url.query else raw.query) = raw.query := by
        rw [takes.bare url place]
        split
        · rename_i empty
          exact empty.symm
        · rfl
      show (Http.namedCodec? header).mapError Http.RequestFault.header >>= _ = _
      rw [codec]
      dsimp only [Except.mapError, bind, Except.bind]
      rw [query]
      rfl

/-- Where its parameters stand has no part in whether a request takes them. -/
theorem TakesParameters.asking (takes : TakesParameters raw) (text : List Char) :
    TakesParameters (raw.asking text) :=
  ⟨takes.plain, takes.unnamed, takes.bare⟩

theorem TakesParameters.posting (takes : TakesParameters raw) (text : List Char) :
    TakesParameters (raw.posting text) :=
  ⟨takes.plain, takes.unnamed, takes.bare⟩

/-- What a request leads to by the text of its parameters alone, if it is understood. -/
def receiveText (decoder : Decoder) (clock : Clock) (services : Services ε σ)
    (raw : Http.RawRequest) (text : List Char) :
    Except Http.RequestFault (Action (Failure ε) σ Decoded) := do
  let _ ← (Http.Url.read raw.url.toList).mapError .host
  let _ ← (Http.HeaderValue.read (raw.contentType.getD "")).mapError .header
  return decodeText decoder clock services raw.remote text

theorem receive_eq_receiveText (takes : TakesParameters raw) {text : List Char}
    (read : ∀ request : Http.Request, request.toRawRequest = raw → request.codec = none →
      (requestFields request : Except (Failure ε) _) = limited (Http.readForm .utf8 text)) :
    receive decoder clock services raw = receiveText decoder clock services raw text := by
  rw [receive, takes.read, receiveText]
  cases Http.Url.read raw.url.toList with
  | error fault => rfl
  | ok url =>
    cases Http.HeaderValue.read (raw.contentType.getD "") with
    | error fault => rfl
    | ok header =>
      refine congrArg Except.ok (decode_of_text ?_ (read _ rfl rfl))
      unfold isJson
      split
      · rename_i type named
        exact takes.plain type named
      · rfl

theorem charset_of_unnamed {request : Http.Request} (unnamed : request.codec = none) :
    request.charset = .utf8 := by
  rw [Http.Request.charset, unnamed]

theorem receive_asking (takes : TakesParameters raw) (text : List Char) :
    receive decoder clock services (raw.asking text) =
      receiveText decoder clock services raw text := by
  refine receive_eq_receiveText (takes.asking text) fun request same unnamed => ?_
  have query : request.query = Text.utf8Bytes text := congrArg Http.RawRequest.query same
  have empty : request.body = [] := congrArg Http.RawRequest.body same
  exact requestFields_of_query_text (charset_of_unnamed unnamed) query empty

theorem receive_posting (takes : TakesParameters raw) {text : List Char}
    (ascii : ∀ c ∈ text, c.toNat < 0x80) (short : text.length ≤ Http.bodyLimit) :
    receive decoder clock services (raw.posting text) =
      receiveText decoder clock services raw text := by
  refine receive_eq_receiveText (takes.posting text) fun request same unnamed => ?_
  have empty : request.query = [] := congrArg Http.RawRequest.query same
  have form : request.body = Text.utf8Bytes text := congrArg Http.RawRequest.body same
  refine requestFields_of_form_text (charset_of_unnamed unnamed) empty ascii form ?_
  rw [form, Text.length_utf8Bytes_of_ascii ascii]
  exact short

end Raw

/-- Parameters may stand in the query string of a request or in the form in its body: a text of
    ASCII characters within the limit of bodies leads to the same in both places, to the same fault
    if the request is not understood, and otherwise to the same action on services, whatever they
    are. The text alone tells what that action is. -/
theorem receive_query_eq_form {raw : Http.RawRequest} (takes : TakesParameters raw)
    {text : List Char} (ascii : ∀ c ∈ text, c.toNat < 0x80) (short : text.length ≤ Http.bodyLimit)
    (decoder : Decoder) (clock : Clock) (services : Services ε σ) :
    receive decoder clock services (raw.asking text) =
        receive decoder clock services (raw.posting text) ∧
      ∀ action, receive decoder clock services (raw.posting text) = .ok action →
        action = decodeText decoder clock services raw.remote text := by
  have posted : receive decoder clock services (raw.posting text) =
      receiveText decoder clock services raw text := receive_posting takes ascii short
  refine ⟨(receive_asking takes text).trans posted.symm, fun action received => ?_⟩
  rw [posted] at received
  obtain ⟨url, -, received⟩ := bind_eq_ok_iff.mp received
  obtain ⟨header, -, received⟩ := bind_eq_ok_iff.mp received
  exact (Except.ok.inj received).symm

/-- A request with a form in parts that is sent with a text of parameters instead. -/
def partsRequest : Http.RawRequest where
  method := "POST"
  contentType := some "multipart/form-data; boundary=x; charsets=latin-1"

/-- Blank, escaped and malformed parameters lead to the same in both places, and to a position. -/
theorem blank_parameters_interchangeable :
    let text := "&id=%61&&lat=+1&lon=2&%zz&=&x&fuel=%e9".toList
    let received (raw : Http.RawRequest) := receive ⟨.text "osmand", .knots⟩ ⟨noFixTime, .utc⟩
      (idleServices : Services String Unit).recorded raw
    TakesParameters partsRequest ∧ (∀ c ∈ text, c.toNat < 0x80) ∧ text.length ≤ Http.bodyLimit ∧
      received (partsRequest.asking text) = received (partsRequest.posting text) ∧
      ((received (partsRequest.posting text)).toOption.bind fun action =>
        (action.run ((), [])).1.toOption.bind (·.position)).isSome = true := by
  intro text received
  have takes : TakesParameters partsRequest := by
    refine ⟨?_, ?_, ?_⟩
    · rintro type same
      cases same
      decide
    · intro header read
      have told : ((Http.HeaderValue.read (partsRequest.contentType.getD "")).toOption.bind
          (·.parameter? "charset")) = none := by
        decide +kernel
      rw [read] at told
      exact told
    · intro url read
      cases read
      rfl
  have ascii : ∀ c ∈ text, c.toNat < 0x80 := Text.ascii_of_all (by decide)
  have short : text.length ≤ Http.bodyLimit := by decide +kernel
  exact ⟨takes, ascii, short, (receive_query_eq_form takes ascii short _ _ _).1, by decide +kernel⟩

end Report

end Telematics
