import Telematics.Http.Form
import Telematics.Http.Header
import Telematics.Http.Url

/-!
Requests, as they come and as they are understood. The content type tells the encoding of a request.
If it names a known one, the fields of the query string are read at once, and a request in which
they cannot be read is not understood.

* `RawRequest.read`: the request that is understood.
* `Request.charset`: the encoding of its fields.
* `Request.fields`: the fields of its query string.
* `Request.body?`: its body, unless that is too long.
-/

namespace Telematics.Http

/-- A request as it comes. -/
structure RawRequest where
  method : String := "GET"
  url : String := "/"
  /-- The query string. If it is empty, the query of the URL takes its place. -/
  query : List UInt8 := []
  body : List UInt8 := []
  contentType : Option String := none
  remote : Option String := none
  /-- The request comes with the session of a user. -/
  loggedIn : Bool := false
  /-- The request is checked for forgery, and carries no proof against it. -/
  unproven : Bool := false
  /-- The depth of nested lists and objects to which a document is read. It is what the stack leaves
      where the request is handled; the default is that of a call which stands alone. -/
  depth : Nat := 990
deriving DecidableEq, Repr

/-- A request. The path is as it was written, with percent escapes. -/
structure Request extends RawRequest where
  path : List Char
  /-- What the content type tells. -/
  header : HeaderValue
  /-- What the content type names as the encoding, if that is known. -/
  codec : Option Text.Codec
deriving DecidableEq, Repr

/-- Why a request is not understood. -/
inductive RequestFault where
  | host (fault : HostFault)
  | header (fault : HeaderFault)
  | fields (fault : FormFault)
  /-- There is a query string, and what is named as its encoding gives no texts. -/
  | noText
deriving DecidableEq, Repr

/-- The encoding of the fields of a request, UTF-8 if the request tells no other. -/
def Request.charset (request : Request) : Text.Charset :=
  match request.codec with
  | some (.text charset) => charset
  | some .bytes => .utf8
  | none => .utf8

/-- The greatest length of a body that is kept as a whole. -/
def bodyLimit : Nat := 2621440

/-- The body of a request, if it is not too long to be kept. -/
def Request.body? (request : Request) : Option (List UInt8) :=
  if bodyLimit < request.body.length then none else some request.body

/-- The fields of the query string. -/
def Request.fields (request : Request) : Except FormFault (List Field) :=
  readFormBytes request.charset request.query

/-- The codec that a content type names, if it is known. -/
def namedCodec? (header : HeaderValue) : Except HeaderFault (Option Text.Codec) :=
  match header.parameter? "charset" with
  | some name => if name.toList.contains '\x00' then .error .nullCharacter
    else .ok (Text.codecNamed? name)
  | none => .ok none

/-- The fields of a request can be read in the encoding that it tells. -/
def Request.check (request : Request) : Except RequestFault Unit :=
  match request.codec with
  | some (.text _) =>
    match request.fields with
    | .ok _ => .ok ()
    | .error fault => .error (.fields fault)
  | some .bytes => if request.query = [] then .ok () else .error .noText
  | none => .ok ()

/-- The request that is understood. -/
def RawRequest.read (raw : RawRequest) : Except RequestFault Request := do
  let url ← (Url.read raw.url.toList).mapError .host
  let header ← (HeaderValue.read (raw.contentType.getD "")).mapError .header
  let codec ← (namedCodec? header).mapError .header
  let query := if raw.query = [] then Text.utf8Bytes url.query else raw.query
  let request : Request := { raw with query, path := url.path, header, codec }
  request.check
  return request

/-- A request without a content type is understood if its URL is. -/
theorem RawRequest.read_of_plain {raw : RawRequest} {url : Url} (plain : raw.contentType = none)
    (place : Url.read raw.url.toList = .ok url) : ∃ request, raw.read = .ok request := by
  unfold RawRequest.read
  rw [plain, place]
  exact ⟨_, rfl⟩

end Telematics.Http
