import Telematics.Json.Basic

/-!
Responses: a status, a content type, and a text, a JSON document or an HTML page as the content.

* `Response.plain`, `Response.empty`, `Response.page`, `Response.json`: the kinds of responses.
* `Response.head`: the response to a request for the head alone.
-/

namespace Telematics.Http

/-- The content of a response. -/
inductive Content where
  | text (text : String)
  | document (value : Json)
  /-- A page of HTML, whose wording is not part of the interface. -/
  | page
deriving DecidableEq, Repr

/-- A response. -/
structure Response where
  status : Nat
  contentType : String
  content : Content
  /-- Where to ask instead. -/
  location : Option String := none
deriving DecidableEq, Repr

/-- The content type of plain texts. -/
def plainText : String := "text/plain; charset=utf-8"

/-- The content type of HTML pages. -/
def htmlPage : String := "text/html; charset=utf-8"

/-- A response of plain text. -/
def Response.plain (status : Nat) (text : String) : Response :=
  ⟨status, plainText, .text text, none⟩

/-- A response without content. -/
def Response.empty (status : Nat) : Response := ⟨status, htmlPage, .text "", none⟩

/-- A response with an HTML page. -/
def Response.page (status : Nat) : Response := ⟨status, htmlPage, .page, none⟩

/-- A response with a JSON document. -/
def Response.json (status : Nat) (value : Json) : Response :=
  ⟨status, "application/json", .document value, none⟩

/-- The response to a request for the head alone: the same without content. -/
def Response.head (response : Response) : Response := { response with content := .text "" }

/-- The text of a payload as the content of a response: nothing for null, the items of a list and
    the keys of an object one after the other, and any other value as its text. None of these may be
    torn, for the content is sent as UTF-8. -/
def payloadText : Json → Option String
  | .null => some ""
  | .list items => String.join <$> items.mapM fun item => item.asText.whole?
  | .object members => String.join <$> members.mapM fun (key, _) => key.whole?
  | value => value.asText.whole?

end Telematics.Http
