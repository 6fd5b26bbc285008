import Telematics.Http.Host

/-!
URLs, as far as they tell a place on the server: a path and a query. The scheme in front of them is
passed over, and so is the fragment behind them. The name of the server only has to be sound.

* `Url.read`: the path and the query of a URL.
* `append_splitServer`: the name of a server is passed over, and nothing else.
-/

namespace Telematics.Http

/-- A place on the server. Percent escapes are as they were written. -/
structure Url where
  path : List Char
  query : List Char
deriving DecidableEq, Repr

/-- A character that may begin no URL: a space or a control. -/
def isLeadingNoise (c : Char) : Bool := c.toNat ≤ 0x20

/-- A character that counts nowhere in a URL: a tab or a line end. -/
def isInnerNoise (c : Char) : Bool := c = '\t' || c = '\r' || c = '\n'

/-- A character of a scheme. -/
def isSchemeChar (c : Char) : Bool := c.isAlphanum || c = '+' || c = '-' || c = '.'

/-- A URL without its scheme, if it has one. -/
def withoutScheme (url : List Char) : List Char :=
  match Text.splitFirst ':' url with
  | (first :: others, some rest) =>
    if first.isAlpha && others.all isSchemeChar then rest else url
  | _ => url

/-- A character that ends the name of a server. -/
def endsServer (c : Char) : Bool := c = '/' || c = '?' || c = '#'

/-- The name of the server, which is empty if a URL has none, and the rest of the URL. -/
def splitServer : List Char → List Char × List Char
  | '/' :: '/' :: rest => (rest.takeWhile (!endsServer ·), rest.dropWhile (!endsServer ·))
  | url => ([], url)

/-- The place that a URL tells. -/
def Url.read (text : List Char) : Except HostFault Url := do
  let url := (text.dropWhile isLeadingNoise).filter (!isInnerNoise ·)
  let (server, place) := splitServer (withoutScheme url)
  checkServer server
  let (path, query) := Text.splitFirst '?' (Text.splitFirst '#' place).1
  return ⟨path, query.getD []⟩

/-- The name of the server and what stands behind it are the whole. -/
theorem append_splitServer (url : List Char) :
    (splitServer ('/' :: '/' :: url)).1 ++ (splitServer ('/' :: '/' :: url)).2 = url := by
  exact List.takeWhile_append_dropWhile

end Telematics.Http
