import Telematics.Http.Request

/-!
Routes: what stands at the path of a request. Percent escapes of a path are UTF-8; bytes that are
not stay escaped. A path that lacks only the final slash is sent to the one that has it.

* `route?`: what stands at a path.
* `target`: a route, a redirection, or nothing.
-/

namespace Telematics.Api

/-- What stands at a path. -/
inductive Route where
  /-- The entry of reports. -/
  | reports
  /-- Whether the service is up. -/
  | health
  /-- The commands of the device of an identifier. -/
  | commands (uniqueId : String)
deriving DecidableEq, Repr

/-- A piece of a path, in which bytes that are no text are escaped again. -/
def pieceText : Text.Piece → List Char
  | .illFormed bytes _ => bytes.flatMap Text.percentByte
  | piece => piece.shown

/-- A path without its escapes. The empty path is the root. -/
def pathText (path : List Char) : List Char :=
  match (Text.utf8Pieces (Text.percentBytes path)).flatMap pieceText with
  | [] => ['/']
  | text => text

/-- The path of the entry of reports. -/
def reportsPath : String := "/"

/-- The path of the health check. -/
def healthPath : String := "/api/v1/health/"

/-- What is in front of the identifier in a path of commands. -/
def commandsStart : String := "/api/v1/devices/"

/-- What follows the identifier in a path of commands. -/
def commandsEnd : String := "/commands/"

/-- What is between a beginning and an end of a text. -/
def between? (start stop : List Char) (text : List Char) : Option (List Char) :=
  if start.isPrefixOf text && stop.isSuffixOf (text.drop start.length) then
    some ((text.drop start.length).take (text.length - start.length - stop.length))
  else none

/-- What stands at a path without escapes. An identifier is not empty and has no slash. -/
def route? (path : List Char) : Option Route :=
  if path = reportsPath.toList then some .reports
  else if path = healthPath.toList then some .health
  else match between? commandsStart.toList commandsEnd.toList path with
    | some identifier =>
      if identifier = [] || identifier.contains '/' then none
      else some (.commands (String.ofList identifier))
    | none => none

/-- What a request is answered with. -/
inductive Target where
  | route (route : Route)
  | redirect (location : String)
  | nothing
deriving DecidableEq, Repr

/-- A character of a path that is written without escape. -/
def isPathChar (c : Char) : Bool := Text.isUnreserved c || "/:@&+$,!*'()".toList.contains c

/-- A character of a query that is written without escape. -/
def isQueryChar (c : Char) : Bool := Text.isUnreserved c || "/#%[]=:;$&()+,!?*@'".toList.contains c

/-- Where to ask instead: the path with a slash at its end, and the query. -/
def withSlash (path : List Char) (query : List UInt8) : String :=
  let question := match query with
    | [] => []
    | query => '?' :: Text.percentEncode isQueryChar (Text.latin1Text query)
  String.ofList (Text.percentEncode isPathChar path ++ '/' :: question)

/-- What a request is answered with. -/
def target (request : Http.Request) : Target :=
  let path := pathText request.path
  match route? path with
  | some route => .route route
  | none =>
    if path.getLast? ≠ some '/' && (route? (path ++ ['/'])).isSome then
      .redirect (withSlash path request.query)
    else .nothing

end Telematics.Api
