import Telematics.Stream.Subscription

/-!
What a connection does with a message of its group. The type of the message names a handler, points
standing for underscores. Beside the handler of positions there are those of the protocol between
the server and a connection, and names that a connection uses for things that handle nothing.

* `handlerOf`: the handler of a message, or why there is none.
* `Handler.react`: the reaction of a connection.
-/

namespace Telematics.Stream

/-- What a connection does. -/
inductive Event where
  | accept (subprotocol : Json)
  | close (code : Option Json)
  /-- A text is sent. -/
  | sent (text : String)
  /-- A document is sent in the place of a text. -/
  | sentDocument (document : Json)
  /-- A message is passed on as it is. -/
  | relayed (message : Message)
  /-- The connection has ended. -/
  | ended
  /-- The connection has ended with a fault. -/
  | failed (fault : Fault)
deriving DecidableEq, Repr

/-- The handlers of messages. -/
inductive Handler where
  /-- A position is sent to the listener. -/
  | position
  /-- The connection is opened, once more. -/
  | opening
  /-- The client has sent something. -/
  | receipt
  /-- The client has gone. -/
  | closing
  /-- The connection leaves its group, and stays open. -/
  | leave
  /-- Nothing is done. -/
  | ignore
  | accept
  | close
  | send
  /-- The message goes to the server as it is. -/
  | relay
  /-- The handler of the message is looked for again, without end. -/
  | again
  /-- The name is that of something which is no handler. -/
  | none
deriving DecidableEq, Repr

/-- The names of the handlers. -/
def handlerNames : List (String × Handler) := [
  (positionType, .position),
  ("websocket_connect", .opening), ("websocket_receive", .receipt),
  ("websocket_disconnect", .closing), ("disconnect", .leave), ("receive", .ignore),
  ("accept", .accept), ("close", .close), ("send", .send), ("base_send", .relay),
  ("dispatch", .again), ("connect", .none), ("as_asgi", .none), ("scope", .none),
  ("group_name", .none), ("channel_layer", .none), ("channel_layer_alias", .none),
  ("channel_name", .none), ("channel_receive", .none)]

/-- The handler of a message. -/
def handlerOf (message : Message) : Except Fault Handler :=
  match message.get? "type" with
  | Option.none => .error .noType
  | some (.text letters) =>
    let type := letters.shown
    let name := String.ofList (type.toList.map fun c => if c = '.' then '_' else c)
    if name.toList.head? = some '_' then .error .privateType
    else match handlerNames.lookup name with
      | some handler => .ok handler
      | Option.none => .error (.noHandler type)
  | some _ => .error .typeNotText

/-- What comes of a message: the events of the connection, and what becomes of its membership. -/
structure Reaction where
  events : List Event
  /-- The connection leaves its group. -/
  leaves : Bool := false
  /-- The connection has ended. -/
  ends : Bool := false
deriving DecidableEq, Repr

/-- A fault ends the connection, which stays in its group. -/
def Reaction.failure (fault : Fault) : Reaction := { events := [.failed fault], ends := true }

/-- The reaction of a connection to a message. -/
def Handler.react (handler : Handler) (message : Message) : Reaction :=
  match handler with
  | .position => { events := [.sent (frame message)] }
  | .opening => { events := [.accept .null] }
  | .receipt =>
    if (message.get? "text").isSome || (message.get? "bytes").isSome then { events := [] }
    else .failure (.noMember "bytes")
  | .closing =>
    if (message.get? "code").isSome then { events := [.ended], leaves := true, ends := true }
    else .failure (.noMember "code")
  | .leave => { events := [], leaves := true }
  | .ignore => { events := [] }
  | .accept => { events := [.accept (.object message)] }
  | .close => { events := [.close (some (.object message))] }
  | .send => { events := [.sentDocument (.object message)] }
  | .relay => { events := [.relayed message] }
  | .again => .failure .endless
  | .none => .failure .notHandler

/-- The reaction of a member of a group to a message. -/
def react (message : Message) : Reaction :=
  match handlerOf message with
  | .ok handler => handler.react message
  | .error fault => .failure fault

/-- A position is sent on, and changes nothing of the connection. -/
theorem react_positionMessage (position : Position) :
    react (positionMessage position) = { events := [.sent (frame (positionMessage position))] } :=
  rfl

end Telematics.Stream
