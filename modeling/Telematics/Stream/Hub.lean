import Telematics.Stream.Handler

/-!
The hub of the stream: open connections, and groups to which messages are sent.

A connection has a name, and a channel that is its own for ever. Groups hold channels. A connection
that fails is forgotten by its name, while its channel stays in its group; nothing more is sent
there.

* `Hub.connect`, `Hub.disconnect`, `Hub.send`: the hub afterwards, and the events of every
  connection.
* `Hub.sizes`: the groups and the number of their members.
-/

namespace Telematics.Stream

/-- The events of connections, by name. -/
abbrev Events := List (String × List Event)

/-- An open connection. -/
structure Connection where
  name : String
  channel : Nat
  group : Option String := none
deriving DecidableEq, Repr

/-- A channel in a group. -/
structure Member where
  group : String
  channel : Nat
deriving DecidableEq, Repr

/-- Open connections, members of groups in the order of joining, and the next channel. -/
structure Hub where
  connections : List Connection := []
  members : List Member := []
  nextChannel : Nat := 0
deriving DecidableEq, Repr

namespace Hub

/-- The connection of a name. -/
def find? (hub : Hub) (name : String) : Option Connection :=
  hub.connections.find? (·.name = name)

/-- The hub without the connection of a name. Its channel stays in its group. -/
def forget (hub : Hub) (name : String) : Hub :=
  { hub with connections := hub.connections.filter (·.name ≠ name) }

/-- The hub with a new connection. -/
def add (hub : Hub) (name : String) (group : Option String) : Hub :=
  let hub := hub.forget name
  { connections := hub.connections ++ [⟨name, hub.nextChannel, group⟩]
    members := hub.members ++ (group.map fun group => ⟨group, hub.nextChannel⟩).toList
    nextChannel := hub.nextChannel + 1 }

/-- Opens a connection. One that is closed stays open on its side until it disconnects. -/
def connect (hub : Hub) (name : String) (opening : Opening) : Hub × Events :=
  match subscribe opening with
  | .joined group => (hub.add name (some group), [(name, [.accept .null])])
  | .closed => (hub.add name none, [(name, [.close none])])
  | .failed fault => (hub.forget name, [(name, [.failed fault])])

/-- A connection receives a text, which is ignored. There has to be a connection of the name. -/
def receive (hub : Hub) (name : String) : Option (Hub × Events) :=
  (hub.find? name).map fun _ => (hub, [])

/-- Ends a connection, whose channel leaves its group. -/
def disconnect (hub : Hub) (name : String) : Option (Hub × Events) :=
  (hub.find? name).map fun connection =>
    ({ hub.forget name with
        members := hub.members.filter (·.channel ≠ connection.channel) },
      [(name, [.ended])])

/-- A connection is a member of a group. -/
def isMember (hub : Hub) (group : String) (connection : Connection) : Bool :=
  hub.members.contains ⟨group, connection.channel⟩

/-- The hub after the reaction of connections. -/
def after (hub : Hub) (reaction : Reaction) (connections : List Connection) : Hub :=
  let names := connections.map (·.name)
  let channels := connections.map (·.channel)
  { hub with
    connections :=
      if reaction.ends then hub.connections.filter (!names.contains ·.name) else hub.connections
    members :=
      if reaction.leaves then hub.members.filter (!channels.contains ·.channel) else hub.members }

/-- The member of messages that is reserved for the layer that sends them. -/
def reservedKey : String := "__asgi_channel__"

/-- Sends a message to a group. Its members react one like the other. -/
def send (hub : Hub) (group : String) (message : Message) : Except Fault (Hub × Events) :=
  if !isGroupName group then .error (.groupName group)
  else if (message.get? reservedKey).isSome && hub.members.any (·.group = group) then
    .error (.reservedMember reservedKey)
  else
    let reaction := react message
    let connections := hub.connections.filter (hub.isMember group)
    let events := connections.map fun connection => (connection.name, reaction.events)
    .ok (hub.after reaction connections, events.filter (·.2 ≠ []))

/-- The groups that have members, and the number of their members. -/
def sizes (hub : Hub) : List (String × Nat) :=
  let names := hub.members.map (·.group)
  names.eraseDups.map fun name => (name, names.count name)

end Hub

end Telematics.Stream
