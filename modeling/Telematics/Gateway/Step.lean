import Telematics.Gateway.Serve

/-!
Steps: everything that can happen to the gateway, one after the other.

* `step`: what comes of a step.
* `run`: the gateway after steps.
* `run_append`: a run of two parts is a run of the second part after the first.
-/

namespace Telematics.Gateway

open Calendar (Moment)

/-- The managers of sessions. The second one learns of no change of a device. -/
inductive Manager where
  | shared
  | own
deriving DecidableEq, Repr

/-- What can happen to the gateway. -/
inductive Step where
  | setTime (now : Moment)
  | setSettings (settings : IngestSettings)
  | setLayer (layer : Layer)
  /-- The decoder will be made anew. -/
  | forgetDecoder
  | createDevice (change : DeviceChange)
  | updateDevice (uniqueId : Json) (change : DeviceChange)
  | overwriteDevice (uniqueId : Json) (change : DeviceChange)
  | deleteDevice (uniqueId : Json)
  | openSession (manager : Manager) (protocol remote : Json) (identifiers : List String)
  | evict (manager : Manager) (device : Json)
  | clearSessions (manager : Manager)
  | queueCommand (device type payload : Json)
  | takeCommands (device count : Json)
  | registerToken (device token : Json)
  | storePosition (position : Position)
  | setValid (id valid : Json)
  | newestPosition (device : Json)
  | request (request : Http.RawRequest)
  | console (arguments : List String)
deriving DecidableEq, Repr

/-- The result of a step. -/
inductive Reply where
  | done
  | device (form : DeviceForm)
  /-- The number of changed devices. -/
  | changed (count : Nat)
  | session (session : Option Session)
  /-- The sessions that are left. -/
  | sessions (sessions : Sessions)
  /-- A command with its number, as it was handed in. -/
  | command (id : Int) (form : Store.CommandForm)
  /-- The commands that were taken out of the queue. -/
  | taken (rows : List (Row Command))
  /-- The number of a stored position. -/
  | stored (id : Int)
  | position (position : Option Position)
  | response (response : Http.Response)
  | text (text : String)
deriving DecidableEq, Repr

/-- What comes of something that sends no messages and changes nothing if it fails. -/
def attempt {α : Type} (gateway : Gateway) (reply : α → Reply)
    (change : Except Fault (α × Gateway)) : Outcome Reply :=
  match change with
  | .ok (value, after) => ⟨.ok (reply value), [], after⟩
  | .error fault => ⟨.error fault, [], gateway⟩

/-- What comes of something that changes the gateway and has no result. -/
def attemptDone (gateway : Gateway) (change : Except Fault Gateway) : Outcome Reply :=
  gateway.attempt (fun (_ : PUnit) => .done) (change.map (⟨⟩, ·))

/-- What comes of something that cannot fail. -/
def done (gateway : Gateway) : Outcome Reply := ⟨.ok .done, [], gateway⟩

/-- An outcome with its result as a reply. -/
def Outcome.toReply {α : Type} (reply : α → Reply) (outcome : Outcome α) : Outcome Reply :=
  ⟨outcome.result.map reply, outcome.outbox, outcome.gateway⟩

/-- Opens a session at a manager. -/
def openSessionAt (gateway : Gateway) (manager : Manager) (protocol remote : Json)
    (identifiers : List String) : Outcome Reply :=
  gateway.attempt .session (match manager with
    | .shared => gateway.openSession protocol remote identifiers
    | .own => gateway.openOwnSession protocol remote identifiers)

/-- Drops the sessions of a device at a manager. -/
def evictAt (gateway : Gateway) (manager : Manager) (device : Json) : Outcome Reply :=
  match manager with
  | .shared =>
    let after := gateway.evictNumbered device
    ⟨.ok (.sessions after.sessions), [], after⟩
  | .own =>
    let after := gateway.evictOwnNumbered device
    ⟨.ok (.sessions after.ownSessions), [], after⟩

/-- Queues a command, which is shown as it was handed in. -/
def queue (gateway : Gateway) (form : Store.CommandForm) : Outcome Reply :=
  gateway.attempt (fun row => .command row.id form) (gateway.queueCommand form)

/-- Tells the newest position of a device. -/
def tellNewest (gateway : Gateway) (device : Json) : Outcome Reply :=
  gateway.attempt .position ((gateway.newestOf device).map (·, gateway))

/-- Drops all sessions at a manager. -/
def clearSessionsAt (gateway : Gateway) (manager : Manager) : Gateway :=
  match manager with
  | .shared => { gateway with sessions := [] }
  | .own => { gateway with ownSessions := [] }

/-- What comes of a step. -/
def step (gateway : Gateway) : Step → Outcome Reply
  | .setTime now => done { gateway with clock.now := now }
  | .setSettings settings => done { gateway with settings }
  | .setLayer layer => done { gateway with layer }
  | .forgetDecoder => done { gateway with decoder := none }
  | .createDevice change => gateway.attempt .device (gateway.createDevice change)
  | .updateDevice uniqueId change =>
    gateway.attempt .device (gateway.updateDevice uniqueId change)
  | .overwriteDevice uniqueId change =>
    gateway.attempt .changed (gateway.overwriteDevice uniqueId change)
  | .deleteDevice uniqueId => gateway.attemptDone (gateway.deleteDevice uniqueId)
  | .openSession manager protocol remote identifiers =>
    gateway.openSessionAt manager protocol remote identifiers
  | .evict manager device => gateway.evictAt manager device
  | .clearSessions manager => done (gateway.clearSessionsAt manager)
  | .queueCommand device type payload =>
    gateway.queue ⟨device, type, payload, gateway.clock.now⟩
  | .takeCommands device count => gateway.attempt .taken (gateway.takeCommands device count)
  | .registerToken device token => gateway.attemptDone (gateway.registerTokenOf device token)
  | .storePosition position => (gateway.storePosition position).toReply .stored
  | .setValid id valid => gateway.attemptDone (gateway.setValid id valid)
  | .newestPosition device => gateway.tellNewest device
  | .request request => (gateway.serve request).toReply .response
  | .console arguments => gateway.attempt .text (gateway.runConsole arguments)

/-- The gateway after steps. -/
def run (gateway : Gateway) (steps : List Step) : Gateway :=
  steps.foldl (fun gateway what => (gateway.step what).gateway) gateway

@[simp] theorem run_nil (gateway : Gateway) : gateway.run [] = gateway := rfl

@[simp] theorem run_cons (gateway : Gateway) (what : Step) (steps : List Step) :
    gateway.run (what :: steps) = (gateway.step what).gateway.run steps := rfl

theorem run_append (gateway : Gateway) (first second : List Step) :
    gateway.run (first ++ second) = (gateway.run first).run second :=
  List.foldl_append

end Telematics.Gateway
