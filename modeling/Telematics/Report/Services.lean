import Telematics.Position.Basic
import Telematics.Report.Rejection

/-!
What decoding a report needs from its surroundings: devices found by their identifiers, stored
notification tokens, the last known position, and the queue of commands.

Services act on a state `σ` and may fail with a fault `ε`. A failed action keeps the state that it
reached, so that the caller decides what is undone.

* `Services.recorded`: the same services with a record of every call.
-/

namespace Telematics.Report

/-- An action on a state, which may fail. -/
abbrev Action (ε σ α : Type) := ExceptT ε (StateM σ) α

/-- The services that decoding uses. -/
structure Services (ε σ : Type) where
  /-- The number of the device that one of the identifiers belongs to, for a protocol and the
      address that the report comes from. -/
  findDevice : (protocol : Json) → (remote : Option String) → (identifiers : List Letters) →
    Action ε σ (Option Int)
  /-- Keeps a notification token of a device. -/
  registerToken : (device : Int) → (token : String) → Action ε σ Unit
  /-- The newest stored position of a device. -/
  lastPosition : (device : Int) → Action ε σ (Option Position)
  /-- Takes at most `count` commands of a device out of the queue, oldest first, and gives their
      payloads. -/
  takeCommands : (device : Int) → (count : Nat) → Action ε σ (List Json)
  /-- The wording of a fault with which a service complains of what it was given. -/
  complaint? : ε → Option String := fun _ => none

/-- Why a report is not decoded. -/
inductive Failure (ε : Type) where
  | rejected (rejection : Rejection)
  /-- There are more fields than are read. -/
  | tooManyFields
  /-- The body of the request is too long. -/
  | bodyTooLong
  /-- The document is nested too deeply to be read. -/
  | tooDeep
  /-- The payload of a command has no UTF-8 form, and cannot be sent. -/
  | unencodable
  /-- A service failed. -/
  | service (fault : ε)
deriving DecidableEq, Repr

/-- An action of a service, as a part of decoding. -/
def call {ε σ α : Type} (action : Action ε σ α) : Action (Failure ε) σ α :=
  fun state =>
    match action state with
    | (.ok value, state) => (.ok value, state)
    | (.error fault, state) => (.error (.service fault), state)

/-- What a failure is while a parameter is handled: if a service complains of what it was given, it
    is the value of the parameter that is rejected. -/
def Failure.blame {ε : Type} (complaint? : ε → Option String) (key value : String) :
    Failure ε → Failure ε
  | .service fault =>
    match complaint? fault with
    | some complaint => .rejected (.malformedParameter key value (.service complaint))
    | none => .service fault
  | failure => failure

/-- A result that may be a rejection, as a part of decoding. -/
def orReject {ε σ α : Type} (result : Except Rejection α) : Action (Failure ε) σ α :=
  match result with
  | .ok value => pure value
  | .error rejection => throw (.rejected rejection)

/-- A call of a service. -/
inductive Call where
  | findDevice (protocol : Json) (remote : Option String) (identifiers : List Letters)
  | registerToken (device : Int) (token : String)
  | lastPosition (device : Int)
  | takeCommands (device : Int) (count : Nat)
deriving DecidableEq, Repr

/-- An action with a record of the call in front of it. The record has the newest call first. -/
def recordCall {ε σ α : Type} (what : Call) (action : Action ε σ α) :
    Action ε (σ × List Call) α :=
  fun (state, calls) =>
    let (result, state) := action state
    (result, (state, what :: calls))

/-- The same services with a record of every call, newest first. -/
def Services.recorded {ε σ : Type} (services : Services ε σ) : Services ε (σ × List Call) where
  findDevice protocol remote identifiers :=
    recordCall (.findDevice protocol remote identifiers)
      (services.findDevice protocol remote identifiers)
  registerToken device token :=
    recordCall (.registerToken device token) (services.registerToken device token)
  lastPosition device := recordCall (.lastPosition device) (services.lastPosition device)
  takeCommands device count :=
    recordCall (.takeCommands device count) (services.takeCommands device count)
  complaint? := services.complaint?

end Telematics.Report
