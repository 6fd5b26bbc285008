import Telematics.Proofs.Gateway.Operation
import Telematics.Proofs.Gateway.Serve

/-!
Runs of the gateway, which begin without rows and without sessions.

* `Fresh`: how a run begins. `openGateway`: a gateway for runs that are looked at one by one.
* `Along`: what holds at every step of a run. `along_iff`: the steps of a run, one by one.
* `run_invariant`, `prefixes_iff`: what every step preserves holds after a run, and what is
  preserved by clean steps alone holds in every state of a run of clean steps.
* `step_devicesOnly`: the steps that leave commands and locations alone. `step_commandsOnly`: those
  that change commands alone.
* `step_isConsistent`, `run_isConsistent`: the store is consistent after every step and every run.
-/

namespace Telematics.Gateway

/-- Nothing is stored, and no session is kept. -/
structure Fresh (gateway : Gateway) : Prop where
  store : gateway.store = .empty
  sessions : gateway.sessions = []
  ownSessions : gateway.ownSessions = []

/-- A fresh gateway that registers unknown devices. -/
def openGateway : Gateway where
  clock := ⟨⟨⟨⟨2024, 1, 2, by decide⟩, ⟨3, 4, 5, 0, by decide⟩⟩, .zero⟩, .utc⟩
  settings := { registerUnknown := true }

theorem openGateway_fresh : Fresh openGateway := ⟨rfl, rfl, rfl⟩

/-- A report of flat parameters. -/
def reportStep (query : String) : Step := .request { query := query.toUTF8.toList }

/-- A report with two coordinates. -/
def placedReport : Http.RawRequest := { query := "id=a&lat=1&lon=2".toUTF8.toList }

/-- Something holds of every step of a run, in the state that the step begins with. -/
def Along (holds : Gateway → Step → Prop) : Gateway → List Step → Prop
  | _, [] => True
  | gateway, what :: rest => holds gateway what ∧ Along holds (gateway.step what).gateway rest

variable {holds : Gateway → Step → Prop}

theorem along_append {gateway : Gateway} {first second : List Step} :
    Along holds gateway (first ++ second) ↔
      Along holds gateway first ∧ Along holds (gateway.run first) second := by
  induction first generalizing gateway with
  | nil => simp [Along]
  | cons what rest ih => simp [Along, ih, and_assoc]

/-- What holds along a run holds of each of its steps. -/
theorem along_iff {gateway : Gateway} {steps : List Step} :
    Along holds gateway steps ↔
      ∀ front what back, steps = front ++ what :: back → holds (gateway.run front) what := by
  constructor
  · rintro along front what back rfl
    exact (along_append.1 along).2.1
  · intro each
    induction steps generalizing gateway with
    | nil => exact trivial
    | cons what rest ih =>
      refine ⟨each [] what rest rfl, ih fun front next back same => ?_⟩
      exact each (what :: front) next back (by rw [same]; rfl)

/-- What holds of every step, wherever it is done, holds along a run. -/
theorem along_of_forall {gateway : Gateway} {allowed : Step → Prop} {steps : List Step}
    (all : ∀ what ∈ steps, allowed what) : Along (fun _ what => allowed what) gateway steps := by
  rw [along_iff]
  rintro front what back rfl
  exact all what List.mem_append_cons_self

/-- What is preserved by every step of a run holds after the run. -/
theorem run_invariant (invariant : Gateway → Prop) {gateway : Gateway} {steps : List Step}
    (preserved : ∀ gateway what, invariant gateway → holds gateway what →
      invariant (gateway.step what).gateway)
    (begins : invariant gateway) (along : Along holds gateway steps) :
    invariant (gateway.run steps) := by
  induction steps generalizing gateway with
  | nil => exact begins
  | cons what rest ih => exact ih (preserved gateway what begins along.1) along.2

/-- Where a step preserves something if and only if the step is clean, it holds in every state of a
    run if and only if every step of the run is clean. `ground` is what may be relied on anyway. -/
theorem prefixes_iff (ground invariant : Gateway → Prop) {allowed : Step → Prop}
    {clean : Gateway → Step → Prop}
    (lasts : ∀ gateway what, ground gateway → ground (gateway.step what).gateway)
    (law : ∀ gateway what, ground gateway → invariant gateway → allowed what →
      (invariant (gateway.step what).gateway ↔ clean gateway what))
    {gateway : Gateway} {steps : List Step} (stands : ground gateway) (begins : invariant gateway)
    (all : ∀ what ∈ steps, allowed what) :
    (∀ front back, steps = front ++ back → invariant (gateway.run front)) ↔
      Along clean gateway steps := by
  induction steps generalizing gateway with
  | nil =>
    refine iff_of_true (fun front back split => ?_) trivial
    obtain ⟨rfl, -⟩ := List.append_eq_nil_iff.1 split.symm
    exact begins
  | cons what rest ih =>
    have one := law gateway what stands begins (all what List.mem_cons_self)
    have later := fun next present => all next (List.mem_cons_of_mem what present)
    constructor
    · intro holds
      have next : invariant (gateway.step what).gateway := holds [what] rest rfl
      refine ⟨one.1 next, (ih (lasts gateway what stands) next later).1 fun front back split => ?_⟩
      exact holds (what :: front) back (by rw [split]; rfl)
    · rintro ⟨first, along⟩ front back split
      cases front with
      | nil => exact begins
      | cons head front =>
        obtain ⟨rfl, splitRest⟩ := List.cons.inj split
        exact (ih (lasts gateway what stands) (one.2 first) later).2 along front back splitRest

/-- What is attempted keeps what holds of the gateway if it does so where it succeeds. -/
theorem attempt_invariant {α : Type} (invariant : Gateway → Prop) {gateway : Gateway}
    {reply : α → Reply} {change : Except Fault (α × Gateway)} (begins : invariant gateway)
    (preserved : ∀ value after, change = .ok (value, after) → invariant after) :
    invariant (gateway.attempt reply change).gateway := by
  rcases attempt_cases gateway reply change with ⟨value, after, done, same⟩ | ⟨fault, -, same⟩
  · rw [same]
    exact preserved value after done
  · rw [same]
    exact begins

theorem attemptDone_invariant (invariant : Gateway → Prop) {gateway : Gateway}
    {change : Except Fault Gateway} (begins : invariant gateway)
    (preserved : ∀ after, change = .ok after → invariant after) :
    invariant (gateway.attemptDone change).gateway := by
  refine attempt_invariant invariant begins fun value after done => ?_
  obtain ⟨middle, made, same⟩ := map_eq_ok_iff.1 done
  cases same
  exact preserved _ made

/-- The next number belongs to no device. -/
theorem hasDevice_nextId (store : Store) : store.hasDevice store.devices.nextId = false := by
  rw [Store.hasDevice, Store.device?, Table.find?_nextId]
  rfl

/-! ## Steps that leave commands and locations alone -/

/-- A step is about devices, about sessions, or about how the gateway is set up. -/
def Step.IsAboutDevices : Step → Prop
  | .deleteDevice _ | .queueCommand _ _ _ | .takeCommands _ _ | .storePosition _ | .setValid _ _
  | .request _ | .console _ => False
  | _ => True

/-- Devices change at most, and commands and locations do not. -/
structure DevicesOnly (gateway after : Gateway) : Prop where
  store : after.store = gateway.store ∨ Store.Change gateway.store after.store
  commands : after.store.commands = gateway.store.commands
  locations : after.store.locations = gateway.store.locations

theorem devicesOnly_of_same {gateway after : Gateway} (same : after.store = gateway.store) :
    DevicesOnly gateway after :=
  ⟨.inl same, by rw [same], by rw [same]⟩

theorem openSession_devicesOnly {gateway after : Gateway} {protocol remote : Json}
    {identifiers : List String} {session : Option Session}
    (opened : gateway.openSession protocol remote identifiers = .ok (session, after)) :
    DevicesOnly gateway after := by
  cases openSession_opening opened with
  | registered name _ _ _ _ => exact ⟨.inr (.deviceAdded (hasDevice_nextId _)), rfl, rfl⟩
  | kept _ => exact devicesOnly_of_same rfl
  | known _ _ _ => exact devicesOnly_of_same rfl
  | disabled _ _ _ => exact devicesOnly_of_same rfl
  | unknown _ _ _ => exact devicesOnly_of_same rfl

theorem openOwnSession_devicesOnly {gateway after : Gateway} {protocol remote : Json}
    {identifiers : List String} {session : Option Session}
    (opened : gateway.openOwnSession protocol remote identifiers = .ok (session, after)) :
    DevicesOnly gateway after := by
  rcases openOwnSession_cases opened with ⟨_, rfl⟩ | ⟨name, identifier, _, rfl⟩
  · exact devicesOnly_of_same rfl
  · exact ⟨.inr (.deviceAdded (hasDevice_nextId _)), rfl, rfl⟩

theorem outbox_attempt {α : Type} (gateway : Gateway) (reply : α → Reply)
    (change : Except Fault (α × Gateway)) : (gateway.attempt reply change).outbox = [] := by
  rcases attempt_cases gateway reply change with ⟨_, _, -, same⟩ | ⟨_, -, same⟩ <;> rw [same]

/-- A step that is about devices sends nothing and leaves commands and locations alone. -/
theorem step_devicesOnly {gateway : Gateway} {what : Step} (about : what.IsAboutDevices) :
    (gateway.step what).outbox = [] ∧ DevicesOnly gateway (gateway.step what).gateway := by
  have begins : DevicesOnly gateway gateway := devicesOnly_of_same rfl
  cases what with
  | setTime _ => exact ⟨rfl, devicesOnly_of_same rfl⟩
  | setSettings _ => exact ⟨rfl, devicesOnly_of_same rfl⟩
  | setLayer _ => exact ⟨rfl, devicesOnly_of_same rfl⟩
  | forgetDecoder => exact ⟨rfl, devicesOnly_of_same rfl⟩
  | clearSessions manager => cases manager <;> exact ⟨rfl, devicesOnly_of_same rfl⟩
  | createDevice change =>
    refine ⟨outbox_attempt _ _ _, attempt_invariant _ begins fun form after created => ?_⟩
    obtain ⟨id, device, free, rfl⟩ := createDevice_eq_ok created
    exact ⟨.inr (.deviceAdded free), rfl, rfl⟩
  | updateDevice uniqueId change =>
    refine ⟨outbox_attempt _ _ _, attempt_invariant _ begins fun form after updated => ?_⟩
    rcases updateDevice_cases updated with ⟨row, device, -, -, rfl⟩ | ⟨id, device, -, free, rfl⟩
    · -- Whichever sessions are dropped, the store is what the change made of it.
      have store := store_evictNumbered
        { gateway with store := gateway.store.setDevice row.id device } form.id
      exact ⟨.inr (by rw [store]; exact .deviceReplaced), by rw [store]; rfl, by rw [store]; rfl⟩
    · exact ⟨.inr (.deviceAdded free), rfl, rfl⟩
  | overwriteDevice uniqueId change =>
    refine ⟨outbox_attempt _ _ _, attempt_invariant _ begins fun count after done => ?_⟩
    rcases overwriteDevice_cases done with rfl | ⟨id, device, rfl⟩ | ⟨old, new, device, alone, rfl⟩
    · exact devicesOnly_of_same rfl
    · exact ⟨.inr .deviceReplaced, rfl, rfl⟩
    · exact ⟨.inr (.deviceRenumbered alone), rfl, rfl⟩
  | openSession manager protocol remote identifiers =>
    refine ⟨outbox_attempt _ _ _, attempt_invariant _ begins fun session after opened => ?_⟩
    cases manager with
    | shared => exact openSession_devicesOnly opened
    | own => exact openOwnSession_devicesOnly opened
  | evict manager device =>
    cases manager with
    | shared => exact ⟨rfl, devicesOnly_of_same (store_evictNumbered gateway device)⟩
    | own =>
      obtain ⟨ownSessions, same⟩ := evictOwnNumbered_eq gateway device
      refine ⟨rfl, devicesOnly_of_same ?_⟩
      show (gateway.evictOwnNumbered device).store = gateway.store
      rw [same]
  | registerToken device token =>
    refine ⟨outbox_attempt _ _ _, attemptDone_invariant _ begins fun after done => ?_⟩
    rcases registerTokenOf_cases done with rfl | ⟨id, store, added, rfl⟩
    · exact devicesOnly_of_same rfl
    · obtain ⟨row, members, tokens, -, -, -, rfl⟩ := Store.addToken_eq_added added
      exact ⟨.inr .deviceReplaced, rfl, rfl⟩
  | newestPosition device =>
    refine ⟨outbox_attempt _ _ _, attempt_invariant _ begins fun position after done => ?_⟩
    obtain ⟨_, -, same⟩ := map_eq_ok_iff.1 done
    cases same
    exact devicesOnly_of_same rfl
  | deleteDevice _ | queueCommand _ _ _ | takeCommands _ _ | storePosition _ | setValid _ _
  | request _ | console _ => exact about.elim

/-! ## Steps that change commands alone -/

/-- A step is about commands, or it is a request that is no report. -/
def Step.IsAboutCommands (gateway : Gateway) : Step → Prop
  | .queueCommand _ _ _ | .takeCommands _ _ | .console _ => True
  | .request raw => gateway.report? raw = none
  | _ => False

/-- Commands change at most. -/
def CommandsOnly (gateway after : Gateway) : Prop :=
  ∃ commands, after = { gateway with store := { gateway.store with commands } }

/-- A step that is about commands changes nothing else. -/
theorem step_commandsOnly {gateway : Gateway} {what : Step} (about : what.IsAboutCommands gateway) :
    CommandsOnly gateway (gateway.step what).gateway := by
  have begins : CommandsOnly gateway gateway := ⟨gateway.store.commands, rfl⟩
  cases what with
  | queueCommand device type payload =>
    refine attempt_invariant _ begins fun row after queued => ?_
    obtain ⟨command, -, -, -, rfl⟩ := queueCommand_eq_ok queued
    exact ⟨_, rfl⟩
  | takeCommands device count =>
    refine attempt_invariant _ begins fun taken after done => ?_
    rcases takeCommands_cases done with ⟨-, rfl⟩ | ⟨id, limit, -, rfl⟩
    · exact begins
    · exact ⟨_, rfl⟩
  | console arguments =>
    refine attempt_invariant _ begins fun text after done => ?_
    obtain ⟨command, -, -, rfl⟩ := runConsole_eq_ok done
    exact ⟨_, rfl⟩
  | request raw =>
    show CommandsOnly gateway (gateway.serve raw).gateway
    have serving := serve_serving gateway raw
    generalize gateway.serve raw = outcome at serving ⊢
    cases serving with
    | report reports _ => exact absurd (reports.symm.trans about) (Option.some_ne_none _)
    | order _ _ _ => exact ⟨_, rfl⟩
    | idle _ _ _ => exact begins
  | _ => exact about.elim

/-! ## Consistency -/

theorem DevicesOnly.isConsistent {gateway after : Gateway} (only : DevicesOnly gateway after)
    (consistent : gateway.store.isConsistent = true) : after.store.isConsistent = true := by
  rcases only.store with same | change
  · rw [same]
    exact consistent
  · exact change.isConsistent consistent

/-- Every step keeps the store consistent. -/
theorem step_isConsistent {gateway : Gateway} (consistent : gateway.store.isConsistent = true)
    (what : Step) : (gateway.step what).gateway.store.isConsistent = true := by
  cases what with
  | deleteDevice uniqueId =>
    refine attemptDone_invariant (·.store.isConsistent = true) consistent fun after deleted => ?_
    obtain ⟨row, -, rfl⟩ := deleteDevice_eq_ok deleted
    exact Store.Change.deviceDeleted.isConsistent consistent
  | queueCommand device type payload =>
    refine attempt_invariant (·.store.isConsistent = true) consistent fun row after queued => ?_
    obtain ⟨command, -, known, -, rfl⟩ := queueCommand_eq_ok queued
    exact (Store.Change.commandQueued known).isConsistent consistent
  | takeCommands device count =>
    refine attempt_invariant (·.store.isConsistent = true) consistent fun taken after done => ?_
    rcases takeCommands_cases done with ⟨-, rfl⟩ | ⟨id, limit, -, rfl⟩
    · exact consistent
    · exact Store.Change.commandsRemoved.isConsistent consistent
  | storePosition position =>
    show (gateway.storePosition position).gateway.store.isConsistent = true
    rcases storePosition_cases gateway position with
      ⟨stored, location, -, -, known, same⟩ | ⟨fault, same⟩
    · rw [same]
      exact (Store.Change.locationAdded known).isConsistent consistent
    · rw [same]
      exact consistent
  | setValid id valid =>
    refine attemptDone_invariant (·.store.isConsistent = true) consistent fun after done => ?_
    obtain ⟨row, location, found, owner, rfl⟩ := setValid_eq_ok done
    exact (Store.Change.locationReplaced found owner).isConsistent consistent
  | request raw =>
    show (gateway.serve raw).gateway.store.isConsistent = true
    have serving := serve_serving gateway raw
    generalize gateway.serve raw = outcome at serving ⊢
    cases serving with
    | report _ _ => exact report_isConsistent consistent
    | order _ ordered _ =>
      exact (Store.Change.commandQueued (order?_known ordered)).isConsistent consistent
    | idle _ _ _ => exact consistent
  | console arguments =>
    refine attempt_invariant (·.store.isConsistent = true) consistent fun text after done => ?_
    obtain ⟨command, -, known, rfl⟩ := runConsole_eq_ok done
    exact (Store.Change.commandQueued known).isConsistent consistent
  -- The other steps are about devices.
  | _ =>
    refine DevicesOnly.isConsistent (step_devicesOnly ?_).2 consistent
    exact trivial

/-- The store is consistent after every run. -/
theorem run_isConsistent {gateway : Gateway} (fresh : Fresh gateway) (steps : List Step) :
    (gateway.run steps).store.isConsistent = true := by
  have begins : gateway.store.isConsistent = true := by
    rw [fresh.store]
    exact Store.isConsistent_empty
  exact run_invariant (·.store.isConsistent = true)
    (fun _ what consistent _ => step_isConsistent consistent what) begins
    (along_of_forall fun _ _ => trivial)

end Telematics.Gateway
