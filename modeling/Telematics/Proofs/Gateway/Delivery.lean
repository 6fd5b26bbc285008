import Telematics.Proofs.Gateway.Run
import Telematics.Proofs.Store.Commands

/-!
Delivery of commands. Every command that is queued for a device is handed out once, in the order in
which the commands came, or waits. What a step hands out and what waits after it are together what
waited before it and what the step queues; from this the law of whole runs follows.

* `handedOut`, `queued`: what a step hands out to a device, and what it queues.
* `HandsOut`: what comes of a report that hands out a command.
* `step_delivery`, `run_delivery`: nothing is lost, duplicated or reordered.
-/

namespace Telematics.Gateway

open Relation (ReflTransGen)
open Report (Decoded Failure)

/-! ## Reports -/

/-- What comes of a report that hands out a command: the command is the oldest one of its device, it
    goes with a location of the device, and its payload is the content of the response. A text with
    halves of characters has not gone with one. -/
structure HandsOut (before : Gateway) (outcome : Outcome Http.Response) (row : Row Command) :
    Prop where
  oldest : ∃ rest, before.store.pending row.value.device = row :: rest
  removed : outcome.gateway.store.commands.rows = before.store.commands.rows.filter (· ≠ row)
  located : ∃ location,
    outcome.gateway.store.locations.rows = before.store.locations.rows ++ [location] ∧
      location.value.device = row.value.device
  answered : ∃ response, outcome.result = .ok response ∧ response.status = 200 ∧
    (∀ text, row.value.payload = .text text →
      ∃ whole, text = .whole whole ∧ response.content = .text whole) ∧
    (row.value.payload = .null → response.content = .text "")

/-- A position that is stored takes no other command than the one that is handed over. -/
theorem stored_handsOut {gateway middle after : Gateway} {device : Int} {position : Position}
    {response : Http.Response} {stored : Store.Stored} {store : Store} {outbox : Outbox}
    (commands : middle.store.commands = gateway.store.commands)
    (locations : middle.store.locations = gateway.store.locations)
    (own : position.deviceId = .int device) (handover : Handover middle device response after)
    (added : after.store.addPosition position = .ok (stored, store)) :
    store.commands = gateway.store.commands ∨
      ∃ row, HandsOut gateway ⟨.ok response, outbox, { after with store }⟩ row := by
  obtain ⟨location, ownLocation, -, -, rfl⟩ := Store.addPosition_eq_ok_of_int own added
  cases handover with
  | nothing => exact .inl commands
  | @oldest sent written =>
    have waiting : middle.store.pending device = gateway.store.pending device :=
      Store.pending_congr commands
    rcases Store.takeCommands_one_cases middle.store device with
      ⟨-, same⟩ | ⟨row, rest, first, taken, left⟩
    · refine .inl ?_
      rw [same]
      exact commands
    · rw [waiting] at first
      have mine : row.value.device = device := by
        refine (Store.mem_pending.mp (?_ : row ∈ gateway.store.pending device)).2
        rw [first]
        exact List.mem_cons_self
      subst mine
      refine .inr ⟨row, ⟨rest, first⟩, ?_,
        ⟨⟨gateway.store.locations.nextId, location⟩, ?_, ownLocation⟩, _, rfl, rfl, ?_, ?_⟩
      · rw [← commands]
        exact left
      · rw [← locations]
        rfl
      · intro text payload
        simp only [taken, List.map_cons, List.map_nil, List.getLast?_singleton, Option.getD_some,
          payload] at written
        cases text with
        | torn text => cases written
        | whole text =>
          cases written
          exact ⟨_, rfl, rfl⟩
      · intro payload
        simp only [taken, List.map_cons, List.map_nil, List.getLast?_singleton, Option.getD_some,
          payload] at written
        cases written
        rfl

/-- A report hands out one command or leaves the queue as it is. -/
theorem report_commands (gateway : Gateway) (request : Http.Request) :
    (gateway.report request).gateway.store.commands = gateway.store.commands ∨
      ∃ row, HandsOut gateway (gateway.report request) row := by
  have reporting := report_reporting gateway request
  generalize gateway.report request = outcome at reporting ⊢
  cases reporting with
  | unmade _ => exact .inl rfl
  | undecoded decodes _ =>
    obtain ⟨_, rfl⟩ := decodes.before_eq
    exact .inl rfl
  | @refused status before after _ decodes effects =>
    obtain ⟨_, rfl⟩ := decodes.before_eq
    obtain ⟨_, _, rfl⟩ := effects_frame effects
    refine .inl ?_
    unfold complete
    split <;> rfl
  | unstorable _ decodes _ _ _ =>
    obtain ⟨_, rfl⟩ := decodes.before_eq
    exact .inl rfl
  | @stored position device response before middle after stored store own decodes effects handover
      added =>
    obtain ⟨_, rfl⟩ := decodes.before_eq
    obtain ⟨_, _, rfl⟩ := effects_frame effects
    unfold complete
    split
    · refine stored_handsOut ?_ ?_ own handover added <;> rfl
    · exact .inl rfl

/-! ## Steps -/

/-- The command that a step asks to be queued. -/
def Step.ordered? (gateway : Gateway) : Step → Option Command
  | .queueCommand device type payload =>
    (Store.CommandForm.toCommand ⟨device, type, payload, gateway.clock.now⟩).toOption
  | .console arguments => gateway.consoleOrder? arguments
  | .request raw => gateway.order? raw
  | _ => none

/-- What a step queues for a device: the command that it asks for, if it succeeds. -/
def queued (gateway : Gateway) (what : Step) (device : Int) : List (Row Command) :=
  match what.ordered? gateway, (gateway.step what).result with
  | some command, .ok _ =>
    [⟨gateway.store.commands.nextId, command⟩].filter (·.value.device = device)
  | _, _ => []

/-- What a step hands out to a device: the commands that it takes, or those that are gone after a
    request that is answered with status 200. -/
def handedOut (gateway : Gateway) (what : Step) (device : Int) : List (Row Command) :=
  match what, (gateway.step what).result with
  | .takeCommands _ _, .ok (.taken rows) => rows.filter (·.value.device = device)
  | .request _, .ok (.response response) =>
    if response.status = 200 then
      (gateway.store.pending device).filter
        (· ∉ (gateway.step what).gateway.store.pending device)
    else []
  | _, _ => []

/-- What is handed out and what waits afterwards are what waited before and what is queued. -/
def Balanced (gateway : Gateway) (what : Step) (device : Int) : Prop :=
  handedOut gateway what device ++ (gateway.step what).gateway.store.pending device =
    gateway.store.pending device ++ queued gateway what device

/-- A step deletes a device. -/
def Deletes (gateway : Gateway) (what : Step) (device : Int) : Prop :=
  ∃ uniqueId row, what = .deleteDevice uniqueId ∧ gateway.deviceOf uniqueId = .ok row ∧
    row.id = device

variable {gateway : Gateway} {what : Step} {device : Int}

/-- A step that has nothing to do with the queue. -/
theorem balanced_of_same (noOrder : queued gateway what device = [])
    (nothing : handedOut gateway what device = [])
    (same : (gateway.step what).gateway.store.commands = gateway.store.commands) :
    Balanced gateway what device := by
  rw [Balanced, noOrder, nothing, List.nil_append, List.append_nil, Store.pending_congr same]

/-- A step that queues a command. -/
theorem balanced_of_queued {command : Command} {reply : Reply}
    (ordered : what.ordered? gateway = some command) (nothing : handedOut gateway what device = [])
    (done : (gateway.step what).result = .ok reply)
    (commands : (gateway.step what).gateway.store = (gateway.store.addCommand command).2) :
    Balanced gateway what device := by
  rw [Balanced, nothing, List.nil_append, commands, Store.pending_addCommand]
  simp only [queued, ordered, done]

/-- A request after which everything still waits hands out nothing. -/
theorem handedOut_of_subset {raw : Http.RawRequest}
    (waits : ∀ row ∈ gateway.store.pending device,
      row ∈ (gateway.step (.request raw)).gateway.store.pending device) :
    handedOut gateway (.request raw) device = [] := by
  have none : (gateway.store.pending device).filter
      (· ∉ (gateway.step (.request raw)).gateway.store.pending device) = [] := by
    rw [List.filter_eq_nil_iff]
    intro row present
    simpa using waits row present
  unfold handedOut
  split
  · rename_i same _
    cases same
  · split
    · exact none
    · rfl
  · rfl

theorem queued_of_no_order {raw : Http.RawRequest} (noOrder : gateway.order? raw = none) :
    queued gateway (.request raw) device = [] := by
  simp [queued, Step.ordered?, noOrder]

/-- A request that does not touch the queue. -/
theorem balanced_of_untouched {raw : Http.RawRequest} (noOrder : gateway.order? raw = none)
    (same : (gateway.step (.request raw)).gateway.store.commands = gateway.store.commands) :
    Balanced gateway (.request raw) device := by
  refine balanced_of_same (queued_of_no_order noOrder) (handedOut_of_subset ?_) same
  rw [Store.pending_congr same]
  exact fun _ present => present

/-- A request that hands out the oldest command of its device. -/
theorem balanced_of_handsOut {raw : Http.RawRequest} {row : Row Command}
    (noOrder : gateway.order? raw = none)
    (handsOut : HandsOut gateway (gateway.serve raw) row) :
    Balanced gateway (.request raw) device := by
  obtain ⟨⟨rest, oldest⟩, removed, -, response, answered, status, -⟩ := handsOut
  have after : (gateway.step (.request raw)).gateway.store.pending device =
      (gateway.store.pending device).filter (· ≠ row) := by
    show (gateway.serve raw).gateway.store.pending device = _
    rw [Store.pending, removed, Store.pending, List.filter_filter, List.filter_filter]
    simp only [Bool.and_comm]
  have result : (gateway.step (.request raw)).result = .ok (.response response) := by
    show (gateway.serve raw).result.map Reply.response = _
    rw [answered]
    rfl
  have distinct := Store.pending_nodup gateway.store row.value.device
  rw [oldest, List.nodup_cons] at distinct
  by_cases own : row.value.device = device
  · subst own
    have left : (gateway.store.pending row.value.device).filter (· ≠ row) = rest := by
      rw [oldest, List.filter_cons_of_neg (by simp), List.filter_eq_self]
      intro other present
      have differ : other ≠ row := fun same => distinct.1 (same ▸ present)
      simpa using differ
    -- Of what waited, the row alone does not wait any more.
    have given : handedOut gateway (.request raw) row.value.device = [row] := by
      simp only [handedOut, result, status, if_true, after, left]
      rw [oldest, List.filter_cons_of_pos (by simpa using distinct.1)]
      simp
    rw [Balanced, given, queued_of_no_order noOrder, after, left, oldest]
    simp
  · have left : (gateway.store.pending device).filter (· ≠ row) = gateway.store.pending device := by
      rw [List.filter_eq_self]
      intro other present
      have differ : other ≠ row := by
        rintro rfl
        exact own (Store.mem_pending.mp present).2
      simpa using differ
    have given : handedOut gateway (.request raw) device = [] := by
      refine handedOut_of_subset fun other present => ?_
      rw [after, left]
      exact present
    rw [Balanced, given, queued_of_no_order noOrder, after, left]
    simp

theorem balanced_of_request (gateway : Gateway) (raw : Http.RawRequest) (device : Int) :
    Balanced gateway (.request raw) device := by
  have serving := serve_serving gateway raw
  generalize served : gateway.serve raw = outcome at serving
  cases serving with
  | @report request reports noOrder =>
    rcases report_commands gateway request with same | ⟨row, handsOut⟩
    · refine balanced_of_untouched noOrder ?_
      show (gateway.serve raw).gateway.store.commands = _
      rw [served]
      exact same
    · refine balanced_of_handsOut noOrder (?_ : HandsOut _ _ row)
      rw [served]
      exact handsOut
  | @order command response _ ordered _ =>
    have done : gateway.step (.request raw) = ⟨.ok (.response response), [],
        { gateway with store := (gateway.store.addCommand command).2 }⟩ := by
      show (gateway.serve raw).toReply .response = _
      rw [served]
      rfl
    refine balanced_of_queued ordered (handedOut_of_subset fun row present => ?_)
      (congrArg Outcome.result done) (congrArg (·.gateway.store) done)
    rw [done]
    show row ∈ (gateway.store.addCommand command).2.pending device
    rw [Store.pending_addCommand]
    exact List.mem_append_left _ present
  | idle _ noOrder _ =>
    refine balanced_of_untouched noOrder ?_
    show (gateway.serve raw).gateway.store.commands = _
    rw [served]

/-- A command that is queued directly. -/
theorem balanced_of_attempt {α : Type} {reply : α → Reply} {change : Except Fault (α × Gateway)}
    (attempted : gateway.step what = gateway.attempt reply change)
    (nothing : handedOut gateway what device = [])
    (done : ∀ value after, change = .ok (value, after) → ∃ command,
      what.ordered? gateway = some command ∧
        after = { gateway with store := (gateway.store.addCommand command).2 }) :
    Balanced gateway what device := by
  rcases attempt_cases gateway reply change with ⟨value, after, succeeded, same⟩ | ⟨fault, -, same⟩
  · obtain ⟨command, ordered, rfl⟩ := done value after succeeded
    rw [← attempted] at same
    exact balanced_of_queued ordered nothing (congrArg Outcome.result same)
      (congrArg (·.gateway.store) same)
  · rw [← attempted] at same
    have none : queued gateway what device = [] := by
      simp only [queued, same]
      split
      · rename_i failed
        cases failed
      · rfl
    exact balanced_of_same none nothing (congrArg (·.gateway.store.commands) same)

/-- A device is handed the commands that are taken for it. -/
theorem takeCommands_balanced (gateway : Gateway) (asked count : Json) (device : Int) :
    Balanced gateway (.takeCommands asked count) device := by
  have step : gateway.step (.takeCommands asked count) =
      gateway.attempt .taken (gateway.takeCommands asked count) := rfl
  rcases attempt_cases gateway .taken (gateway.takeCommands asked count) with
    ⟨taken, after, done, same⟩ | ⟨fault, -, same⟩
  · have given : handedOut gateway (.takeCommands asked count) device =
        taken.filter (·.value.device = device) := by
      simp only [handedOut, step, same]
    rw [Balanced, given, step, same]
    show taken.filter (·.value.device = device) ++ after.store.pending device =
      gateway.store.pending device ++ []
    rw [List.append_nil]
    rcases takeCommands_cases done with ⟨rfl, rfl⟩ | ⟨id, limit, rfl, rfl⟩
    · rfl
    · rw [Store.filter_taken]
      split
      · rename_i own
        subst own
        exact Store.pending_takeCommands gateway.store id limit
      · rename_i differ
        exact Store.pending_takeCommands_of_ne gateway.store limit differ
  · have given : handedOut gateway (.takeCommands asked count) device = [] := by
      simp only [handedOut, step, same]
    exact balanced_of_same rfl given (by rw [step, same])

/-- What waits for a device stays when another one is deleted. -/
theorem deleteDevice_balanced {uniqueId : Json}
    (kept : ¬ Deletes gateway (.deleteDevice uniqueId) device) :
    Balanced gateway (.deleteDevice uniqueId) device := by
  have stays : (gateway.step (.deleteDevice uniqueId)).gateway.store.pending device =
      gateway.store.pending device := by
    refine attemptDone_invariant (·.store.pending device = gateway.store.pending device) rfl
      fun after deleted => ?_
    obtain ⟨row, found, rfl⟩ := deleteDevice_eq_ok deleted
    have differ : row.id ≠ device := fun own => kept ⟨uniqueId, row, rfl, found, own⟩
    exact Store.pending_deleteDevice_of_ne differ
  rw [Balanced, stays]
  exact (List.append_nil _).symm

/-- A step that does not delete a device hands out what waits longest, and what it queues waits
    behind everything else. -/
theorem step_delivery (kept : ¬ Deletes gateway what device) : Balanced gateway what device := by
  cases what with
  | request raw => exact balanced_of_request gateway raw device
  | takeCommands asked count => exact takeCommands_balanced gateway asked count device
  | deleteDevice uniqueId => exact deleteDevice_balanced kept
  | queueCommand asked type payload =>
    refine balanced_of_attempt rfl rfl fun row after done => ?_
    obtain ⟨command, made, -, -, same⟩ := queueCommand_eq_ok done
    exact ⟨command, by simp [Step.ordered?, made, Except.toOption], same⟩
  | console arguments =>
    refine balanced_of_attempt rfl rfl fun text after done => ?_
    obtain ⟨command, ordered, -, same⟩ := runConsole_eq_ok done
    exact ⟨command, ordered, same⟩
  | storePosition position =>
    refine balanced_of_same rfl rfl ?_
    show (gateway.storePosition position).gateway.store.commands = _
    rcases storePosition_cases gateway position with ⟨_, _, -, -, -, same⟩ | ⟨_, same⟩ <;>
      rw [same]
    rfl
  | setValid id valid =>
    refine balanced_of_same rfl rfl ?_
    refine attemptDone_invariant (·.store.commands = gateway.store.commands) rfl
      fun after done => ?_
    obtain ⟨_, _, -, -, rfl⟩ := setValid_eq_ok done
    rfl
  -- The other steps are about devices.
  | _ =>
    refine balanced_of_same rfl rfl (DevicesOnly.commands (step_devicesOnly ?_).2)
    exact trivial

/-! ## Runs -/

/-- What a run hands out to a device, in order. -/
def handedOutAlong : Gateway → List Step → Int → List (Row Command)
  | _, [], _ => []
  | gateway, what :: rest, device =>
    handedOut gateway what device ++ handedOutAlong (gateway.step what).gateway rest device

/-- What a run queues for a device, in order. -/
def queuedAlong : Gateway → List Step → Int → List (Row Command)
  | _, [], _ => []
  | gateway, what :: rest, device =>
    queued gateway what device ++ queuedAlong (gateway.step what).gateway rest device

theorem run_balanced {steps : List Step}
    (kept : Along (fun gateway what => ¬ Deletes gateway what device) gateway steps) :
    handedOutAlong gateway steps device ++ (gateway.run steps).store.pending device =
      gateway.store.pending device ++ queuedAlong gateway steps device := by
  -- What waits between two parts of a run is what the first leaves and the second begins with.
  induction steps generalizing gateway with
  | nil => simp [handedOutAlong, queuedAlong]
  | cons what rest ih =>
    have one : Balanced gateway what device := step_delivery kept.1
    have later := ih kept.2
    calc handedOutAlong gateway (what :: rest) device ++
          (gateway.run (what :: rest)).store.pending device
        = handedOut gateway what device ++
            (handedOutAlong (gateway.step what).gateway rest device ++
              ((gateway.step what).gateway.run rest).store.pending device) := by
          rw [handedOutAlong, run_cons, List.append_assoc]
      _ = handedOut gateway what device ++ ((gateway.step what).gateway.store.pending device ++
            queuedAlong (gateway.step what).gateway rest device) := by
          rw [later]
      _ = gateway.store.pending device ++ queuedAlong gateway (what :: rest) device := by
          rw [← List.append_assoc, one, List.append_assoc, queuedAlong]

/-- Every command that is queued for a device is handed out once, oldest first, or waits. A request
    queues a command if and only if it is answered so, if its time can be shown; and a report hands
    out one command at most, with a location, and its payload in the response. -/
theorem run_delivery (fresh : Fresh gateway) {steps : List Step}
    (kept : Along (fun gateway what => ¬ Deletes gateway what device) gateway steps) :
    handedOutAlong gateway steps device ++ (gateway.run steps).store.pending device =
        queuedAlong gateway steps device ∧
      ((gateway.run steps).store.pending device).Pairwise (·.id < ·.id) ∧
      (∀ clock row commands, row.id = device →
        ((gateway.run steps).store.pending device).mapM
            (Api.commandJson? clock row.value.uniqueId) = some commands →
        (∀ waiting ∈ (gateway.run steps).store.pending device,
          waiting.value.payload.asText.whole?.isSome = true) →
          Api.listCommands clock (gateway.run steps).store row =
            .ok (.json 200 (.object [("ok", .bool true), ("commands", .list commands)]))) ∧
      ∀ front raw back, steps = front ++ .request raw :: back →
        ((∃ response, ((gateway.run front).serve raw).result = .ok response ∧
            response.status = Api.createdStatus) ↔
          ((gateway.run front).order? raw).isSome = true ∧
            ((gateway.run front).clock.zone.at? (gateway.run front).clock.now).isSome = true) ∧
        ∀ request, (gateway.run front).report? raw = some request →
          ((gateway.run front).serve raw).gateway.store.commands =
              (gateway.run front).store.commands ∨
            ∃ row, HandsOut (gateway.run front) ((gateway.run front).serve raw) row := by
  refine ⟨?_, Store.pending_ordered _ _, ?_, fun front raw back _ => ⟨serve_created_iff _ raw, ?_⟩⟩
  · rw [run_balanced kept, fresh.store, Store.pending_empty, List.nil_append]
  · rintro clock row commands rfl listed whole
    rw [Api.listCommands, listed]
    dsimp only
    rw [if_pos (List.all_eq_true.mpr whole)]
  · intro request reports
    rw [serve_of_report reports]
    exact report_commands _ request

/-- A device is created, a command is queued for it, and its report fetches the command. -/
def fetching : List Step :=
  [.createDevice { name := some (.text "Van"), uniqueId := some (.text "a") },
    .queueCommand (.int 1) (.text "custom") (.text "stop"), reportStep "id=a&lat=1&lon=2"]

theorem fetching_delivery :
    Along (fun gateway what => ¬ Deletes gateway what 1) openGateway fetching ∧
      (handedOutAlong openGateway fetching 1).map (·.value.payload) = [.text "stop"] ∧
      handedOutAlong openGateway fetching 1 ++ (openGateway.run fetching).store.pending 1 =
        queuedAlong openGateway fetching 1 := by
  have kept : Along (fun gateway what => ¬ Deletes gateway what 1) openGateway fetching := by
    refine ⟨?_, ?_, ?_, trivial⟩ <;>
      · rintro ⟨uniqueId, row, same, -⟩
        cases same
  exact ⟨kept, by decide +kernel, (run_delivery openGateway_fresh kept).1⟩

end Telematics.Gateway
