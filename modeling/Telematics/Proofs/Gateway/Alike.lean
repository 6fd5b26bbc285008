import Telematics.Proofs.Gateway.Ingest
import Telematics.Proofs.Report.Agreement
import Telematics.Proofs.Store.Account

/-!
Gateways that are alike for a device. Where no device is registered, who may report under an
identifier is fixed by the devices that there were in the beginning, whether a session is kept or
the store is asked. Two such gateways that hold the same account of a device answer its reports
alike, and the reports of other devices leave them alike.

* `Faithful`: sessions and store lead to the devices that there were in the beginning.
* `Alike`: two faithful gateways with the same account of a device.
* `services_agree`: the services do the same for the device in gateways that are alike.
* `services_of_others`: for other devices they leave gateways alike.
* `report_alike`, `report_of_others`: so do reports.
-/

namespace Telematics.Gateway

open Report (Decoded Failure identifiers)

/-! ## Faithful gateways -/

/-- Under every identifier the same device may report as in the beginning, and sessions are kept for
    no other one. -/
structure Faithful (origin : Store) (gateway : Gateway) : Prop where
  consistent : gateway.store.isConsistent = true
  closed : gateway.settings.registerUnknown = false
  grants : ∀ identifier, gateway.store.grants identifier = origin.grants identifier
  sessions : ∀ entry ∈ gateway.sessions, origin.grants entry.1 = some entry.2.device

variable {origin : Store} {gateway after : Gateway} {device other : Int}

namespace Faithful

/-- A gateway without sessions is faithful to the devices that it has. -/
theorem ofEmpty (consistent : gateway.store.isConsistent = true)
    (closed : gateway.settings.registerUnknown = false) (empty : gateway.sessions = []) :
    Faithful gateway.store gateway where
  consistent := consistent
  closed := closed
  grants _ := rfl
  sessions entry kept := by
    rw [empty] at kept
    exact absurd kept List.not_mem_nil

theorem withStore (faithful : Faithful origin gateway) {store : Store}
    (consistent : store.isConsistent = true)
    (grants : ∀ identifier, store.grants identifier = gateway.store.grants identifier) :
    Faithful origin { gateway with store } :=
  { faithful with
    consistent := consistent
    grants := fun identifier => (grants identifier).trans (faithful.grants identifier) }

theorem evict (faithful : Faithful origin gateway) (device : Int) :
    Faithful origin (gateway.evict device) :=
  { faithful with
    sessions := fun entry kept => faithful.sessions entry (Sessions.mem_evict.mp kept).1 }

theorem addToken (faithful : Faithful origin gateway) {token : Json} {store : Store}
    (added : gateway.store.addToken gateway.clock.now device token = .added store) :
    Faithful origin ({ gateway with store }.evict device) := by
  have grants := Store.grants_addToken added
  obtain ⟨row, members, tokens, -, -, -, rfl⟩ := Store.addToken_eq_added added
  exact (faithful.withStore (Store.Change.deviceReplaced.isConsistent faithful.consistent)
    grants).evict device

theorem takeCommands (faithful : Faithful origin gateway) (device : Int) (count : Option Nat) :
    Faithful origin
      { gateway with store := (gateway.store.takeCommands device count).2 } :=
  faithful.withStore (Store.Change.commandsRemoved.isConsistent faithful.consistent) fun _ => rfl

theorem addCommand (faithful : Faithful origin gateway) {command : Command}
    (known : gateway.store.hasDevice command.device = true) :
    Faithful origin { gateway with store := (gateway.store.addCommand command).2 } :=
  faithful.withStore ((Store.Change.commandQueued known).isConsistent faithful.consistent)
    fun _ => rfl

theorem addLocation (faithful : Faithful origin gateway) {location : Location}
    (known : gateway.store.hasDevice location.device = true) :
    Faithful origin { gateway with store := (gateway.store.addLocation location).2 } :=
  faithful.withStore ((Store.Change.locationAdded known).isConsistent faithful.consistent)
    fun _ => rfl

/-- Sessions stay faithful when the store is taken back. -/
theorem rollBack (begins : Faithful origin gateway) (reached : Faithful origin after) :
    Faithful origin (rollBack gateway after) :=
  { reached with
    consistent := begins.consistent
    grants := begins.grants }

/-- Whatever is kept and whatever is stored, the device that may report under an identifier is
    found. At most its session is kept from now on. -/
theorem run_findDevice (faithful : Faithful origin gateway) (protocol : Json)
    (remote : Option String) (identifier : String) :
    ∃ sessions, Faithful origin { gateway with sessions } ∧
      (services.findDevice protocol remote [identifier]).run gateway =
        (.ok (origin.grants identifier), { gateway with sessions }) := by
  rw [Gateway.run_findDevice, findSession_whole, openSession]
  cases kept : gateway.sessions.find? [identifier] with
  | some session =>
    refine ⟨gateway.sessions, faithful, ?_⟩
    obtain ⟨text, listed, found⟩ := List.exists_of_findSome?_eq_some kept
    rw [List.mem_singleton] at listed
    obtain ⟨front, back, same, -⟩ := List.lookup_eq_some_iff.mp found
    have granted : origin.grants text = some session.device :=
      faithful.sessions (text, session) (by rw [same]; exact List.mem_append_cons_self)
    rw [← listed, granted]
    rfl
  | none =>
    have granted := faithful.grants identifier
    rw [Store.grants] at granted
    unfold lookUp
    rw [Store.firstKnown?_singleton, faithful.closed]
    cases known : gateway.store.deviceOf? identifier with
    | none =>
      rw [known] at granted
      refine ⟨gateway.sessions, faithful, ?_⟩
      rw [← granted]
      rfl
    | some row =>
      rw [known] at granted
      by_cases enabled : row.value.isEnabled = true
      · rw [Option.filter_some, if_pos enabled] at granted
        refine ⟨gateway.sessions.put ⟨row.id, row.value.uniqueId, protocol, addressJson remote⟩,
          ⟨faithful.consistent, faithful.closed, faithful.grants, ?_⟩, ?_⟩
        · intro entry kept
          rcases Sessions.mem_put.mp kept with rfl | ⟨was, -⟩
          · have named : row.value.uniqueId = identifier := by simpa using List.find?_some known
            exact (congrArg origin.grants named).trans granted.symm
          · exact faithful.sessions entry was
        · have session : sessionOf? protocol (addressJson remote) row = some _ := if_pos enabled
          dsimp only
          rw [← granted, session]
          rfl
      · rw [Option.filter_some, if_neg enabled] at granted
        refine ⟨gateway.sessions, faithful, ?_⟩
        have session : sessionOf? protocol (addressJson remote) row = none := if_neg enabled
        dsimp only
        rw [← granted, session]
        rfl

end Faithful

/-! ## Gateways that are alike -/

/-- Two faithful gateways that hold the same account of a device, at one time. -/
structure Alike (origin : Store) (device : Int) (first second : Gateway) : Prop where
  left : Faithful origin first
  right : Faithful origin second
  account : Store.SameAccount device first.store second.store
  clock : first.clock = second.clock
  decoder : first.makeDecoder = second.makeDecoder

variable {first second first' second' : Gateway}

theorem Alike.refl (faithful : Faithful origin gateway) (device : Int) :
    Alike origin device gateway gateway :=
  ⟨faithful, faithful, .refl device gateway.store, rfl, rfl⟩

/-- Gateways stay alike when both are taken back. -/
theorem Alike.rollBack (begins : Alike origin device first second)
    (reached : Alike origin device first' second') :
    Alike origin device (rollBack first first') (rollBack second second') :=
  ⟨begins.left.rollBack reached.left, begins.right.rollBack reached.right, begins.account,
    reached.clock, reached.decoder⟩

/-- Gateways are still alike with other stores that hold the same account. -/
theorem Alike.withStores (alike : Alike origin device first second) {store store' : Store}
    (left : Faithful origin { first with store })
    (right : Faithful origin { second with store := store' })
    (account : Store.SameAccount device store store') :
    Alike origin device { first with store } { second with store := store' } :=
  ⟨left, right, account, alike.clock, alike.decoder⟩

/-- A gateway is still alike with another store that holds the same account as before. -/
theorem Alike.withStore (alike : Alike origin device first second) {store : Store}
    (left : Faithful origin { first with store })
    (account : Store.SameAccount device store first.store) :
    Alike origin device { first with store } second :=
  ⟨left, alike.right, account.trans alike.account, alike.clock, alike.decoder⟩

/-! ## Tokens and commands -/

/-- A token of the device is registered in both gateways, or in neither with the same fault. -/
theorem Alike.registerToken (alike : Alike origin device first second) (token : Json) :
    (∃ one two, first.registerToken device token = .ok one ∧
        second.registerToken device token = .ok two ∧ Alike origin device one two) ∨
      ∃ fault, first.registerToken device token = .error fault ∧
        second.registerToken device token = .error fault := by
  unfold Gateway.registerToken
  rcases alike.account.addToken first.clock.now token with
    ⟨value, one, two⟩ | ⟨result, none, one, two⟩ <;> rw [alike.clock] at two
  · rw [one, two]
    exact .inl ⟨_, _, rfl, rfl, alike.left.addToken one, alike.right.addToken two,
      alike.account.setDevice value, alike.clock, alike.decoder⟩
  · rw [one, two]
    cases result with
    | added store => exact absurd rfl (none store)
    | unchanged => exact .inl ⟨_, _, rfl, rfl, alike⟩
    | _ => exact .inr ⟨_, rfl, rfl⟩

theorem Alike.registerToken_of_other (alike : Alike origin device first second)
    (differ : other ≠ device) {token : Json}
    (registered : first.registerToken other token = .ok after) :
    Alike origin device after second := by
  rcases registerToken_cases registered with ⟨-, rfl⟩ | ⟨store, added, rfl⟩
  · exact alike
  · exact ⟨alike.left.addToken added, alike.right,
      (Store.sameAccount_addToken_of_ne added differ).trans alike.account, alike.clock,
      alike.decoder⟩

theorem Alike.takeCommands (alike : Alike origin device first second) (count : Option Nat) :
    Alike origin device
      { first with store := (first.store.takeCommands device count).2 }
      { second with store := (second.store.takeCommands device count).2 } :=
  alike.withStores (alike.left.takeCommands device count) (alike.right.takeCommands device count)
    (alike.account.takeCommands count).2

theorem Alike.takeCommands_of_other (alike : Alike origin device first second)
    (differ : other ≠ device) (count : Option Nat) :
    Alike origin device
      { first with store := (first.store.takeCommands other count).2 } second :=
  alike.withStore (alike.left.takeCommands other count)
    (Store.sameAccount_takeCommands_of_ne first.store count differ)

/-! ## Services -/

/-- In gateways that are alike, the services do the same for the device, and find it under the same
    identifiers. -/
theorem services_agree (origin : Store) (device : Int) :
    services.Agree (Alike origin device)
      (fun identifier =>
        ∀ found, identifier.whole?.bind origin.grants = some found → found = device)
      (· = device) where
  findDevice protocol remote identifier known first second alike := by
    cases identifier with
    | torn text => exact ⟨rfl, alike, nofun⟩
    | whole identifier =>
      obtain ⟨one, left, ranFirst⟩ := alike.left.run_findDevice protocol remote identifier
      obtain ⟨two, right, ranSecond⟩ := alike.right.run_findDevice protocol remote identifier
      rw [ranFirst, ranSecond]
      refine ⟨rfl, ⟨left, right, alike.account, alike.clock, alike.decoder⟩, ?_⟩
      rintro _ ⟨⟩
      exact known
  registerToken owner token own first second alike := by
    subst own
    rw [run_registerToken, run_registerToken]
    rcases alike.registerToken (.text token) with
      ⟨one, two, ranFirst, ranSecond, reached⟩ | ⟨fault, ranFirst, ranSecond⟩
    · rw [ranFirst, ranSecond]
      exact ⟨rfl, reached, fun _ _ => trivial⟩
    · rw [ranFirst, ranSecond]
      exact ⟨rfl, alike, fun _ _ => trivial⟩
  lastPosition owner own first second alike := by
    subst own
    exact ⟨congrArg Except.ok alike.account.newest?, alike, fun _ _ => trivial⟩
  takeCommands owner count own first second alike := by
    subst own
    rw [run_takeCommands, run_takeCommands]
    refine ⟨?_, alike.takeCommands (some count), fun _ _ => trivial⟩
    have taken := congrArg (List.map Command.payload)
      (alike.account.takeCommands (some count)).1
    rw [List.map_map, List.map_map] at taken
    exact congrArg Except.ok taken

/-- For other devices, the services leave a gateway alike to whatever it is alike to, and find no
    device but others. -/
theorem services_of_others (origin : Store) (device : Int) (second : Gateway) :
    services.Agree (fun one two => one = two ∧ Alike origin device one second)
      (fun identifier =>
        ∀ found, identifier.whole?.bind origin.grants = some found → found ≠ device)
      (· ≠ device) where
  findDevice protocol remote identifier known := by
    refine Report.Action.agrees_self fun first alike => ?_
    cases identifier with
    | torn text => exact ⟨alike, nofun⟩
    | whole identifier =>
      obtain ⟨sessions, left, ran⟩ := alike.left.run_findDevice protocol remote identifier
      rw [ran]
      refine ⟨⟨left, alike.right, alike.account, alike.clock, alike.decoder⟩, ?_⟩
      rintro _ ⟨⟩
      exact known
  registerToken owner token differ := by
    refine Report.Action.agrees_self fun first alike => ⟨?_, fun _ _ => trivial⟩
    rw [run_registerToken]
    cases registered : first.registerToken owner (.text token) with
    | ok after => exact alike.registerToken_of_other differ registered
    | error fault => exact alike
  lastPosition owner differ :=
    Report.Action.agrees_self fun first alike => ⟨alike, fun _ _ => trivial⟩
  takeCommands owner count differ :=
    Report.Action.agrees_self fun first alike =>
      ⟨alike.takeCommands_of_other differ (some count), fun _ _ => trivial⟩

/-! ## Reports -/

/-- A position that can be stored at all is stored if its device exists, and otherwise the report is
    undone. -/
theorem finish_of_added {before : Gateway} (consistent : after.store.isConsistent = true)
    {position handedIn : Position} {location : Location} (response : Http.Response)
    (added : ∀ store : Store, store.addPosition position =
      .ok (⟨(store.addLocation location).1, handedIn⟩, (store.addLocation location).2)) :
    finish before after ⟨some position, response⟩ =
      if after.store.hasDevice location.device then
        ⟨.ok response, after.publication handedIn,
          { after with store := (after.store.addLocation location).2 }⟩
      else
        ⟨.error (.store .danglingReference), after.publication handedIn,
          rollBack before after⟩ := by
  have decides := Store.isConsistent_addLocation consistent location
  simp only [finish_eq, added]
  split
  · rename_i known
    exact complete_of_consistent (decides.trans known)
  · rename_i missing
    exact complete_of_dangling (decides.trans (Bool.not_eq_true _ ▸ missing))

/-- The location that is made of a position of a device belongs to it. -/
theorem owner_of_deviceId {position : Position} {location : Location}
    (own : position.deviceId = .int device)
    (named : Column.integer "id" position.deviceId = .ok (some location.device)) :
    location.device = device := by
  rw [own] at named
  exact (Option.some.inj (Except.ok.inj named)).symm

/-- A report of the device is completed in both gateways, or undone in both with the same fault. -/
theorem Alike.finish {before before' : Gateway} (begins : Alike origin device before before')
    (reached : Alike origin device first second) {decoded : Decoded}
    (own : decoded.IsOwned (· = device)) :
    (finish before first decoded).result = (finish before' second decoded).result ∧
      Alike origin device (finish before first decoded).gateway
        (finish before' second decoded).gateway := by
  obtain ⟨_ | position, response⟩ := decoded
  · simp only [finish_eq]
    rw [complete_of_consistent reached.left.consistent,
      complete_of_consistent reached.right.consistent]
    exact ⟨rfl, reached⟩
  · obtain ⟨_, rfl, mine⟩ := own position rfl
    rcases Store.addPosition_cases position with
      ⟨fault, refused⟩ | ⟨location, handedIn, named, added⟩
    · simp only [finish_eq, refused, true_and]
      exact begins.rollBack reached
    · have owner := owner_of_deviceId mine named
      rw [finish_of_added reached.left.consistent response added,
        finish_of_added reached.right.consistent response added, owner,
        reached.account.hasDevice]
      split
      · rename_i known
        rw [← owner] at known
        have knownFirst : first.store.hasDevice location.device = true := by
          rw [owner, reached.account.hasDevice, ← owner]
          exact known
        exact ⟨rfl, reached.withStores (reached.left.addLocation knownFirst)
          (reached.right.addLocation known) (reached.account.addLocation location)⟩
      · exact ⟨rfl, begins.rollBack reached⟩

/-- Completing a report of another device, or undoing it, leaves the gateways alike. -/
theorem Alike.finish_of_others {before : Gateway} (begins : Alike origin device before second)
    (reached : Alike origin device first second) {decoded : Decoded}
    (others : decoded.IsOwned (· ≠ device)) :
    Alike origin device (Gateway.finish before first decoded).gateway second := by
  have undone : Alike origin device (Gateway.rollBack before first) second :=
    begins.rollBack reached
  obtain ⟨_ | position, response⟩ := decoded
  · simp only [finish_eq]
    rw [complete_of_consistent reached.left.consistent]
    exact reached
  · obtain ⟨other, differ, mine⟩ := others position rfl
    rcases Store.addPosition_cases position with
      ⟨fault, refused⟩ | ⟨location, handedIn, named, added⟩
    · simp only [finish_eq, refused]
      exact undone
    · rw [← owner_of_deviceId mine named] at differ
      rw [finish_of_added reached.left.consistent response added]
      split
      · rename_i known
        exact reached.withStore (reached.left.addLocation known)
          (Store.sameAccount_addLocation_of_ne first.store differ)
      · exact undone

/-- A report in which no identifier leads to another device is answered alike in gateways that are
    alike for the device, and leaves them so. -/
theorem report_alike (alike : Alike origin device first second) {request : Http.Request}
    (known : ∀ identifier ∈ identifiers request, ∀ found,
      identifier.whole?.bind origin.grants = some found → found = device) :
    (first.report request).result = (second.report request).result ∧
      Alike origin device (first.report request).gateway (second.report request).gateway := by
  unfold report
  rw [alike.decoder]
  cases second.makeDecoder with
  | error fault => exact ⟨rfl, alike⟩
  | ok decoder =>
    have begins : Alike origin device { first with decoder := some decoder }
        { second with decoder := some decoder } :=
      ⟨{ alike.left with }, { alike.right with }, alike.account, alike.clock, rfl⟩
    obtain ⟨same, reached, owned⟩ := Report.decode_agrees (services_agree origin device) decoder
      first.clock known _ _ begins
    have oneTime : Report.decode decoder first.clock services request =
        Report.decode decoder second.clock services request := by rw [alike.clock]
    unfold Report.Action.run at same reached owned
    dsimp only
    rw [← oneTime]
    generalize Report.decode decoder first.clock services request
      { first with decoder := some decoder } = one at same reached owned ⊢
    generalize Report.decode decoder first.clock services request
      { second with decoder := some decoder } = two at same reached ⊢
    obtain ⟨result, middle⟩ := one
    obtain ⟨_, middle'⟩ := two
    cases same
    cases result with
    | error failure => exact ⟨rfl, begins.rollBack reached⟩
    | ok decoded => exact begins.finish reached (owned decoded rfl)

/-- A report in which no identifier leads to the device leaves gateways alike for it. -/
theorem report_of_others (alike : Alike origin device first second) {request : Http.Request}
    (others : ∀ identifier ∈ identifiers request, ∀ found,
      identifier.whole?.bind origin.grants = some found → found ≠ device) :
    Alike origin device (first.report request).gateway second := by
  unfold report
  cases made : first.makeDecoder with
  | error fault => exact alike
  | ok decoder =>
    have begins : Alike origin device { first with decoder := some decoder } second :=
      ⟨{ alike.left with }, alike.right, alike.account, alike.clock, made.symm.trans alike.decoder⟩
    obtain ⟨-, ⟨-, reached⟩, owned⟩ := Report.decode_agrees
      (services_of_others origin device second) decoder first.clock others _ _ ⟨rfl, begins⟩
    unfold Report.Action.run at reached owned
    dsimp only
    generalize Report.decode decoder first.clock services request
      { first with decoder := some decoder } = one at reached owned ⊢
    obtain ⟨failure | decoded, middle⟩ := one
    · exact begins.rollBack reached
    · exact begins.finish_of_others reached (owned decoded rfl)

end Telematics.Gateway
