import Telematics.Gateway.Ingest
import Telematics.Proofs.Report.Decoding
import Telematics.Proofs.Store.Devices

/-!
What decoding a report does to the gateway, one thing at a time: the session of a known device is
kept, an unknown device is registered, or a device gets a token. All of it concerns devices and the
sessions that are kept for them.

* `Opening`: how the session of identifiers is found.
* `Effect`: one thing that is done. `services_follow_effect`: decoding does nothing else, but for
  the taking of commands.
* `effects_frame`, `effects_device`: commands and locations stay, and so does every device.
-/

namespace Telematics.Gateway

open Relation (ReflTransGen)

/-- How the session of identifiers is found, and the gateway afterwards. -/
inductive Opening (gateway : Gateway) (protocol remote : Json) (identifiers : List String) :
    Option Session → Gateway → Prop where
  /-- The session was kept. -/
  | kept {session : Session} :
      gateway.sessions.find? identifiers = some session →
      Opening gateway protocol remote identifiers (some session) gateway
  /-- The device is known and enabled. Its session is kept from now on. -/
  | known {row : Row Device} :
      gateway.sessions.find? identifiers = none →
      gateway.store.firstKnown? identifiers = some row → row.value.isEnabled = true →
      Opening gateway protocol remote identifiers
        (some ⟨row.id, row.value.uniqueId, protocol, remote⟩)
        { gateway with
          sessions := gateway.sessions.put ⟨row.id, row.value.uniqueId, protocol, remote⟩ }
  /-- The device is known and disabled. -/
  | disabled {row : Row Device} :
      gateway.sessions.find? identifiers = none →
      gateway.store.firstKnown? identifiers = some row → row.value.isEnabled = false →
      Opening gateway protocol remote identifiers none gateway
  /-- The device is unknown, and it is registered. -/
  | registered {identifier : String} {rest : List String} (name : String) :
      gateway.sessions.find? identifiers = none →
      gateway.store.firstKnown? identifiers = none → identifiers = identifier :: rest →
      gateway.settings.registerUnknown = true →
      Opening gateway protocol remote identifiers
        (some ⟨gateway.store.devices.nextId, identifier, protocol, remote⟩)
        { gateway with
          store := gateway.store.addDevice gateway.store.devices.nextId
            (Store.newDevice gateway.clock.now name identifier)
          sessions := (gateway.sessions.evict gateway.store.devices.nextId).put
            ⟨gateway.store.devices.nextId, identifier, protocol, remote⟩ }
  /-- The device is unknown and stays so. -/
  | unknown :
      gateway.sessions.find? identifiers = none →
      gateway.store.firstKnown? identifiers = none →
      gateway.settings.registerUnknown = false ∨ identifiers = [] →
      Opening gateway protocol remote identifiers none gateway

/-- Sessions are found in one of the ways of an opening. -/
theorem openSession_opening {gateway after : Gateway} {protocol remote : Json}
    {identifiers : List String} {session : Option Session}
    (opened : gateway.openSession protocol remote identifiers = .ok (session, after)) :
    Opening gateway protocol remote identifiers session after := by
  unfold openSession at opened
  split at opened
  · rename_i found kept
    cases opened
    exact .kept kept
  · rename_i missing
    obtain ⟨found, looked, opened⟩ := bind_eq_ok_iff.1 opened
    rw [mapError_eq_ok_iff] at looked
    cases opened
    unfold lookUp at looked
    split at looked
    · rename_i row known
      cases looked
      by_cases enabled : row.value.isEnabled = true
      · simp only [sessionOf?, enabled, if_true, keepFound, afterLookup]
        exact .known missing known enabled
      · simp only [sessionOf?, enabled, keepFound, afterLookup]
        exact .disabled missing known (by simpa using enabled)
    · rename_i identifier rest unknown
      split at looked
      · rename_i registers
        obtain ⟨⟨row, store⟩, registered, looked⟩ := bind_eq_ok_iff.1 looked
        obtain ⟨name, -, rfl, rfl⟩ := Store.register_eq_ok registered
        cases looked
        exact .registered name missing unknown rfl registers
      · rename_i quiet
        cases looked
        exact .unknown missing unknown (.inl (by simpa using quiet))
    · rename_i unknown
      cases looked
      exact .unknown missing unknown (.inr rfl)

/-- One thing that decoding does to the gateway. -/
inductive Effect (before : Gateway) : Gateway → Prop where
  /-- The session of a device that is enabled is kept. -/
  | kept {row : Row Device} {protocol remote : Json} :
      before.store.device? row.id = some row → row.value.isEnabled = true →
      Effect before { before with
        sessions := before.sessions.put ⟨row.id, row.value.uniqueId, protocol, remote⟩ }
  /-- A device is registered, and its session is kept. -/
  | registered {protocol remote : Json} {identifier name : String} :
      before.store.deviceOf? identifier = none → before.settings.registerUnknown = true →
      Effect before { before with
        store := before.store.addDevice before.store.devices.nextId
          (Store.newDevice before.clock.now name identifier)
        sessions := (before.sessions.evict before.store.devices.nextId).put
          ⟨before.store.devices.nextId, identifier, protocol, remote⟩ }
  /-- A device gets a token, and loses its sessions. -/
  | token {device : Int} {token : Json} {store : Store} :
      before.store.addToken before.clock.now device token = .added store →
      Effect before ({ before with store }.evict device)

/-- Finding a session has an effect or leaves the gateway as it is. -/
theorem Opening.effect {gateway after : Gateway} {protocol remote : Json}
    {identifiers : List String} {session : Option Session}
    (opening : Opening gateway protocol remote identifiers session after) :
    ReflTransGen Effect gateway after := by
  cases opening with
  | kept _ => exact .refl
  | known _ known enabled => exact .single (.kept (Store.mem_of_firstKnown? known).1 enabled)
  | disabled _ _ _ => exact .refl
  | registered name _ unknown listed registers =>
    subst listed
    have nobody : gateway.store.deviceOf? _ = none :=
      List.findSome?_eq_none_iff.1 unknown _ List.mem_cons_self
    exact .single (.registered nobody registers)
  | unknown _ _ _ => exact .refl

/-- A token is added and the sessions of its device are dropped, or nothing happens. -/
theorem registerToken_cases {gateway after : Gateway} {device : Int} {token : Json}
    (registered : gateway.registerToken device token = .ok after) :
    gateway.store.addToken gateway.clock.now device token = .unchanged ∧ after = gateway ∨
      ∃ store, gateway.store.addToken gateway.clock.now device token = .added store ∧
        after = { gateway with store }.evict device := by
  unfold registerToken at registered
  split at registered
  · rename_i unchanged
    cases registered
    exact .inl ⟨unchanged, rfl⟩
  · rename_i store added
    cases registered
    exact .inr ⟨store, added, rfl⟩
  all_goals cases registered

/-! ## Services -/

theorem run_findDevice (protocol : Json) (remote : Option String) (identifiers : List Letters)
    (gateway : Gateway) :
    (services.findDevice protocol remote identifiers).run gateway =
      match gateway.findSession protocol (addressJson remote) identifiers with
      | .ok (session, after) => (.ok (session.map (·.device)), after)
      | .error fault => (.error fault, gateway) := rfl

/-- An identifier alone decides if it is whole. -/
theorem deciding?_singleton (gateway : Gateway) (identifier : Letters) :
    gateway.deciding? [identifier] = identifier.whole?.map ([·]) := by
  cases identifier with
  | whole name =>
    unfold deciding?
    simp only [List.filterMap_cons, List.takeWhile_cons, Letters.whole?]
    split <;> rfl
  | torn text => rfl

theorem findSession_eq_ok_iff {gateway : Gateway} {protocol remote : Json}
    {identifiers : List Letters} {found : Option Session × Gateway} :
    gateway.findSession protocol remote identifiers = .ok found ↔
      ∃ names, gateway.deciding? identifiers = some names ∧
        gateway.openSession protocol remote names = .ok found := by
  unfold findSession
  cases gateway.deciding? identifiers with
  | none => exact iff_of_false nofun nofun
  | some names => simp

@[simp] theorem findSession_whole (gateway : Gateway) (protocol remote : Json)
    (identifier : String) :
    gateway.findSession protocol remote [.whole identifier] =
      gateway.openSession protocol remote [identifier] := by
  rw [findSession, deciding?_singleton]
  rfl

theorem run_registerToken (device : Int) (token : String) (gateway : Gateway) :
    (services.registerToken device token).run gateway =
      match gateway.registerToken device (.text token) with
      | .ok after => (.ok (), after)
      | .error fault => (.error fault, gateway) := rfl

/-- Taking commands always succeeds. -/
theorem run_takeCommands (device : Int) (count : Nat) (gateway : Gateway) :
    (services.takeCommands device count).run gateway =
      (.ok ((gateway.store.takeCommands device (some count)).1.map (·.value.payload)),
        { gateway with store := (gateway.store.takeCommands device (some count)).2 }) := rfl

/-- A device that is looked for is that of the session that is found. -/
theorem findDevice_opening {protocol : Json} {remote : Option String} {identifiers : List Letters}
    {gateway after : Gateway} {found : Option Int}
    (looked : (services.findDevice protocol remote identifiers).run gateway = (.ok found, after)) :
    ∃ names session, gateway.deciding? identifiers = some names ∧
      found = session.map (·.device) ∧
      Opening gateway protocol (addressJson remote) names session after := by
  rw [run_findDevice] at looked
  cases opened : gateway.findSession protocol (addressJson remote) identifiers with
  | error fault =>
    rw [opened] at looked
    cases looked
  | ok result =>
    rw [opened] at looked
    cases looked
    obtain ⟨names, decide, opened⟩ := findSession_eq_ok_iff.1 opened
    exact ⟨names, _, decide, rfl, openSession_opening opened⟩

theorem findDevice_opening_whole {protocol : Json} {remote : Option String} {identifier : String}
    {gateway after : Gateway} {found : Option Int}
    (looked : (services.findDevice protocol remote [.whole identifier]).run gateway =
      (.ok found, after)) :
    ∃ session, found = session.map (·.device) ∧
      Opening gateway protocol (addressJson remote) [identifier] session after := by
  obtain ⟨names, session, decides, same, opening⟩ := findDevice_opening looked
  rw [deciding?_singleton] at decides
  cases decides
  exact ⟨session, same, opening⟩

theorem registerToken_of_run {device : Int} {token : String} {gateway after : Gateway}
    (kept : (services.registerToken device token).run gateway = (.ok (), after)) :
    gateway.registerToken device (.text token) = .ok after := by
  rw [run_registerToken] at kept
  cases registered : gateway.registerToken device (.text token) with
  | error fault =>
    rw [registered] at kept
    cases kept
  | ok reached =>
    rw [registered] at kept
    cases kept
    rfl

/-- Looking for a device that is not known changes nothing. -/
theorem findDevice_none {protocol : Json} {remote : Option String} {identifiers : List Letters}
    {gateway after : Gateway}
    (looked : (services.findDevice protocol remote identifiers).run gateway = (.ok none, after)) :
    after = gateway := by
  obtain ⟨_, session, -, same, opening⟩ := findDevice_opening looked
  cases opening with
  | disabled _ _ _ => rfl
  | unknown _ _ _ => rfl
  | kept _ => cases same
  | known _ _ _ => cases same
  | registered _ _ _ _ _ => cases same

/-- The services but for the taking of commands have nothing but effects. -/
theorem services_follow_effect : services.Follow Effect where
  findDevice protocol remote identifiers := by
    intro gateway
    rw [run_findDevice]
    cases opened : gateway.findSession protocol (addressJson remote) identifiers with
    | ok found =>
      obtain ⟨_, -, opened⟩ := findSession_eq_ok_iff.1 opened
      exact (openSession_opening opened).effect
    | error _ => exact .refl
  registerToken device token := by
    intro gateway
    rw [run_registerToken]
    cases registered : gateway.registerToken device (.text token) with
    | ok after =>
      rcases registerToken_cases registered with ⟨-, rfl⟩ | ⟨store, added, rfl⟩
      · exact .refl
      · exact .single (.token added)
    | error _ => exact .refl
  lastPosition _ _ := .refl

/-! ## Frame -/

section Frame

variable {before after : Gateway}

/-- An effect concerns devices and sessions alone. -/
theorem Effect.frame (effect : Effect before after) :
    ∃ devices sessions,
      after = { before with store := { before.store with devices }, sessions } := by
  cases effect with
  | kept _ _ => exact ⟨before.store.devices, _, rfl⟩
  | registered _ _ => exact ⟨_, _, rfl⟩
  | token added =>
    obtain ⟨row, members, tokens, -, -, -, rfl⟩ := Store.addToken_eq_added added
    exact ⟨_, _, rfl⟩

/-- Decoding concerns devices and sessions alone. -/
theorem effects_frame (effects : ReflTransGen Effect before after) :
    ∃ devices sessions,
      after = { before with store := { before.store with devices }, sessions } := by
  induction effects with
  | refl => exact ⟨before.store.devices, before.sessions, rfl⟩
  | tail _ effect ih =>
    obtain ⟨_, _, rfl⟩ := ih
    obtain ⟨devices, sessions, rfl⟩ := effect.frame
    exact ⟨devices, sessions, rfl⟩

/-- A device that an effect finds keeps its number, its identifier and its status. -/
theorem Effect.device (effect : Effect before after) {id : Int} {row : Row Device}
    (known : before.store.device? id = some row) :
    ∃ row', after.store.device? id = some row' ∧ row'.value.uniqueId = row.value.uniqueId ∧
      row'.value.status = row.value.status := by
  cases effect with
  | kept _ _ => exact ⟨row, known, rfl, rfl⟩
  | registered _ _ =>
    -- The number of the new device was free, so the row is not the one that was added.
    refine ⟨row, ?_, rfl, rfl⟩
    rw [Store.device?_addDevice, if_neg]
    · exact known
    · rintro rfl
      rw [Store.device?, Table.find?_nextId] at known
      cases known
  | token added =>
    obtain ⟨owner, members, tokens, found, -, -, rfl⟩ := Store.addToken_eq_added added
    have named : owner.id = _ := (Table.mem_of_find? found).2
    show ∃ row', (before.store.setDevice owner.id _).device? id = some row' ∧ _
    rw [Store.device?_setDevice]
    split
    · rename_i same
      have one : owner = row := by
        rw [same, named, found] at known
        exact Option.some.inj known
      subst one
      rw [named, found]
      exact ⟨_, rfl, rfl, rfl⟩
    · exact ⟨row, known, rfl, rfl⟩

/-- Every device keeps its number, its identifier and its status while a report is decoded. -/
theorem effects_device (effects : ReflTransGen Effect before after) {id : Int} {row : Row Device}
    (known : before.store.device? id = some row) :
    ∃ row', after.store.device? id = some row' ∧ row'.value.uniqueId = row.value.uniqueId ∧
      row'.value.status = row.value.status := by
  induction effects with
  | refl => exact ⟨row, known, rfl, rfl⟩
  | tail _ effect ih =>
    obtain ⟨middle, found, sameId, sameStatus⟩ := ih
    obtain ⟨last, reached, lastId, lastStatus⟩ := effect.device found
    exact ⟨last, reached, lastId.trans sameId, lastStatus.trans sameStatus⟩

theorem effects_hasDevice (effects : ReflTransGen Effect before after) {id : Int}
    (known : before.store.hasDevice id = true) : after.store.hasDevice id = true := by
  obtain ⟨row, found⟩ := Option.isSome_iff_exists.1 known
  obtain ⟨last, reached, -⟩ := effects_device effects found
  exact Option.isSome_iff_exists.2 ⟨last, reached⟩

end Frame

end Telematics.Gateway
