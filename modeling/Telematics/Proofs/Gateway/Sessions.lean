import Telematics.Proofs.Gateway.Devices
import Telematics.Proofs.Gateway.Isolation
import Telematics.Proofs.Store.Identifiers

/-!
Which device identifiers lead to, with the sessions that are kept and without them. Without sessions
the first identifier that belongs to a device decides. A kept session is looked for under all
identifiers before the store is asked, so it decides although an identifier before it belongs to a
device, if that device has no session. In every other case sessions change nothing, as long as every
one of them names a device that exists, has its identifier and is enabled.

* `run_distinct`: identifiers are distinct after every run.
* `deviceAt`: the device that identifiers lead to. `deviceAfresh`: the one that they lead to in the
  store.
* `PassesOver`: a kept session decides before a device that comes first.
* `deviceAt_afresh_iff`: sessions change nothing unless a device is passed over.
-/

namespace Telematics

namespace Sessions

variable {sessions : Sessions} {identifiers : List String} {session : Session}

/-- The session that is found is that of the first identifier under which one is kept. -/
theorem find?_eq_some_iff :
    sessions.find? identifiers = some session ↔
      ∃ front kept back, identifiers = front ++ kept :: back ∧
        sessions.lookup kept = some session ∧ sessions.find? front = none := by
  rw [find?, List.findSome?_eq_some_iff]
  simp only [find?, List.findSome?_eq_none_iff]

theorem mem_of_lookup {kept : String} (found : sessions.lookup kept = some session) :
    (kept, session) ∈ sessions := by
  obtain ⟨front, back, rfl, -⟩ := List.lookup_eq_some_iff.mp found
  exact List.mem_append_cons_self

end Sessions

namespace Gateway

/-- The identifiers of devices stay distinct. -/
theorem lasting_distinct : Store.Lasting (fun _ => True) Store.Distinct where
  devices distinct same := distinct.congr same
  created distinct _ stored := Store.createDevice_distinct distinct stored
  updated distinct _ _ stored := Store.updateDevice_distinct distinct stored
  overwritten distinct _ written := Store.overwriteDevice_distinct distinct written
  deleted _ distinct := distinct.deleteDevice
  token distinct added := Store.addToken_distinct distinct added
  lookedUp distinct looked := Store.lookUp_distinct distinct looked

/-- No two devices have the same identifier after a run. -/
theorem run_distinct {gateway : Gateway} (fresh : Fresh gateway) (steps : List Step) :
    (gateway.run steps).store.Distinct := by
  refine run_lasting lasting_distinct fresh Store.distinct_empty fun what _ => ?_
  cases what <;> trivial

/-- The sessions that a manager keeps. -/
def keptAt (gateway : Gateway) : Manager → Sessions
  | .shared => gateway.sessions
  | .own => gateway.ownSessions

/-- A manager registers unknown devices. -/
def registersAt (gateway : Gateway) : Manager → Bool
  | .shared => gateway.settings.registerUnknown
  | .own => gateway.ownRegisters.getD gateway.settings.registerUnknown

/-- The device whose session a manager opens for identifiers, if it opens one. -/
def deviceAt (gateway : Gateway) (manager : Manager) (protocol remote : Json)
    (identifiers : List String) : Except Fault (Option Int) :=
  (gateway.openedAt manager protocol remote identifiers).map fun opened =>
    opened.1.map (·.device)

/-- The device that identifiers lead to in the store. -/
def deviceAfresh (gateway : Gateway) (manager : Manager) (protocol remote : Json)
    (identifiers : List String) : Except Fault (Option Int) :=
  ((lookUp gateway.store gateway.clock.now (gateway.registersAt manager) protocol remote
    identifiers).mapError Fault.store).map fun found => found.session.map (·.device)

/-- A kept session decides although an identifier before it belongs to a device, which has no
    session. -/
def PassesOver (gateway : Gateway) (manager : Manager) (identifiers : List String) : Prop :=
  ∃ front kept back, identifiers = front ++ kept :: back ∧
    ((gateway.keptAt manager).lookup kept).isSome = true ∧
    (gateway.keptAt manager).find? front = none ∧
    ∃ passed ∈ front, (gateway.store.deviceOf? passed).isSome = true

variable {gateway : Gateway} {manager : Manager} {protocol remote : Json}
  {identifiers : List String}

theorem deviceAt_of_kept {session : Session}
    (found : (gateway.keptAt manager).find? identifiers = some session) :
    gateway.deviceAt manager protocol remote identifiers = .ok (some session.device) := by
  cases manager <;>
    simp only [keptAt] at found <;>
    simp only [deviceAt, openedAt, openSession, openOwnSession, found] <;> rfl

theorem deviceAt_of_unkept (missing : (gateway.keptAt manager).find? identifiers = none) :
    gateway.deviceAt manager protocol remote identifiers =
      gateway.deviceAfresh manager protocol remote identifiers := by
  unfold deviceAfresh
  cases manager <;>
    simp only [keptAt] at missing <;>
    simp only [deviceAt, openedAt, openSession, openOwnSession, missing, registersAt] <;>
    cases lookUp _ _ _ _ _ _ <;> rfl

/-- Where no session is kept, the store decides. -/
theorem deviceAt_clearSessionsAt (gateway : Gateway) (manager : Manager) (protocol remote : Json)
    (identifiers : List String) :
    (gateway.clearSessionsAt manager).deviceAt manager protocol remote identifiers =
      gateway.deviceAfresh manager protocol remote identifiers := by
  have missing : ((gateway.clearSessionsAt manager).keptAt manager).find? identifiers = none := by
    cases manager <;> exact List.findSome?_eq_none_iff.mpr fun _ _ => rfl
  rw [deviceAt_of_unkept missing]
  cases manager <;> rfl

/-- The first identifier that belongs to a device decides, unless that device is disabled. -/
theorem deviceAfresh_of_known {row : Row Device}
    (known : gateway.store.firstKnown? identifiers = some row) :
    gateway.deviceAfresh manager protocol remote identifiers =
      .ok (if row.value.isEnabled then some row.id else none) := by
  unfold deviceAfresh lookUp
  rw [known]
  show Except.ok ((sessionOf? protocol remote row).map (·.device)) = _
  unfold sessionOf?
  split <;> rfl

/-- The device of a kept session is the one that has its identifier. -/
theorem Fits.deviceOf? {store : Store} {kept : String} {session : Session}
    (fits : Fits store (kept, session)) (distinct : store.Distinct) :
    ∃ row, store.deviceOf? kept = some row ∧ row.id = session.device ∧
      row.value.isEnabled = true := by
  obtain ⟨row, found, named, enabled⟩ := fits
  obtain ⟨present, own⟩ := Table.mem_of_find? found
  exact ⟨row, distinct.deviceOf?_eq_some_iff.mpr ⟨present, named⟩, own, enabled⟩

/-- A device that is passed over comes before the device of the session that decides. -/
theorem deviceAt_ne_of_passesOver (distinct : gateway.store.Distinct)
    (coherent : ∀ entry ∈ gateway.keptAt manager, Fits gateway.store entry)
    (passes : PassesOver gateway manager identifiers) :
    gateway.deviceAt manager protocol remote identifiers ≠
      gateway.deviceAfresh manager protocol remote identifiers := by
  obtain ⟨front, kept, back, rfl, held, missing, passed, before, known⟩ := passes
  obtain ⟨session, found⟩ := Option.isSome_iff_exists.mp held
  obtain ⟨row, named, own, -⟩ := (coherent _ (Sessions.mem_of_lookup found)).deviceOf? distinct
  -- The device that comes first has another identifier than that of the session.
  have first : (gateway.store.firstKnown? front).isSome = true :=
    List.findSome?_isSome_iff.mpr ⟨passed, before, known⟩
  obtain ⟨other, decides⟩ := Option.isSome_iff_exists.mp first
  have differs : other.id ≠ row.id := by
    intro same
    obtain ⟨there, listed⟩ := Store.mem_of_firstKnown? decides
    have present := (distinct.deviceOf?_eq_some_iff.mp named).1
    rw [Table.eq_of_id_eq (Table.mem_of_find? there).1 present same,
      (distinct.deviceOf?_eq_some_iff.mp named).2] at listed
    have unkept := List.findSome?_eq_none_iff.mp missing kept listed
    rw [found] at unkept
    cases unkept
  have led : gateway.store.firstKnown? (front ++ kept :: back) = some other := by
    rw [Store.firstKnown?, List.findSome?_append]
    exact congrArg (Option.or · _) decides
  rw [deviceAt_of_kept (Sessions.find?_eq_some_iff.mpr ⟨front, kept, back, rfl, found, missing⟩),
    deviceAfresh_of_known led, ← own]
  intro same
  split at same
  · exact differs (Option.some.inj (Except.ok.inj same)).symm
  · cases same

/-- A session that passes no device over is that of the first identifier of a device. -/
theorem deviceAt_of_not_passesOver (distinct : gateway.store.Distinct)
    (coherent : ∀ entry ∈ gateway.keptAt manager, Fits gateway.store entry)
    (passes : ¬ PassesOver gateway manager identifiers) :
    gateway.deviceAt manager protocol remote identifiers =
      gateway.deviceAfresh manager protocol remote identifiers := by
  cases found : (gateway.keptAt manager).find? identifiers with
  | none => exact deviceAt_of_unkept found
  | some session =>
    obtain ⟨front, kept, back, rfl, held, missing⟩ := Sessions.find?_eq_some_iff.mp found
    obtain ⟨row, named, own, enabled⟩ :=
      (coherent _ (Sessions.mem_of_lookup held)).deviceOf? distinct
    have unknown : gateway.store.firstKnown? front = none := by
      refine List.findSome?_eq_none_iff.mpr fun passed before => ?_
      refine Option.not_isSome_iff_eq_none.mp fun known => passes ?_
      exact ⟨front, kept, back, rfl, by rw [held]; rfl, missing, passed, before, known⟩
    have led : gateway.store.firstKnown? (front ++ kept :: back) = some row := by
      rw [Store.firstKnown?, List.findSome?_append, List.findSome?_cons, named]
      exact congrArg (Option.or · _) unknown
    rw [deviceAt_of_kept found, deviceAfresh_of_known led, if_pos enabled, own]

/-- Without sessions the first identifier of a device decides. The sessions that are kept change
    nothing in that, and nothing where no device is known, unless a device is passed over. -/
theorem deviceAt_afresh_iff (distinct : gateway.store.Distinct)
    (coherent : ∀ entry ∈ gateway.keptAt manager, Fits gateway.store entry)
    (protocol remote : Json) (identifiers : List String) :
    (∀ row, gateway.store.firstKnown? identifiers = some row →
        (gateway.clearSessionsAt manager).deviceAt manager protocol remote identifiers =
          .ok (if row.value.isEnabled then some row.id else none)) ∧
      (gateway.deviceAt manager protocol remote identifiers =
          (gateway.clearSessionsAt manager).deviceAt manager protocol remote identifiers ↔
        ¬ PassesOver gateway manager identifiers) := by
  rw [deviceAt_clearSessionsAt]
  refine ⟨fun row known => deviceAfresh_of_known known, ?_, ?_⟩
  · exact fun same passes => deviceAt_ne_of_passesOver distinct coherent passes same
  · exact deviceAt_of_not_passesOver distinct coherent

/-- A van and a bus, of which the bus has a session. -/
def busSeen : Gateway :=
  closedGateway.run (busCreated ++ [.openSession .shared .null .null ["b"]])

theorem busSeen_coherent : Coherent busSeen := by
  intro entry kept
  have all : ∀ entry ∈ busSeen.sessions, ((busSeen.store.device? entry.2.device).filter fun row =>
      row.value.uniqueId = entry.1 ∧ row.value.isEnabled = true).isSome = true := by
    decide +kernel
  obtain ⟨row, found⟩ := Option.isSome_iff_exists.mp (all entry kept)
  obtain ⟨known, fits⟩ := Option.filter_eq_some_iff.mp found
  exact ⟨row, known, of_decide_eq_true fits⟩

/-- The session of the bus decides behind an identifier of no device, as the store does. -/
theorem bus_found_afresh :
    (busSeen.store.Distinct ∧ (∀ entry ∈ busSeen.keptAt .shared, Fits busSeen.store entry) ∧
        busSeen.sessions.length = 1) ∧
      (∀ row, busSeen.store.firstKnown? ["x", "b"] = some row →
          (busSeen.clearSessionsAt .shared).deviceAt .shared .null .null ["x", "b"] =
            .ok (if row.value.isEnabled then some row.id else none)) ∧
        (busSeen.deviceAt .shared .null .null ["x", "b"] =
            (busSeen.clearSessionsAt .shared).deviceAt .shared .null .null ["x", "b"] ↔
          ¬ PassesOver busSeen .shared ["x", "b"]) := by
  have distinct : busSeen.store.Distinct := run_distinct ⟨rfl, rfl, rfl⟩ _
  have coherent : ∀ entry ∈ busSeen.keptAt .shared, Fits busSeen.store entry := busSeen_coherent
  exact ⟨⟨distinct, coherent, by decide +kernel⟩,
    deviceAt_afresh_iff distinct coherent .null .null ["x", "b"]⟩

/-- The session of the bus decides before the van, whose identifier comes first. -/
theorem van_passed_over :
    (busSeen.store.Distinct ∧ Coherent busSeen) ∧
      busSeen.deviceAt .shared .null .null ["a", "b"] = .ok (some 2) ∧
      (busSeen.clearSessionsAt .shared).deviceAt .shared .null .null ["a", "b"] =
        .ok (some 1) :=
  ⟨⟨run_distinct ⟨rfl, rfl, rfl⟩ _, busSeen_coherent⟩, by decide +kernel, by decide +kernel⟩

end Gateway

end Telematics
