import Telematics.Proofs.Gateway.Coherence
import Telematics.Proofs.Store.Numbers

/-!
What stays true of the devices of a gateway. A property of the devices of a store that is kept by
everything that writes a device is kept by every step, and so by every run.

* `Store.Lasting`: a property that is kept by the writes of devices.
* `openedAt`: what comes of opening a session at a manager.
* `openedAt_lasting`, `report_lasting`, `step_lasting`: what is done keeps such a property.
* `run_lasting`: so does a run.

The numbers of devices are above zero as long as nobody names a number, and they can be kept in any
case.

* `Step.NamesNumber`: a step that may bring a device under a number of its own.
* `lasting_numbersFrom`, `step_numbersFrom`, `run_numbersFrom`: numbers stay in their range.
* `run_number_bounded`: every number of a device can be kept.
-/

namespace Telematics

open Calendar (Moment Zone)

/-- A property of stores depends on devices alone, and is kept by everything that writes a device,
    as long as the changes of devices that are asked for are allowed. -/
structure Store.Lasting (allowed : DeviceChange → Prop) (holds : Store → Prop) : Prop where
  devices {store after : Store} : holds store → after.devices = store.devices → holds after
  created {store after : Store} {now : Moment} {change : DeviceChange} {form : DeviceForm} :
    holds store → allowed change → store.createDevice now change = .ok (form, after) → holds after
  updated {store after : Store} {now : Moment} {row : Row Device} {change : DeviceChange}
      {form : DeviceForm} :
    holds store → store.device? row.id = some row → allowed change →
      store.updateDevice now row change = .ok (form, after) → holds after
  overwritten {store after : Store} {zone : Zone} {row : Row Device} {change : DeviceChange} :
    holds store → allowed change → store.overwriteDevice zone row change = .ok after → holds after
  deleted {store : Store} (id : Int) : holds store → holds (store.deleteDevice id)
  token {store after : Store} {now : Moment} {id : Int} {token : Json} :
    holds store → store.addToken now id token = .added after → holds after
  lookedUp {store : Store} {now : Moment} {registers : Bool} {protocol remote : Json}
      {identifiers : List String} {found : Lookup} :
    holds store → lookUp store now registers protocol remote identifiers = .ok found →
      holds found.store

namespace Gateway

open Relation (ReflTransGen)

/-- What comes of opening a session at a manager. -/
def openedAt (gateway : Gateway) (manager : Manager) (protocol remote : Json)
    (identifiers : List String) : Except Fault (Option Session × Gateway) :=
  match manager with
  | .shared => gateway.openSession protocol remote identifiers
  | .own => gateway.openOwnSession protocol remote identifiers

/-- The change of a device for which a step asks, if it does, is allowed. -/
def Step.Changes (allowed : DeviceChange → Prop) : Step → Prop
  | .createDevice change | .updateDevice _ change | .overwriteDevice _ change => allowed change
  | _ => True

variable {gateway after : Gateway} {allowed : DeviceChange → Prop} {holds : Store → Prop}

section Lasting

variable (lasting : Store.Lasting allowed holds)

include lasting

theorem openedAt_lasting {manager : Manager} {protocol remote : Json} {identifiers : List String}
    {session : Option Session}
    (opened : gateway.openedAt manager protocol remote identifiers = .ok (session, after))
    (begins : holds gateway.store) : holds after.store := by
  cases manager <;> simp only [openedAt, openSession, openOwnSession] at opened
  all_goals
    split at opened
    · cases opened
      exact begins
    · obtain ⟨found, looked, opened⟩ := bind_eq_ok_iff.mp opened
      rw [mapError_eq_ok_iff] at looked
      cases opened
      exact lasting.lookedUp begins looked

/-- What the services of decoding do keeps what lasts. -/
theorem services_follow_lasting :
    services.Follow fun before after : Gateway => holds before.store → holds after.store where
  findDevice protocol remote identifiers := by
    intro gateway
    rw [run_findDevice]
    cases opened : gateway.findSession protocol (addressJson remote) identifiers with
    | ok found =>
      obtain ⟨_, -, opened⟩ := findSession_eq_ok_iff.1 opened
      exact .single fun begins =>
        openedAt_lasting lasting (show gateway.openedAt .shared _ _ _ = _ from opened) begins
    | error _ => exact .refl
  registerToken device token := by
    intro gateway
    rw [run_registerToken]
    cases registered : gateway.registerToken device (.text token) with
    | ok after =>
      rcases registerToken_cases registered with ⟨-, rfl⟩ | ⟨store, added, rfl⟩
      · exact .refl
      · exact .single fun begins => lasting.token begins added
    | error _ => exact .refl
  lastPosition _ _ := .refl

theorem Decodes.lasts {request : Http.Request}
    {result : Except (Report.Failure Fault) Report.Decoded} {before : Gateway}
    (decodes : Decodes gateway request result before after) (begins : holds gateway.store) :
    holds after.store := by
  obtain ⟨middle, steps, -, same⟩ := decodes.reaches (services_follow_lasting lasting)
  have kept : holds middle.store := by
    clear same
    induction steps with
    | refl =>
      obtain ⟨_, rfl⟩ := decodes.before_eq
      exact begins
    | tail _ keeps ih => exact keeps ih
  exact lasting.devices kept same

theorem report_lasting (begins : holds gateway.store) (request : Http.Request) :
    holds (gateway.report request).gateway.store := by
  rcases report_settles gateway request with
    ⟨fault, -, same⟩ | ⟨result, before, after, decodes, -, undone | devices⟩
  · rw [same]
    exact begins
  · obtain ⟨_, begun⟩ := decodes.before_eq
    rw [undone, begun]
    exact begins
  · exact lasting.devices (decodes.lasts lasting begins) devices

theorem CommandsOnly.lasts (only : CommandsOnly gateway after) (begins : holds gateway.store) :
    holds after.store := by
  obtain ⟨commands, rfl⟩ := only
  exact lasting.devices begins rfl

/-- What lasts is kept by every step whose change of a device is allowed. -/
theorem step_lasting (begins : holds gateway.store) {what : Step} (own : what.Changes allowed) :
    holds (gateway.step what).gateway.store := by
  have attempts : ∀ {α : Type} {reply : α → Reply} {change : Except Fault (α × Gateway)},
      (∀ value after, change = .ok (value, after) → holds after.store) →
        holds (gateway.attempt reply change).gateway.store :=
    attempt_invariant (holds ·.store) begins
  have finishes : ∀ {change : Except Fault Gateway},
      (∀ after, change = .ok after → holds after.store) →
        holds (gateway.attemptDone change).gateway.store :=
    attemptDone_invariant (holds ·.store) begins
  cases what with
  | setTime _ | setSettings _ | setLayer _ | forgetDecoder => exact begins
  | clearSessions manager => cases manager <;> exact begins
  | createDevice change =>
    refine attempts fun form after created => ?_
    obtain ⟨store, stored, rfl⟩ := createDevice_stored created
    rw [store_evictNumbered]
    exact lasting.created begins own stored
  | updateDevice uniqueId change =>
    refine attempts fun form after updated => ?_
    obtain ⟨row, store, found, stored, rfl⟩ := updateDevice_stored updated
    rw [store_evictNumbered]
    exact lasting.updated begins (device?_of_deviceOf found) own stored
  | overwriteDevice uniqueId change =>
    refine attempts fun count after done => ?_
    rcases overwriteDevice_stored done with rfl | ⟨row, store, written, rfl⟩
    · exact begins
    · exact lasting.overwritten begins own written
  | deleteDevice uniqueId =>
    refine finishes fun after deleted => ?_
    obtain ⟨row, -, rfl⟩ := deleteDevice_eq_ok deleted
    exact lasting.deleted row.id begins
  | openSession manager protocol remote identifiers =>
    exact attempts fun session after opened => openedAt_lasting lasting opened begins
  | evict manager device =>
    cases manager with
    | shared =>
      show holds (gateway.evictNumbered device).store
      rw [store_evictNumbered]
      exact begins
    | own =>
      obtain ⟨ownSessions, same⟩ := evictOwnNumbered_eq gateway device
      show holds (gateway.evictOwnNumbered device).store
      rw [same]
      exact begins
  | queueCommand _ _ _ | takeCommands _ _ | console _ =>
    exact CommandsOnly.lasts lasting (step_commandsOnly trivial) begins
  | registerToken device token =>
    refine finishes fun after done => ?_
    rcases registerTokenOf_cases done with rfl | ⟨id, store, added, rfl⟩
    · exact begins
    · exact lasting.token begins added
  | storePosition position =>
    show holds (gateway.storePosition position).gateway.store
    rcases storePosition_cases gateway position with ⟨_, _, -, -, -, same⟩ | ⟨_, same⟩
    · rw [same]
      exact lasting.devices begins rfl
    · rw [same]
      exact begins
  | setValid id valid =>
    refine finishes fun after done => ?_
    obtain ⟨_, _, -, rfl⟩ := setValid_marks done
    exact lasting.devices begins rfl
  | newestPosition device =>
    refine attempts fun position after done => ?_
    obtain ⟨_, -, same⟩ := map_eq_ok_iff.mp done
    cases same
    exact begins
  | request raw =>
    cases reports : gateway.report? raw with
    | some request =>
      show holds (gateway.serve raw).gateway.store
      rw [serve_of_report reports]
      exact report_lasting lasting begins request
    | none => exact CommandsOnly.lasts lasting (step_commandsOnly reports) begins

/-- What lasts and holds of the empty store holds after every run whose changes of devices are
    allowed. -/
theorem run_lasting (fresh : Fresh gateway) (empty : holds .empty) {steps : List Step}
    (own : ∀ what ∈ steps, what.Changes allowed) : holds (gateway.run steps).store := by
  have begins : holds gateway.store := by
    rw [fresh.store]
    exact empty
  exact run_invariant (holds ·.store) (fun _ _ begins own => step_lasting lasting begins own)
    begins (along_of_forall own)

end Lasting

/-! ## Numbers -/

section Numbers

open Store (NumbersFrom)

variable {gateway : Gateway} {least : Int}

/-- A step that may bring a device under a number of its own. -/
def Step.NamesNumber : Step → Prop
  | .createDevice change | .updateDevice _ change | .overwriteDevice _ change => change.id ≠ none
  | _ => False

/-- Numbers stay in their range as long as none is named, or the range is that of all numbers that
    can be kept. -/
theorem lasting_numbersFrom (positive : least ≤ 1) :
    Store.Lasting (fun change => change.id ≠ none → least ≤ -Column.integerLimit)
      (NumbersFrom least) where
  devices numbers same := numbers.of_devices same
  created numbers own stored := Store.createDevice_numbersFrom numbers positive own stored
  updated numbers known own stored :=
    Store.updateDevice_numbersFrom numbers positive known own stored
  overwritten numbers own written := Store.overwriteDevice_numbersFrom numbers own written
  deleted id numbers := numbers.deleteDevice id
  token numbers added := Store.addToken_numbersFrom numbers added
  lookedUp numbers looked := Store.lookUp_numbersFrom numbers positive looked

theorem Step.changes_of_own {what : Step}
    (own : what.NamesNumber → least ≤ -Column.integerLimit) :
    what.Changes fun change => change.id ≠ none → least ≤ -Column.integerLimit := by
  cases what with
  | createDevice _ | updateDevice _ _ | overwriteDevice _ _ => exact own
  | _ => trivial

/-- Numbers stay in their range in a step, unless one is named and the range is not that of all
    numbers that can be kept. -/
theorem step_numbersFrom (positive : least ≤ 1) (numbers : NumbersFrom least gateway.store)
    {what : Step} (own : what.NamesNumber → least ≤ -Column.integerLimit) :
    NumbersFrom least (gateway.step what).gateway.store :=
  step_lasting (lasting_numbersFrom positive) numbers (Step.changes_of_own own)

/-- Numbers stay in their range in a run, unless one is named and the range is not that of all
    numbers that can be kept. -/
theorem run_numbersFrom (positive : least ≤ 1) (fresh : Fresh gateway) {steps : List Step}
    (own : ∀ what ∈ steps, what.NamesNumber → least ≤ -Column.integerLimit) :
    NumbersFrom least (gateway.run steps).store :=
  run_lasting (lasting_numbersFrom positive) fresh (Store.numbersFrom_empty least)
    fun what listed => Step.changes_of_own (own what listed)

/-- The number of a device can be kept. -/
theorem run_number_bounded (fresh : Fresh gateway) (steps : List Step) {row : Row Device}
    (present : row ∈ (gateway.run steps).store.devices.rows) :
    Column.bounded row.id = .ok row.id := by
  have within := (run_numbersFrom (by decide : -Column.integerLimit ≤ 1) fresh
    fun what listed names => Int.le_refl _).within row present
  exact Column.bounded_eq_ok_iff.mpr ⟨rfl, within⟩

end Numbers

end Gateway

end Telematics
