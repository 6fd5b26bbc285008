import Telematics.Proofs.Http.Form
import Telematics.Proofs.Stream.Subscription

/-!
What becomes of a connection that asks for a device. The parameters of its query that name the
device are read in order, and the first one that is not blank is the filter. Such a connection joins
the group of a device whose number one of its parameters gives, or none. Where all of them are blank
there is no filter left, and the connection joins the group of the fleet.

* `Opening.Asks`: the parameters of the query of a user, blank ones included.
* `Asks.filter?_eq_none_iff`, `Asks.mem_of_filter?`: which parameter is the filter, if one is.
* `Hub.Joins`, `Hub.Fails`: a connection is accepted into a group, or fails.
* `Hub.IsNarrow`: a connection does not listen to more than it asks for.
  `Hub.connect_narrow_iff`: this is so if a parameter for the device is not blank, and only then.
-/

namespace Telematics.Stream

/-! ## Parameters -/

/-- A user opens a connection at the path of the stream, and these are the parameters of its query,
    blank ones included. -/
structure Opening.Asks (opening : Opening) (fields : List Http.Field) : Prop where
  routed : withoutSlashes opening.path = streamPath
  user : opening.byUser = true
  parameters : ∃ query, Text.readUtf8 opening.query = .ok query ∧
    Http.readFields .utf8 true query = .ok fields

variable {opening : Opening} {fields : List Http.Field} {filter group : String}

namespace Opening.Asks

variable (asks : opening.Asks fields)

include asks

/-- The filter is the first parameter for the device that is not blank. -/
theorem filter?_eq : opening.filter? = (Http.withoutBlanks fields).lookup "device" := by
  obtain ⟨query, read, parameters⟩ := asks.parameters
  rw [filter?, read]
  show deviceFilter? query = _
  rw [deviceFilter?, Http.readFields_withoutBlanks parameters]
  rfl

/-- There is no filter if all parameters for the device are blank. -/
theorem filter?_eq_none_iff :
    opening.filter? = none ↔ ∀ value, ("device", value) ∈ fields → value = "" := by
  rw [asks.filter?_eq, List.lookup_eq_none_iff]
  constructor
  · intro others value among
    by_contra kept
    have listed : ("device", value) ∈ Http.withoutBlanks fields :=
      List.mem_filter.mpr ⟨among, decide_eq_true kept⟩
    exact bne_iff_ne.mp (others _ listed) rfl
  · rintro blank ⟨key, value⟩ listed
    obtain ⟨among, kept⟩ := List.mem_filter.mp listed
    refine bne_iff_ne.mpr ?_
    rintro rfl
    exact of_decide_eq_true kept (blank value among)

/-- The filter is among the parameters. -/
theorem mem_of_filter? (filtered : opening.filter? = some filter) :
    ("device", filter) ∈ fields := by
  rw [asks.filter?_eq] at filtered
  obtain ⟨front, back, same, -⟩ := List.lookup_eq_some_iff.mp filtered
  have listed : ("device", filter) ∈ Http.withoutBlanks fields := by
    rw [same]
    exact List.mem_append_right front List.mem_cons_self
  exact (List.mem_filter.mp listed).1

/-- The filter decides what becomes of the connection. -/
theorem subscribe_eq : subscribe opening = admission opening.filter? := by
  obtain ⟨query, read, -⟩ := asks.parameters
  exact subscribe_of_user asks.routed asks.user read

/-- Without a filter the connection joins the group of the fleet, and with one it does not. -/
theorem subscribe_eq_fleet_iff :
    subscribe opening = .joined fleetGroup ↔
      ∀ value, ("device", value) ∈ fields → value = "" := by
  rw [← asks.filter?_eq_none_iff, asks.subscribe_eq]
  constructor
  · intro joined
    obtain ⟨-, ⟨none, -⟩ | ⟨text, device, -, -, same⟩⟩ := admission_joined joined
    · exact none
    · exact absurd same.symm (deviceGroup_ne_fleetGroup device)
  · intro none
    rw [none]
    rfl

end Opening.Asks

/-! ## Connections -/

namespace Hub

/-- A connection is accepted, and its channel is a member of this group more. -/
def Joins (hub : Hub) (name : String) (opening : Opening) (group : String) : Prop :=
  (hub.connect name opening).2 = [(name, [.accept .null])] ∧
    (hub.connect name opening).1.members = hub.members ++ [⟨group, hub.nextChannel⟩]

/-- A connection fails and is forgotten, and no group has a member more. -/
def Fails (hub : Hub) (name : String) (opening : Opening) : Prop :=
  ∃ fault, (hub.connect name opening).2 = [(name, [.failed fault])] ∧
    (hub.connect name opening).1.members = hub.members

/-- A connection does not listen to the fleet: it is closed, or fails, or joins the group of a
    device whose number is the value of a parameter, and no other. -/
structure IsNarrow (hub : Hub) (name : String) (opening : Opening) (fields : List Http.Field) :
    Prop where
  notFleet : ¬ hub.Joins name opening fleetGroup
  least : hub.Closes name opening ∨ hub.Fails name opening ∨
    ∃ value device, ("device", value) ∈ fields ∧ Number.readInteger value = .ok device ∧
      hub.Joins name opening (deviceGroup (.int device))

variable {hub : Hub} {name : String}

theorem joins_iff : hub.Joins name opening group ↔ subscribe opening = .joined group := by
  unfold Joins connect
  cases subscribe opening <;> simp [add, forget]

theorem fails_of_failed {fault : Fault} (failed : subscribe opening = .failed fault) :
    hub.Fails name opening := by
  refine ⟨fault, ?_, ?_⟩ <;> simp [connect, failed, forget]

/-- A connection with parameters for the device does not listen to more than it asks for if one of
    them is not blank. If all of them are, it joins the group of the fleet. -/
theorem connect_narrow_iff (hub : Hub) (name : String) (asks : opening.Asks fields) :
    (hub.IsNarrow name opening fields ↔ ∃ value, ("device", value) ∈ fields ∧ value ≠ "") ∧
      (hub.Joins name opening fleetGroup ↔ ∀ value, ("device", value) ∈ fields → value = "") := by
  have fleet : hub.Joins name opening fleetGroup ↔
      ∀ value, ("device", value) ∈ fields → value = "" :=
    joins_iff.trans asks.subscribe_eq_fleet_iff
  refine ⟨?_, fleet⟩
  have some_ : (∃ value, ("device", value) ∈ fields ∧ value ≠ "") ↔
      ¬ ∀ value, ("device", value) ∈ fields → value = "" := by
    simp
  rw [some_, ← fleet]
  refine ⟨IsNarrow.notFleet, fun notFleet => ⟨notFleet, ?_⟩⟩
  cases came : subscribe opening with
  | closed => exact .inl (closes_iff.mpr came)
  | failed fault => exact .inr (.inl (fails_of_failed came))
  | joined group =>
    have joined : admission opening.filter? = .joined group := admission_of_joined came
    obtain ⟨-, ⟨-, rfl⟩ | ⟨text, device, filtered, denotes, rfl⟩⟩ := admission_joined joined
    · exact absurd (joins_iff.mpr came) notFleet
    · exact .inr (.inr ⟨text, device, asks.mem_of_filter? filtered, denotes, joins_iff.mpr came⟩)

/-- A connection that asks for a device twice, first with a blank. -/
def twiceOpening : Opening := { query := "device=&device=7".toUTF8.toList }

/-- The blank is passed over. -/
theorem twice_opening_narrow :
    twiceOpening.Asks [("device", ""), ("device", "7")] ∧
      IsNarrow {} "a" twiceOpening [("device", ""), ("device", "7")] ∧
      ¬ Joins {} "a" twiceOpening fleetGroup := by
  have asks : twiceOpening.Asks [("device", ""), ("device", "7")] :=
    ⟨by decide +kernel, rfl, "device=&device=7".toList, by decide +kernel, by rfl⟩
  obtain ⟨narrow, fleet⟩ := connect_narrow_iff {} "a" asks
  exact ⟨asks, narrow.mpr ⟨"7", by decide, by decide⟩,
    fun joins => absurd (fleet.mp joins "7" (by decide)) (by decide)⟩

/-- A connection that asks for a device with a blank. -/
def blankOpening : Opening := { query := "device=".toUTF8.toList }

/-- The blank is dropped, and the connection listens to the fleet. -/
theorem blank_opening_widened :
    blankOpening.Asks [("device", "")] ∧ ¬ IsNarrow {} "a" blankOpening [("device", "")] := by
  refine ⟨⟨by decide +kernel, rfl, "device=".toList, by decide +kernel, by rfl⟩, fun narrow => ?_⟩
  exact narrow.notFleet (joins_iff.mpr (by decide +kernel))

end Hub

end Telematics.Stream
