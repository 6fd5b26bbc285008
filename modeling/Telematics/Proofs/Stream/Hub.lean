import Mathlib.Data.List.Nodup
import Telematics.Proofs.Json.Decimal
import Telematics.Store.Column
import Telematics.Stream.Hub

/-!
Who hears a message about a position. Such a message changes nothing of the hub, and every member of
its group is sent one frame. A connection that has joined a group stays in it, and in no other one,
whatever happens to connections of other names.

* `deviceGroup_injective`, `deviceGroup_ne_fleetGroup`: groups do not collide.
* `Hub.IsSound`: channels are told apart. Everything that happens to a hub keeps it sound.
* `Opening.filter?`: the device filter of a connection. `Opening.group?`: the group that it joins,
  if it is accepted.
* `Hub.Hears`: a name is heard in one group at most. `connect_hears`: that is the group which its
  connection has joined. `Hears.connect`, `Hears.disconnect`: other names do not matter.
* `heard_send`: what is heard of a position that is sent to a group.
-/

namespace Telematics.Stream

/-! ## Names of groups -/

theorem deviceGroup_int (device : Int) :
    (deviceGroup (.int device)).toList = "device_".toList ++ (Number.decimal device).toList := by
  show ("device_" ++ String.ofList (Number.decimal device).toList).toList = _
  rw [String.toList_append, String.ofList_toList]

/-- The groups of two devices have two names. -/
theorem deviceGroup_injective {device other : Int}
    (same : deviceGroup (.int device) = deviceGroup (.int other)) : device = other := by
  have chars := congrArg String.toList same
  rw [deviceGroup_int, deviceGroup_int] at chars
  exact Json.decimal_injective (String.toList_inj.mp (List.append_cancel_left chars))

/-- The group of a device is not that of the fleet. -/
theorem deviceGroup_ne_fleetGroup (device : Int) : deviceGroup (.int device) ≠ fleetGroup := by
  intro same
  have chars := congrArg String.toList same
  rw [deviceGroup_int] at chars
  have first : some 'd' = some 'p' := congrArg List.head? chars
  exact absurd first (by decide)

/-- The number of a stored device has nineteen digits at most, and a sign. -/
theorem length_decimal_le {device : Int} (kept : Column.bounded device = .ok device) :
    (Number.decimal device).toList.length ≤ 20 := by
  obtain ⟨-, least, most⟩ := Column.bounded_eq_ok_iff.mp kept
  have size : device.natAbs < 10 ^ 19 := by
    unfold Column.integerLimit at least most
    omega
  have few := (Nat.length_toDigits_le_iff (by decide) (by decide)).mpr size
  unfold Number.decimal Number.decimalDigits
  split
  · rw [String.toList_ofList, List.length_cons]
    omega
  · rw [String.toList_ofList]
    omega

/-- A number has a place in the name of a group if it is not longer than what the name leaves. -/
theorem isGroupName_deviceGroup_iff (device : Int) :
    isGroupName (deviceGroup (.int device)) = true ↔
      (Number.decimal device).toList.length ≤ 92 := by
  have chars := deviceGroup_int device
  have digits := Json.decimal_chars device
  -- The name ends in a character of the number, or in the underscore.
  have unended : Text.withoutLineEnd (deviceGroup (.int device)).toList =
      (deviceGroup (.int device)).toList := by
    refine if_neg fun last => ?_
    have among := List.mem_of_getLast? last
    rw [chars, List.mem_append] at among
    rcases among with front | back
    · exact absurd front (by decide)
    · rcases digits _ back with digit | minus
      · exact absurd digit (by decide)
      · exact absurd minus (by decide)
  have length : (deviceGroup (.int device)).length = 7 + (Number.decimal device).toList.length := by
    rw [← String.length_toList, chars, List.length_append]
    rfl
  have filled : (deviceGroup (.int device)).toList ≠ [] := by
    rw [chars]
    exact List.cons_ne_nil _ _
  have sound : (deviceGroup (.int device)).toList.all isGroupNameChar = true := by
    rw [chars, List.all_append, Bool.and_eq_true]
    refine ⟨by decide, List.all_eq_true.mpr fun c among => ?_⟩
    rcases digits c among with digit | rfl
    · unfold isGroupNameChar
      have decimal : Text.isDecimal c = true := by
        rw [Text.isDecimal, Json.decimal?_of_isDigit digit]
        rfl
      rw [decimal, Bool.or_true, Bool.true_or]
    · decide
  unfold isGroupName
  simp only [unended, length, sound, groupNameLimit, Bool.and_eq_true, decide_eq_true_eq, ne_eq,
    filled, not_false_eq_true, and_true]
  omega

/-- The number of a stored device has a place in the name of a group. -/
theorem isGroupName_deviceGroup {device : Int}
    (kept : Column.bounded device = .ok device) :
    isGroupName (deviceGroup (.int device)) = true :=
  (isGroupName_deviceGroup_iff device).mpr
    (Nat.le_trans (length_decimal_le kept) (by decide))

theorem isGroupName_fleetGroup : isGroupName fleetGroup = true := by decide

/-! ## Frames -/

/-- The document that a listener is sent for a position. -/
def positionFrame (position : Position) : Json :=
  .object [("type", .text positionType), ("device_id", position.deviceId),
    ("position", position.toJson)]

theorem frameDocument_positionMessage (position : Position) :
    frameDocument (positionMessage position) = positionFrame position := rfl

/-- What is sent to a listener for a position. -/
def sentFrame (position : Position) : Event := .sent (positionFrame position).render

/-! ## Groups -/

/-- The text of the device filter, if the query has one. -/
def Opening.filter? (opening : Opening) : Option String :=
  (Text.readUtf8 opening.query).toOption.bind deviceFilter?

/-- The group in which a connection is heard once it is opened. -/
def Opening.group? (opening : Opening) : Option String :=
  match subscribe opening with
  | .joined group => some group
  | .closed => none
  | .failed _ => none

theorem Opening.group?_eq_some_iff {opening : Opening} {group : String} :
    opening.group? = some group ↔ subscribe opening = .joined group := by
  unfold group?
  cases subscribe opening <;> simp

/-! ## Channels -/

namespace Hub

variable {hub after : Hub} {name other group : String} {events : Events}

/-- The channels of a hub are told apart, and the next one is free. -/
structure IsSound (hub : Hub) : Prop where
  connections : ∀ connection ∈ hub.connections, connection.channel < hub.nextChannel
  members : ∀ member ∈ hub.members, member.channel < hub.nextChannel
  distinct : (hub.connections.map (·.channel)).Nodup

theorem connections_add (hub : Hub) (name : String) (joined : Option String) :
    (hub.add name joined).connections =
      (hub.forget name).connections ++ [⟨name, hub.nextChannel, joined⟩] := rfl

/-- A connection that is added joins its group, and all others stay in theirs. -/
theorem isMember_add (hub : Hub) (name : String) (joined : Option String)
    (connection : Connection) :
    (hub.add name joined).isMember group connection = true ↔
      hub.isMember group connection = true ∨
        joined = some group ∧ connection.channel = hub.nextChannel := by
  unfold isMember
  rw [List.contains_iff_mem, List.contains_iff_mem]
  show _ ∈ hub.members ++ (joined.map fun group => (⟨group, hub.nextChannel⟩ : Member)).toList ↔ _
  rw [List.mem_append, Option.mem_toList, Option.map_eq_some_iff]
  refine or_congr_right ⟨?_, ?_⟩
  · rintro ⟨own, joins, same⟩
    obtain ⟨rfl, channel⟩ := Member.mk.inj same
    exact ⟨joins, channel.symm⟩
  · rintro ⟨joins, channel⟩
    exact ⟨group, joins, by rw [channel]⟩

theorem isSound_empty : IsSound {} where
  connections _ absent := nomatch absent
  members _ absent := nomatch absent
  distinct := List.nodup_nil

/-- A hub with some of the connections and some of the members is as sound. -/
theorem IsSound.sublist (sound : hub.IsSound)
    (connections : after.connections.Sublist hub.connections)
    (members : ∀ member ∈ after.members, member ∈ hub.members)
    (next : after.nextChannel = hub.nextChannel) : after.IsSound where
  connections connection present := by
    rw [next]
    exact sound.connections connection (connections.subset present)
  members member present := by
    rw [next]
    exact sound.members member (members member present)
  distinct := sound.distinct.sublist (connections.map _)

theorem IsSound.forget (sound : hub.IsSound) (name : String) : (hub.forget name).IsSound :=
  sound.sublist List.filter_sublist (fun _ present => present) rfl

theorem IsSound.add (sound : hub.IsSound) (name : String) (group : Option String) :
    (hub.add name group).IsSound where
  connections connection present := by
    rcases List.mem_append.mp present with old | new
    · exact Nat.lt_succ_of_lt ((sound.forget name).connections connection old)
    · cases List.mem_singleton.mp new
      exact Nat.lt_succ_self _
  members member present := by
    rcases List.mem_append.mp present with old | new
    · exact Nat.lt_succ_of_lt (sound.members member old)
    · cases group with
      | none => cases new
      | some group =>
        cases List.mem_singleton.mp new
        exact Nat.lt_succ_self _
  distinct := by
    rw [connections_add, List.map_append, List.nodup_append]
    refine ⟨(sound.forget name).distinct, List.nodup_singleton _, ?_⟩
    intro channel old fresh new
    obtain ⟨connection, present, rfl⟩ := List.mem_map.mp old
    cases List.mem_singleton.mp new
    exact Nat.ne_of_lt ((sound.forget name).connections connection present)

theorem IsSound.connect (sound : hub.IsSound) (name : String) (opening : Opening) :
    (hub.connect name opening).1.IsSound := by
  unfold Hub.connect
  cases subscribe opening with
  | joined group => exact sound.add name _
  | closed => exact sound.add name _
  | failed fault => exact sound.forget name

theorem IsSound.disconnect (sound : hub.IsSound)
    (done : hub.disconnect name = some (after, events)) : after.IsSound := by
  obtain ⟨connection, -, same⟩ := Option.map_eq_some_iff.mp done
  cases same
  exact sound.sublist List.filter_sublist (fun _ present => (List.mem_filter.mp present).1) rfl

theorem IsSound.send (sound : hub.IsSound) {message : Message}
    (done : hub.send group message = .ok (after, events)) : after.IsSound := by
  unfold Hub.send at done
  split at done
  · cases done
  split at done
  · cases done
  · cases done
    refine sound.sublist ?_ ?_ rfl
    · unfold Hub.after
      dsimp only
      split
      · exact List.filter_sublist
      · exact List.Sublist.refl _
    · intro member present
      unfold Hub.after at present
      dsimp only at present
      split at present
      · exact (List.mem_filter.mp present).1
      · exact present

/-! ## Listeners -/

/-- The connections of a name that are members of a group. -/
def listeners (hub : Hub) (name group : String) : List Connection :=
  (hub.connections.filter (·.name = name)).filter (hub.isMember group)

/-- One connection of a name is a member of a group, and none of any other group. Without a group no
    connection of the name is a member of any. -/
def Hears (hub : Hub) (name : String) (group : Option String) : Prop :=
  ∀ other, (hub.listeners name other).length = if group = some other then 1 else 0

/-- Forgetting a name leaves the connections of the others. -/
theorem filter_forget (hub : Hub) (differ : other ≠ name) :
    (hub.forget other).connections.filter (·.name = name) =
      hub.connections.filter (·.name = name) := by
  unfold forget
  rw [List.filter_filter]
  refine List.filter_congr fun connection _ => ?_
  by_cases own : connection.name = name
  · simp [own, differ.symm]
  · simp [own]

/-- A connection of another name that comes does not matter. -/
theorem Hears.add {joined : Option String} (sound : hub.IsSound) {heard : Option String}
    (hears : hub.Hears name heard) (differ : other ≠ name) :
    (hub.add other joined).Hears name heard := by
  intro group
  rw [← hears group]
  have connections : (hub.add other joined).connections.filter (·.name = name) =
      hub.connections.filter (·.name = name) := by
    have new : [(⟨other, hub.nextChannel, joined⟩ : Connection)].filter (·.name = name) = [] := by
      simp [differ]
    rw [connections_add, List.filter_append, new, List.append_nil, hub.filter_forget differ]
  unfold listeners
  rw [connections]
  refine congrArg List.length (List.filter_congr fun connection present => ?_)
  -- The channel of the new connection is not one of those that were there.
  have older := sound.connections connection (List.mem_filter.mp present).1
  rw [Bool.eq_iff_iff, isMember_add]
  exact or_iff_left fun new => Nat.ne_of_lt older new.2

theorem Hears.forget {heard : Option String} (hears : hub.Hears name heard)
    (differ : other ≠ name) : (hub.forget other).Hears name heard := by
  intro group
  rw [← hears group]
  unfold listeners
  rw [hub.filter_forget differ]
  rfl

theorem Hears.connect {heard : Option String} (sound : hub.IsSound)
    (hears : hub.Hears name heard) (differ : other ≠ name) (opening : Opening) :
    (hub.connect other opening).1.Hears name heard := by
  unfold Hub.connect
  cases subscribe opening with
  | joined group => exact hears.add sound differ
  | closed => exact hears.add sound differ
  | failed fault => exact hears.forget differ

theorem Hears.disconnect {heard : Option String} (sound : hub.IsSound)
    (hears : hub.Hears name heard) (differ : other ≠ name)
    (done : hub.disconnect other = some (after, events)) : after.Hears name heard := by
  obtain ⟨gone, found, same⟩ := Option.map_eq_some_iff.mp done
  cases same
  have left := hears.forget differ
  intro group
  rw [← left group]
  refine congrArg List.length (List.filter_congr fun connection present => ?_)
  have remains := (List.mem_filter.mp present).1
  have stays := (List.mem_filter.mp remains).1
  -- The channel that leaves is that of another connection.
  have apart : connection.channel ≠ gone.channel := by
    intro same
    have one := List.inj_on_of_nodup_map sound.distinct stays (List.mem_of_find?_eq_some found) same
    have named := List.find?_some found
    have kept := (List.mem_filter.mp remains).2
    rw [one] at kept
    simp only [decide_eq_true_eq] at named kept
    exact kept named
  unfold isMember
  rw [Bool.eq_iff_iff, List.contains_iff_mem, List.contains_iff_mem]
  show _ ∈ hub.members.filter _ ↔ _
  rw [List.mem_filter]
  exact and_iff_left (by simpa using apart)

theorem filter_forget_self (hub : Hub) (name : String) :
    (hub.forget name).connections.filter (·.name = name) = [] := by
  unfold forget
  rw [List.filter_filter, List.filter_eq_nil_iff]
  intro connection _
  simp

theorem forget_hears (hub : Hub) (name : String) : (hub.forget name).Hears name none := by
  intro group
  unfold listeners
  rw [filter_forget_self]
  rfl

/-- A connection that is added is heard in its group, and nowhere without one. -/
theorem add_hears (sound : hub.IsSound) (name : String) (joined : Option String) :
    (hub.add name joined).Hears name joined := by
  intro group
  have alone : (hub.add name joined).connections.filter (·.name = name) =
      [⟨name, hub.nextChannel, joined⟩] := by
    rw [connections_add, List.filter_append, filter_forget_self, List.nil_append]
    simp
  -- No member has the channel of the new connection.
  have fresh : ¬ hub.isMember group ⟨name, hub.nextChannel, joined⟩ = true := by
    unfold isMember
    rw [List.contains_iff_mem]
    exact fun among => Nat.lt_irrefl _ (sound.members _ among)
  have member : (hub.add name joined).isMember group ⟨name, hub.nextChannel, joined⟩ =
      decide (joined = some group) := by
    rw [Bool.eq_iff_iff, isMember_add, or_iff_right fresh, decide_eq_true_iff]
    exact and_iff_left rfl
  unfold listeners
  rw [alone, List.filter_singleton, member]
  by_cases same : joined = some group <;> simp [same]

/-- A connection that is opened is heard in its group. -/
theorem connect_hears (sound : hub.IsSound) (name : String) (opening : Opening) :
    (hub.connect name opening).1.Hears name opening.group? := by
  unfold Hub.connect Opening.group?
  cases subscribe opening with
  | joined group => exact add_hears sound name (some group)
  | closed => exact add_hears sound name none
  | failed fault => exact hub.forget_hears name

/-! ## Sending -/

/-- What connections of a name do, in order. -/
def heardBy (name : String) (events : Events) : List Event :=
  (events.filter (·.1 = name)).flatMap (·.2)

theorem heardBy_append (name : String) (events later : Events) :
    heardBy name (events ++ later) = heardBy name events ++ heardBy name later := by
  unfold heardBy
  rw [List.filter_append, List.flatMap_append]

/-- A position that is sent changes nothing of the hub, and all members of its group are sent it. -/
theorem send_position (hub : Hub) {group : String} (named : isGroupName group = true)
    (position : Position) :
    hub.send group (positionMessage position) =
      .ok (hub, (hub.connections.filter (hub.isMember group)).map fun connection =>
        (connection.name, [sentFrame position])) := by
  have plain : (Json.Members.get? (positionMessage position) reservedKey).isSome = false := by
    unfold positionMessage reservedKey Json.Members.get?
    rfl
  have filled : ∀ connections : List Connection,
      (connections.map fun connection =>
        (connection.name, [sentFrame position])).filter (·.2 ≠ []) =
          connections.map fun connection => (connection.name, [sentFrame position]) := by
    intro connections
    rw [List.filter_eq_self]
    intro event among
    obtain ⟨connection, -, rfl⟩ := List.mem_map.mp among
    simp
  unfold Hub.send
  rw [named, plain, react_positionMessage, frame, frameDocument_positionMessage]
  simp only [Bool.not_true, Bool.false_and, Bool.false_eq_true, if_false]
  exact congrArg (fun events => Except.ok (hub, events)) (filled _)

/-- What is heard of a position that is sent to a group: its frame, if this is the group in which
    the name is heard. -/
theorem heard_send {heard : Option String} (hears : hub.Hears name heard)
    (named : isGroupName group = true) (position : Position) :
    ∃ events, hub.send group (positionMessage position) = .ok (hub, events) ∧
      heardBy name events = if heard = some group then [sentFrame position] else [] := by
  refine ⟨_, hub.send_position named position, ?_⟩
  have each : ∀ connections : List Connection,
      heardBy name (connections.map fun connection => (connection.name, [sentFrame position])) =
        List.replicate (connections.filter (·.name = name)).length (sentFrame position) := by
    intro connections
    induction connections with
    | nil => rfl
    | cons connection rest ih =>
      unfold heardBy at ih ⊢
      by_cases own : connection.name = name
      · rw [List.map_cons, List.filter_cons_of_pos (by simpa using own), List.flatMap_cons, ih,
          List.filter_cons_of_pos (by simpa using own), List.length_cons, List.replicate_succ]
        rfl
      · rw [List.map_cons, List.filter_cons_of_neg (by simpa using own), ih,
          List.filter_cons_of_neg (by simpa using own)]
  have count := hears group
  unfold listeners at count
  rw [List.filter_comm] at count
  rw [each, count]
  split <;> rfl

end Hub

end Telematics.Stream
