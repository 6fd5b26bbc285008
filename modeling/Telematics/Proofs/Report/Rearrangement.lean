import Telematics.Proofs.Http.Rearrangement
import Telematics.Proofs.Report.Breakdown
import Telematics.Proofs.Report.Flat
import Telematics.Proofs.Report.Rejection

/-!
Parameters in another order. Every parameter writes to certain slots of the draft, or tells the
device and its tokens. Two parameters that share no slot may change places, and so the order matters
among parameters of one key and within five groups of keys alone: those of the device, a place
against either of its coordinates, the names of the course, and the names of the charge of the
battery.

* `orderedKeys`: the groups.
* `Slot`, `Detail.slots`: what parameters write to. `readEntry_blocks`: which keys write to what.
* `Draft.Same`: drafts that are equal but for the order of their attributes. `Draft.add_comm`:
  details without a common slot may change places.
* `Walk.swaps`: parameters that change places are handled to the same end.
* `run_decodeFields_related`: parameters that are handled to drafts of one device give related
  positions and the same response.
* `decode_rearranged`: the same position, response and calls come out of parameters in another
  order.
-/

namespace Telematics

/-! ## Attributes -/

namespace Json.Members

/-- Two lists of members are the same as maps. -/
def SameMap (members other : Members) : Prop := ∀ key, members.get? key = other.get? key

variable {members other : Members}

/-- Maps stay the same when a member is set in both. -/
theorem SameMap.put (same : SameMap members other) (key : Letters) (value : Json) :
    SameMap (members.put key value) (other.put key value) := by
  intro asked
  by_cases own : key = asked
  · rw [own, get?_put_self, get?_put_self]
  · rw [get?_put_ne value own, get?_put_ne value own, same asked]

/-- Members under different keys may be set in either order. -/
theorem sameMap_put_comm (members : Members) {key key' : Letters} (differ : key ≠ key')
    (value value' : Json) :
    SameMap ((members.put key value).put key' value')
      ((members.put key' value').put key value) := by
  intro asked
  by_cases own : key = asked
  · subst own
    rw [get?_put_ne value' differ.symm, get?_put_self, get?_put_self]
  · rw [get?_put_ne value own]
    by_cases other : key' = asked
    · rw [other, get?_put_self, get?_put_self]
    · rw [get?_put_ne value' other, get?_put_ne value' other, get?_put_ne value own]

end Json.Members

/-- Two positions are equal, and their attributes are the same as maps. -/
structure Position.Matches (position other : Position) : Prop where
  attributes : ∃ members members', position.attributes = .object members ∧
    other.attributes = .object members' ∧ Json.Members.SameMap members members'
  others : { position with attributes := other.attributes } = other

/-- The radio observations, if there are any. -/
def Network.entries? (network : Network) : Option Network :=
  if network.hasEntries then some network else none

namespace Report

open Calendar (Clock Moment Zone)

/-! ## Slots -/

/-- The keys of parameters that tell the device and its tokens. -/
def deviceKeys : List String := ["id", "deviceid", "notificationToken"]

/-- The groups of keys whose parameters may not pass each other. -/
def orderedKeys : List (List String) :=
  [deviceKeys, ["location", "lat"], ["location", "lon"], ["bearing", "heading"],
    ["batt", "batteryLevel"]]

/-- A part of a draft that a parameter writes to. -/
inductive Slot where
  | valid
  | time
  | latitude
  | longitude
  | altitude
  | speed
  | course
  | accuracy
  | towers
  | accessPoints
  | extra (key : String)
deriving DecidableEq, Repr

/-- The slots that a detail writes to. -/
def Detail.slots : Detail → List Slot
  | .valid _ => [.valid]
  | .time _ => [.time]
  | .latitude _ => [.latitude]
  | .longitude _ => [.longitude]
  | .place _ _ => [.latitude, .longitude]
  | .tower _ => [.towers]
  | .accessPoint _ => [.accessPoints]
  | .speed _ => [.speed]
  | .course _ => [.course]
  | .altitude _ => [.altitude]
  | .accuracy _ => [.accuracy]
  | .attribute key _ => [.extra key]

/-- The keys of the parameters that write to a slot. -/
def Slot.keys : Slot → List String
  | .valid => ["valid"]
  | .time => ["timestamp"]
  | .latitude => ["location", "lat"]
  | .longitude => ["location", "lon"]
  | .altitude => ["altitude"]
  | .speed => ["speed"]
  | .course => ["bearing", "heading"]
  | .accuracy => ["accuracy"]
  | .towers => ["cell"]
  | .accessPoints => ["wifi"]
  | .extra key =>
    if key = Position.Known.batteryLevel.key then ["batt", "batteryLevel"] else [key]

/-- Parameters that write to one slot have one key, or keys of one group. -/
theorem isBlock_keys (slot : Slot) : Http.IsBlock orderedKeys slot.keys := by
  cases slot with
  | latitude => exact .inr (by decide)
  | longitude => exact .inr (by decide)
  | course => exact .inr (by decide)
  | extra key =>
    rw [Slot.keys]
    split
    · exact .inr (by decide)
    · exact .inl ⟨key, rfl⟩
  | _ => exact .inl ⟨_, rfl⟩

/-- No detail tells the device. -/
theorem Slot.keys_ne_deviceKeys (slot : Slot) : slot.keys ≠ deviceKeys := by
  cases slot with
  | extra key =>
    intro same
    have few : (Slot.extra key).keys.length ≤ 2 := by
      rw [Slot.keys]
      split
      · exact Nat.le_refl 2
      · exact Nat.le_succ 1
    rw [same] at few
    exact absurd few (by decide)
  | _ => decide

/-- What an entry is about: the device, or some slots. -/
def Entry.blocks : Entry → List (List String)
  | .identifier _ => [deviceKeys]
  | .token _ => [deviceKeys]
  | .detail told => told.slots.map Slot.keys

theorem Entry.isBlock (entry : Entry) {block : List String} (about : block ∈ entry.blocks) :
    Http.IsBlock orderedKeys block := by
  cases entry with
  | detail detail =>
    obtain ⟨slot, -, rfl⟩ := List.mem_map.mp about
    exact isBlock_keys slot
  | identifier _ | token _ =>
    rw [List.mem_singleton.mp about]
    exact .inr (by decide)

/-- The key of a parameter is among those for what its entry is about. -/
theorem readEntry_blocks {decoder : Decoder} {zone : Zone} {key value : String} {entry : Entry}
    (read : readEntry decoder zone key value = .ok entry) :
    ∀ block ∈ entry.blocks, key ∈ block := by
  cases readEntry_says read with
  | other _ =>
    simp only [Entry.blocks, Detail.slots, Slot.keys, List.map_cons, List.map_nil,
      List.mem_singleton, forall_eq]
    split
    · rename_i level
      exact level ▸ List.mem_cons_of_mem _ (List.mem_singleton_self _)
    · exact List.mem_singleton_self _
  | _ => simp [Entry.blocks, Detail.slots, Slot.keys, deviceKeys, Position.Known.key]

/-- The entries of parameters that may pass each other have nothing in common. -/
theorem blocks_apart {decoder : Decoder} {zone : Zone} {key value key' value' : String}
    {one other : Entry} (read : readEntry decoder zone key value = .ok one)
    (read' : readEntry decoder zone key' value' = .ok other)
    (free : ¬ Http.Bound orderedKeys key key') :
    ∀ block ∈ one.blocks, block ∉ other.blocks := fun block here there =>
  free ⟨block, one.isBlock here, readEntry_blocks read block here,
    readEntry_blocks read' block there⟩

/-! ## Drafts -/

/-- Two drafts are equal but for the order of their attributes. -/
inductive Draft.Same (draft : Draft) : Draft → Prop where
  | intro {members : Json.Members} :
      Json.Members.SameMap draft.attributes members →
      Draft.Same draft { draft with attributes := members }

namespace Draft

variable {draft other : Draft}

theorem Same.refl (draft : Draft) : draft.Same draft := .intro fun _ => rfl

theorem Same.trans {third : Draft} (one : draft.Same other) (two : other.Same third) :
    draft.Same third := by
  cases one with
  | intro first =>
    cases two with
    | intro second => exact .intro fun key => (first key).trans (second key)

theorem Same.device (same : draft.Same other) : other.device = draft.device := by
  cases same
  rfl

theorem Same.setDevice (same : draft.Same other) (device : Int) :
    { draft with device }.Same { other with device } := by
  cases same with
  | intro same => exact .intro same

/-- Drafts stay the same when a detail is added to both. -/
theorem Same.add (same : draft.Same other) (detail : Detail) :
    (draft.add detail).Same (other.add detail) := by
  cases same with
  | intro same =>
    exact match detail with
    | .attribute key value => .intro (Json.Members.SameMap.put same key value)
    | .valid _ | .time _ | .latitude _ | .longitude _ | .place _ _ | .tower _ | .accessPoint _
    | .speed _ | .course _ | .altitude _ | .accuracy _ => .intro same

/-- Details without a common slot may be added in either order. -/
theorem add_comm (draft : Draft) {one two : Detail} (apart : ∀ slot ∈ one.slots, slot ∉ two.slots) :
    ((draft.add one).add two).Same ((draft.add two).add one) := by
  cases one <;> cases two
  -- Both add an attribute.
  case attribute.attribute key value key' value' =>
    refine .intro (Json.Members.sameMap_put_comm draft.attributes ?_ value value')
    intro same
    cases same
    exact apart _ List.mem_cons_self List.mem_cons_self
  all_goals
    first
    | exact .refl _
    | exact absurd apart (by simp [Detail.slots])

/-- The device may be told before a detail or behind it. -/
theorem add_setDevice (draft : Draft) (device : Int) (detail : Detail) :
    { draft with device }.add detail = { draft.add detail with device } := by
  cases detail <;> rfl

end Draft

/-! ## Handling -/

variable {ε σ : Type} {services : Services ε σ} {decoder : Decoder} {zone : Zone}
  {remote : Option String} {state after : σ} {draft next other : Draft}

/-- An entry about the device changes nothing else of a draft, and depends on nothing else. -/
theorem Handling.aboutDevice {entry : Entry}
    (handling : Handling services decoder remote draft state entry (some next) after)
    (about : deviceKeys ∈ entry.blocks) :
    ∃ device, next = { draft with device } ∧ ∀ other : Draft, other.device = draft.device →
      Handling services decoder remote other state entry (some { other with device }) after := by
  cases handling with
  | @found text device _ looked => exact ⟨device, rfl, fun _ _ => .found looked⟩
  | registered named kept =>
    refine ⟨draft.device, rfl, fun other same => ?_⟩
    rw [← same]
    exact .registered (same ▸ named) (same ▸ kept)
  | skipped unnamed =>
    refine ⟨draft.device, rfl, fun other same => ?_⟩
    rw [← same]
    exact .skipped (same.trans unnamed)
  | @said detail =>
    obtain ⟨slot, -, same⟩ := List.mem_map.mp about
    exact absurd same slot.keys_ne_deviceKeys

/-- What an entry is about is the device, or the entry is a detail. -/
theorem Entry.aboutDevice_or (entry : Entry) :
    deviceKeys ∈ entry.blocks ∨ ∃ detail, entry = .detail detail := by
  cases entry with
  | detail detail => exact .inr ⟨detail, rfl⟩
  | identifier _ | token _ => exact .inl List.mem_cons_self

/-- The order of attributes does not matter to how an entry is handled. -/
theorem Handling.same {entry : Entry}
    (handling : Handling services decoder remote draft state entry (some next) after)
    (same : draft.Same other) :
    ∃ next', Handling services decoder remote other state entry (some next') after ∧
      next.Same next' := by
  rcases entry.aboutDevice_or with about | ⟨detail, rfl⟩
  · obtain ⟨device, rfl, handles⟩ := handling.aboutDevice about
    exact ⟨_, handles other same.device, same.setDevice device⟩
  · cases handling
    exact ⟨_, .said, same.add detail⟩

/-- Entries that have nothing in common may be handled in either order. -/
theorem Handling.swap {one two : Entry} {middle : Draft} {between : σ}
    (first : Handling services decoder remote draft state one (some middle) between)
    (second : Handling services decoder remote middle between two (some next) after)
    (apart : ∀ block ∈ one.blocks, block ∉ two.blocks) :
    ∃ middle' between' next',
      Handling services decoder remote draft state two (some middle') between' ∧
      Handling services decoder remote middle' between' one (some next') after ∧
      next.Same next' := by
  rcases one.aboutDevice_or with about | ⟨detail, rfl⟩
  · rcases two.aboutDevice_or with also | ⟨detail, rfl⟩
    · exact absurd also (apart _ about)
    · -- The device is told behind the detail.
      obtain ⟨device, rfl, handles⟩ := first.aboutDevice about
      cases second
      refine ⟨_, _, _, .said, handles _ (device_add draft detail), ?_⟩
      rw [draft.add_setDevice device]
      exact .refl _
  · cases first
    rcases two.aboutDevice_or with about | ⟨detail', rfl⟩
    · -- The device is told before the detail.
      obtain ⟨device, rfl, handles⟩ := second.aboutDevice about
      refine ⟨_, _, _, handles draft (device_add draft detail).symm, .said, ?_⟩
      rw [draft.add_setDevice device]
      exact .refl _
    · cases second
      refine ⟨_, _, _, .said, .said, draft.add_comm fun slot here there => ?_⟩
      exact apart _ (List.mem_map_of_mem here) (List.mem_map_of_mem there)

/-- The order of attributes does not matter to how parameters are handled. -/
theorem Walk.same {fields : List Http.Field} {last : Draft}
    (walk : Walk services decoder zone remote state draft fields last after)
    (same : draft.Same other) :
    ∃ last', Walk services decoder zone remote state other fields last' after ∧
      last.Same last' := by
  induction walk generalizing other with
  | done => exact ⟨other, .done, same⟩
  | step read handling _ ih =>
    obtain ⟨next, handled, same⟩ := handling.same same
    obtain ⟨last, walked, same⟩ := ih same
    exact ⟨last, .step read handled walked, same⟩

/-- Parameters that change places are handled to the same end. -/
theorem Walk.swaps {fields others : List Http.Field} {last : Draft}
    (walk : Walk services decoder zone remote state draft fields last after)
    (swaps : Http.Swaps orderedKeys fields others) :
    ∃ last', Walk services decoder zone remote state draft others last' after ∧
      last.Same last' := by
  induction swaps generalizing state draft last with
  | refl => exact ⟨last, walk, .refl last⟩
  | cons _ ih =>
    cases walk with
    | step read handling walk =>
      obtain ⟨last, walked, same⟩ := ih walk
      exact ⟨last, .step read handling walked, same⟩
  | swap free =>
    cases walk with
    | step read first walk =>
      cases walk with
      | step read' second walk =>
        obtain ⟨_, _, _, first', second', same⟩ := first.swap second (blocks_apart read read' free)
        obtain ⟨last, walked, same⟩ := walk.same same
        exact ⟨last, .step read' first' (.step read second' walked), same⟩
  | trans _ _ one two =>
    obtain ⟨middle, walked, same⟩ := one walk
    obtain ⟨last, walked, same'⟩ := two walked
    exact ⟨last, walked, same.trans same'⟩

/-! ## Decoding -/

/-- Attributes and radio observations stay when the last position of the device stands in. -/
theorem run_fallBack_set {device : Int} {base position : Position} {time : Moment}
    (attributes : Json) (network : Option Network)
    (ran : (fallBack services device base time).run state = (.ok position, after)) :
    (fallBack services device { base with attributes, network } time).run state =
      (.ok { position with attributes, network }, after) := by
  unfold fallBack at ran ⊢
  split at ran
  · rename_i nobody
    cases ran
    rw [if_pos nobody]
    rfl
  · rename_i somebody
    obtain ⟨last, _, looked, done⟩ := Action.run_bind_ok ran
    cases done
    rw [if_neg somebody, Action.run_bind, looked]
    cases last <;> rfl

/-- The attributes and the radio observations of a draft go to its position, and do not matter to
    its place. -/
theorem run_locate_set {protocol : Json} {now : Moment} {position : Position}
    (members : Json.Members) (network : Network)
    (ran : (draft.locate protocol services now).run state = (.ok position, after)) :
    ({ draft with attributes := members, network }.locate protocol services now).run state =
      (.ok { position with attributes := .object members, network := network.entries? },
        after) := by
  unfold Draft.locate at ran ⊢
  dsimp only at ran ⊢
  split at ran
  · cases ran
    rfl
  · exact run_fallBack_set (.object members) network.entries? ran

/-- The order of attributes does not matter to how a draft gets its place. -/
theorem Draft.Same.locate {protocol : Json} {now : Moment} {position : Position}
    (same : draft.Same other)
    (ran : (draft.locate protocol services now).run state = (.ok position, after)) :
    ∃ position', (other.locate protocol services now).run state = (.ok position', after) ∧
      position.Matches position' := by
  cases same with
  | @intro members same =>
    have own := (locate_placed ran).attributes
    have stays : draft.network.entries? = position.network :=
      (locate_placed ran).source.network.symm
    have moved := run_locate_set members draft.network ran
    rw [stays] at moved
    exact ⟨_, moved, ⟨_, _, own, rfl, same⟩, rfl⟩

/-- Parameters give related positions and the same response, if they are handled to drafts of the
    same device that get related places. -/
theorem run_decodeFields_related (related : Position → Position → Prop) {clock : Clock}
    {fields others : List Http.Field} {position : Position} {response : Http.Response}
    (ran : (decodeFields decoder clock services remote fields).run state =
      (.ok ⟨some position, response⟩, after))
    (moves : ∀ {draft : Draft} {middle : σ},
      Walk services decoder clock.zone remote state {} fields draft middle → draft.device ≠ 0 →
      ∃ last, Walk services decoder clock.zone remote state {} others last middle ∧
        last.device = draft.device ∧ ∀ {place : Position} {located : σ},
          (draft.locate decoder.protocol services clock.now).run middle = (.ok place, located) →
          ∃ place', (last.locate decoder.protocol services clock.now).run middle =
            (.ok place', located) ∧ related place place') :
    ∃ position', (decodeFields decoder clock services remote others).run state =
        (.ok ⟨some position', response⟩, after) ∧ related position position' := by
  obtain ⟨found, middle, walked, ran⟩ := Action.run_bind_ok ran
  cases found with
  | none => cases ran
  | some draft =>
    obtain ⟨place, located, locates, ran⟩ := Action.run_bind_ok ran
    split at ran
    · cases ran
    rename_i somebody
    obtain ⟨last, walk, same, transfer⟩ := moves (handleAll_walk walked) somebody
    obtain ⟨place', locates', equal⟩ := transfer locates
    have handled := walk.run_append []
    rw [List.append_nil] at handled
    obtain ⟨_, _, answered, done⟩ := Action.run_bind_ok ran
    cases done
    refine ⟨place', ?_, equal⟩
    rw [decodeFields, Action.run_bind, handled]
    show (last.locate decoder.protocol services clock.now >>= _).run middle = _
    rw [Action.run_bind, locates']
    dsimp only
    rw [same, if_neg somebody, Action.run_bind, answered]
    rfl

/-- Parameters that are handled in another order give the same position and response. -/
theorem run_decodeFields_swaps {clock : Clock} {fields others : List Http.Field}
    {position : Position} {response : Http.Response}
    (ran : (decodeFields decoder clock services remote fields).run state =
      (.ok ⟨some position, response⟩, after))
    (swaps : Http.Swaps orderedKeys fields others) :
    ∃ position', (decodeFields decoder clock services remote others).run state =
        (.ok ⟨some position', response⟩, after) ∧ position.Matches position' := by
  refine run_decodeFields_related Position.Matches ran fun walk _ => ?_
  obtain ⟨last, walked, same⟩ := walk.swaps swaps
  exact ⟨last, walked, same.device, same.locate⟩

/-- The order of parameters matters only among those of one key and within the groups: where the
    parameters of a request give a position, the same parameters in an order that keeps these give
    an equal one, attributes compared as maps, with the same response, after the same calls of
    services and with the same state in the end. -/
theorem decode_rearranged {clock : Clock} {request request' : Http.Request}
    (plain : isJson request = false) (plain' : isJson request' = false)
    (sender : request.remote = request'.remote) {fields fields' : List Http.Field}
    (read : (requestFields request : Except (Failure ε) _) = .ok fields)
    (read' : (requestFields request' : Except (Failure ε) _) = .ok fields')
    (rearranged : Http.Rearranged orderedKeys fields fields') {position : Position}
    {response : Http.Response} {calls : List Call}
    (ran : (decode decoder clock services.recorded request).run (state, []) =
      (.ok ⟨some position, response⟩, (after, calls))) :
    ∃ position', (decode decoder clock services.recorded request').run (state, []) =
        (.ok ⟨some position', response⟩, (after, calls)) ∧ position.Matches position' := by
  rw [decode, if_neg (by simp [plain]), decodeQuery, read] at ran
  rw [decode, if_neg (by simp [plain']), decodeQuery, read', ← sender]
  exact run_decodeFields_swaps ran (Http.swaps_of_keeps rearranged.keeps_grouped)

/-- A report of parameters. -/
def fueledQuery (parameters : String) : Http.Request where
  query := Text.utf8Bytes parameters.toList
  path := ['/']
  header := ⟨"", []⟩
  codec := none

/-- What such a report leads to, with the calls of services. -/
def fueledRun (parameters : String) : Except (Failure String) Decoded × Unit × List Call :=
  (decode ⟨.text "osmand", .knots⟩ ⟨noFixTime, .utc⟩
    (idleServices : Services String Unit).recorded (fueledQuery parameters)).run ((), [])

/-- A run with a position is accepted. -/
theorem exists_of_position {ran : Except (Failure String) Decoded × Unit × List Call}
    (given : (ran.1.toOption.bind (·.position)).isSome = true) :
    ∃ position response calls, ran = (.ok ⟨some position, response⟩, ((), calls)) :=
  match ran, given with
  | (.ok ⟨some position, response⟩, ((), calls)), _ => ⟨position, response, calls, rfl⟩

/-- Such a report in two orders, whose attributes come out in two orders. -/
theorem fueledQuery_rearranged :
    let fields : List Http.Field :=
      [("id", "a"), ("lat", "1"), ("lon", "2"), ("fuel", "7"), ("oil", "8")]
    let fields' : List Http.Field :=
      [("lat", "1"), ("id", "a"), ("oil", "8"), ("fuel", "7"), ("lon", "2")]
    Http.Rearranged orderedKeys fields fields' ∧
      ∃ position position' response calls,
        fueledRun "id=a&lat=1&lon=2&fuel=7&oil=8" =
          (.ok ⟨some position, response⟩, ((), calls)) ∧
        fueledRun "lat=1&id=a&oil=8&fuel=7&lon=2" =
          (.ok ⟨some position', response⟩, ((), calls)) ∧
        position.Matches position' := by
  intro fields fields'
  have rearranged : Http.Rearranged orderedKeys fields fields' :=
    Http.Swaps.rearranged <|
      .trans (.swap (by decide)) <|
      .trans (.cons (.cons (.swap (by decide)))) <|
      .trans (.cons (.cons (.cons (.swap (by decide))))) <|
      .cons (.cons (.swap (by decide)))
  have plain : isJson (fueledQuery "id=a&lat=1&lon=2&fuel=7&oil=8") = false := by decide
  have plain' : isJson (fueledQuery "lat=1&id=a&oil=8&fuel=7&lon=2") = false := by decide
  obtain ⟨position, response, calls, ran⟩ : ∃ position response calls,
      fueledRun "id=a&lat=1&lon=2&fuel=7&oil=8" =
        (.ok ⟨some position, response⟩, ((), calls)) :=
    exists_of_position (by decide +kernel)
  unfold fueledRun at ran ⊢
  obtain ⟨position', ran', equal⟩ :=
    decode_rearranged plain plain' rfl (by rfl) (by rfl) rearranged ran
  exact ⟨rearranged, position, position', response, calls, ran, ran', equal⟩

end Report

end Telematics
