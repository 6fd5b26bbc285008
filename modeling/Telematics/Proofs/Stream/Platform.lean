import Telematics.Proofs.Gateway.Published
import Telematics.Proofs.Stream.Subscription

/-!
The gateway and its stream together: what the gateway publishes goes to the hub at once. Whoever has
been admitted to the stream is sent one frame for every stored position that was asked for, in the
order of storing, and nothing else.

* `Platform`, `Happening`, `Platform.take`: the gateway with the hub, what can happen, and what
  comes of it.
* `Opening.wants`: whether a connection asks for a position.
* `Flows`: positions are stored one after the other, while other connections come and go.
* `heard_stream`: what a connection is sent while positions flow.
-/

namespace Telematics.Stream

open Gateway (Broadcasts Stores)

/-- The gateway, and the hub that its messages go to. -/
structure Platform where
  gateway : Gateway
  hub : Hub := {}

/-- What can happen to the platform. -/
inductive Happening where
  | step (what : Gateway.Step)
  | connect (name : String) (opening : Opening)
  | receive (name : String)
  | disconnect (name : String)
deriving DecidableEq, Repr

/-- Sends messages to their groups, up to the first one that cannot be sent. -/
def Hub.deliver (hub : Hub) : List (String × Message) → Hub × Events
  | [] => (hub, [])
  | (group, message) :: rest =>
    match hub.send group message with
    | .ok (after, events) => ((after.deliver rest).1, events ++ (after.deliver rest).2)
    | .error _ => (hub, [])

/-- What comes of something that happens: the platform afterwards, and the events of connections.
    Nothing happens to a connection that is not there. -/
def Platform.take (platform : Platform) : Happening → Platform × Events
  | .step what =>
    let outcome := platform.gateway.step what
    let sent := platform.hub.deliver outcome.outbox
    (⟨outcome.gateway, sent.1⟩, sent.2)
  | .connect name opening =>
    let opened := platform.hub.connect name opening
    ({ platform with hub := opened.1 }, opened.2)
  | .receive name =>
    let received := (platform.hub.receive name).getD (platform.hub, [])
    ({ platform with hub := received.1 }, received.2)
  | .disconnect name =>
    let ended := (platform.hub.disconnect name).getD (platform.hub, [])
    ({ platform with hub := ended.1 }, ended.2)

/-- What comes of a sequence of happenings. -/
def Platform.follow (platform : Platform) : List Happening → Platform × Events
  | [] => (platform, [])
  | happening :: rest =>
    let next := platform.take happening
    ((next.1.follow rest).1, next.2 ++ (next.1.follow rest).2)

theorem take_receive (platform : Platform) (name : String) :
    platform.take (.receive name) = (platform, []) := by
  simp only [Platform.take, Hub.receive]
  cases platform.hub.find? name <;> rfl

theorem take_disconnect_cases (platform : Platform) (name : String) :
    platform.take (.disconnect name) = (platform, []) ∨
      ∃ after events, platform.hub.disconnect name = some (after, events) ∧
        platform.take (.disconnect name) = ({ platform with hub := after }, events) := by
  simp only [Platform.take]
  cases platform.hub.disconnect name with
  | none => exact .inl rfl
  | some result => exact .inr ⟨result.1, result.2, rfl, rfl⟩

/-! ## Soundness -/

theorem Hub.IsSound.deliver {hub : Hub} (sound : hub.IsSound)
    (outbox : List (String × Message)) : (hub.deliver outbox).1.IsSound := by
  induction outbox generalizing hub with
  | nil => exact sound
  | cons sent rest ih =>
    obtain ⟨group, message⟩ := sent
    unfold Hub.deliver
    cases done : hub.send group message with
    | error fault => exact sound
    | ok result => exact ih (sound.send done)

theorem isSound_take {platform : Platform} (sound : platform.hub.IsSound) (happening : Happening) :
    (platform.take happening).1.hub.IsSound := by
  cases happening with
  | step what => exact sound.deliver _
  | connect name opening => exact sound.connect name opening
  | receive name =>
    rw [take_receive]
    exact sound
  | disconnect name =>
    rcases take_disconnect_cases platform name with same | ⟨after, events, done, same⟩ <;> rw [same]
    · exact sound
    · exact sound.disconnect done

theorem isSound_follow {platform : Platform} (sound : platform.hub.IsSound)
    (happenings : List Happening) : (platform.follow happenings).1.hub.IsSound := by
  induction happenings generalizing platform with
  | nil => exact sound
  | cons happening rest ih => exact ih (isSound_take sound happening)

/-! ## Subscriptions -/

/-- Whether a connection asks for a position: for every one without a device filter, and otherwise
    for those of the device whose number the filter denotes. -/
def Opening.wants (opening : Opening) (position : Position) : Bool :=
  match opening.filter? with
  | none => true
  | some text =>
    match Number.readInteger text with
    | .ok device => position.deviceId = .int device
    | .error _ => false

/-- The group that a connection joins is that of its filter. -/
theorem subscribe_joined {opening : Opening} {group : String}
    (joined : subscribe opening = .joined group) :
    opening.filter? = none ∧ group = fleetGroup ∨
      ∃ text device, opening.filter? = some text ∧ Number.readInteger text = .ok device ∧
        group = deviceGroup (.int device) :=
  (admission_joined (admission_of_joined joined)).2

/-- A connection is accepted if it has joined a group. -/
theorem accepted_iff (hub : Hub) (name : String) (opening : Opening) :
    Hub.heardBy name (hub.connect name opening).2 = [.accept .null] ↔
      opening.group?.isSome = true := by
  have alone : ∀ events : List Event, Hub.heardBy name [(name, events)] = events := by
    intro events
    unfold Hub.heardBy
    rw [List.filter_cons_of_pos (by simp)]
    exact List.append_nil events
  unfold Hub.connect Opening.group?
  cases subscribe opening with
  | joined group => exact iff_of_true (alone _) rfl
  | closed =>
    rw [alone]
    exact iff_of_false (by decide) (by decide)
  | failed fault =>
    rw [alone]
    exact iff_of_false (fun same => nomatch same) Bool.false_ne_true

/-! ## Publications -/

/-- What is heard of a publication: one frame, if the position is asked for. -/
theorem heard_deliver {hub : Hub} {name : String} {opening : Opening} {position : Position}
    {device : Int} (hears : hub.Hears name opening.group?) (own : position.deviceId = .int device)
    (kept : Column.bounded device = .ok device) :
    (hub.deliver (publication position)).1 = hub ∧
      Hub.heardBy name (hub.deliver (publication position)).2 =
        if opening.group?.isSome = true ∧ opening.wants position = true then [sentFrame position]
        else [] := by
  obtain ⟨first, toDevice, one⟩ :=
    Hub.heard_send hears (isGroupName_deviceGroup kept) position
  obtain ⟨second, toFleet, two⟩ := Hub.heard_send hears isGroupName_fleetGroup position
  have delivered : hub.deliver (publication position) = (hub, first ++ (second ++ [])) := by
    unfold publication
    rw [own]
    unfold Hub.deliver
    rw [toDevice]
    dsimp only
    unfold Hub.deliver
    rw [toFleet]
    rfl
  rw [delivered]
  refine ⟨rfl, ?_⟩
  rw [List.append_nil, Hub.heardBy_append, one, two]
  cases joins : opening.group? with
  | none => rfl
  | some group =>
    rcases subscribe_joined (Opening.group?_eq_some_iff.mp joins) with
      ⟨all, rfl⟩ | ⟨text, asked, filter, denotes, rfl⟩
    · have wants : opening.wants position = true := by
        rw [Opening.wants, all]
      have differ : ¬ some fleetGroup = some (deviceGroup (.int device)) :=
        fun same => deviceGroup_ne_fleetGroup device (Option.some.inj same).symm
      rw [if_neg differ, if_pos rfl, if_pos ⟨rfl, wants⟩]
      rfl
    · have wants : opening.wants position = decide (asked = device) := by
        rw [Opening.wants, filter]
        simp only [denotes, own, Json.int.injEq]
        exact decide_eq_decide.mpr eq_comm
      have differ : ¬ some (deviceGroup (.int asked)) = some fleetGroup :=
        fun same => deviceGroup_ne_fleetGroup asked (Option.some.inj same)
      rw [if_neg differ, List.append_nil]
      by_cases same : asked = device
      · rw [same, if_pos rfl, if_pos ⟨rfl, by rw [wants, same]; exact decide_eq_true rfl⟩]
      · have apart : ¬ some (deviceGroup (.int asked)) = some (deviceGroup (.int device)) :=
          fun one => same (deviceGroup_injective (Option.some.inj one))
        rw [if_neg apart, if_neg fun both => same (of_decide_eq_true (wants ▸ both.2))]

/-! ## Streams -/

/-- Something happens to connections, but not to the one of a name: others come and go, and any of
    them may send a text. -/
def Happening.Spares (name : String) : Happening → Prop
  | .step _ => False
  | .connect other _ => other ≠ name
  | .receive _ => True
  | .disconnect other => other ≠ name

/-- From a platform on positions are stored one after the other, each while messages are sent and
    arrive. In between other connections come and go, and the gateway does what stores no position
    and sends no message. -/
inductive Flows (name : String) : Platform → List Happening → List Position → Prop where
  | done {platform : Platform} : Flows name platform [] []
  | stored {platform : Platform} {what : Gateway.Step} {position : Position}
      {rest : List Happening} {positions : List Position} :
      Broadcasts platform.gateway → Stores platform.gateway what position →
      Flows name (platform.take (.step what)).1 rest positions →
      Flows name platform (.step what :: rest) (position :: positions)
  | idle {platform : Platform} {what : Gateway.Step} {rest : List Happening}
      {positions : List Position} :
      (platform.gateway.step what).outbox = [] →
      (∀ position, ¬ Stores platform.gateway what position) →
      Flows name (platform.take (.step what)).1 rest positions →
      Flows name platform (.step what :: rest) positions
  | aside {platform : Platform} {happening : Happening} {rest : List Happening}
      {positions : List Position} :
      happening.Spares name → Flows name (platform.take happening).1 rest positions →
      Flows name platform (happening :: rest) positions

theorem heardBy_of_ne {name other : String} (differ : other ≠ name) (events : List Event) :
    Hub.heardBy name [(other, events)] = [] := by
  unfold Hub.heardBy
  rw [List.filter_cons_of_neg (by simpa using differ)]
  rfl

/-- What happens to other connections is not heard, and changes nothing of what will be. -/
theorem spares_take {platform : Platform} {name : String} {heard : Option String}
    (sound : platform.hub.IsSound) (hears : platform.hub.Hears name heard) {happening : Happening}
    (spares : happening.Spares name) :
    (platform.take happening).1.hub.Hears name heard ∧
      Hub.heardBy name (platform.take happening).2 = [] := by
  cases happening with
  | step what => exact spares.elim
  | connect other opening =>
    refine ⟨hears.connect sound spares opening, ?_⟩
    simp only [Platform.take, Hub.connect]
    cases subscribe opening <;> exact heardBy_of_ne spares _
  | receive other =>
    rw [take_receive]
    exact ⟨hears, rfl⟩
  | disconnect other =>
    rcases take_disconnect_cases platform other with same | ⟨after, events, done, same⟩ <;>
      rw [same]
    · exact ⟨hears, rfl⟩
    · refine ⟨hears.disconnect sound spares done, ?_⟩
      obtain ⟨connection, -, ended⟩ := Option.map_eq_some_iff.mp done
      cases ended
      exact heardBy_of_ne spares _

/-- What a name hears while positions flow, if it is heard in the group of an opening. -/
theorem Flows.heard {name : String} {opening : Opening} {platform : Platform}
    {later : List Happening} {positions : List Position}
    (flows : Flows name platform later positions) (sound : platform.hub.IsSound)
    (hears : platform.hub.Hears name opening.group?) :
    Hub.heardBy name (platform.follow later).2 =
      if opening.group?.isSome = true then (positions.filter opening.wants).map sentFrame
      else [] := by
  induction flows with
  | done => split <;> rfl
  | @stored platform what position rest positions broadcasts stores _ ih =>
    obtain ⟨sent, device, own, kept⟩ := Gateway.stores_publication broadcasts stores
    obtain ⟨same, one⟩ := heard_deliver hears own kept
    have next := isSound_take sound (.step what)
    unfold Platform.follow
    rw [Hub.heardBy_append]
    unfold Platform.take at ih next ⊢
    dsimp only at ih next ⊢
    rw [sent] at ih next ⊢
    rw [ih next (by rw [same]; exact hears), one]
    by_cases joined : opening.group?.isSome = true
    · by_cases wanted : opening.wants position = true
      · rw [if_pos ⟨joined, wanted⟩, if_pos joined, if_pos joined, List.filter_cons_of_pos wanted]
        rfl
      · rw [if_neg fun both => wanted both.2, if_pos joined, if_pos joined,
          List.filter_cons_of_neg wanted]
        rfl
    · rw [if_neg fun both => joined both.1, if_neg joined, if_neg joined]
      rfl
  | @idle platform what rest positions silent _ _ ih =>
    have next := isSound_take sound (.step what)
    unfold Platform.follow
    rw [Hub.heardBy_append]
    unfold Platform.take at ih next ⊢
    dsimp only at ih next ⊢
    rw [silent] at ih next ⊢
    rw [ih next hears]
    rfl
  | @aside platform happening rest positions spares _ ih =>
    obtain ⟨still, nothing⟩ := spares_take sound hears spares
    unfold Platform.follow
    rw [Hub.heardBy_append, nothing, ih (isSound_take sound happening) still]
    rfl

/-- A connection that is opened at any time is sent one frame for every position that is stored
    afterwards and that it asks for, in the order of storing, if it is accepted. If it is not, it is
    sent nothing. -/
theorem heard_stream (gateway : Gateway) (before : List Happening) (name : String)
    (opening : Opening) {later : List Happening} {positions : List Position}
    (flows : Flows name
      ((Platform.follow ⟨gateway, {}⟩ before).1.take (.connect name opening)).1 later positions) :
    Hub.heardBy name
        ((((Platform.follow ⟨gateway, {}⟩ before).1.take (.connect name opening)).1.follow
          later).2) =
      if Hub.heardBy name
          ((Platform.follow ⟨gateway, {}⟩ before).1.take (.connect name opening)).2 =
            [.accept .null]
      then (positions.filter opening.wants).map sentFrame
      else [] := by
  have sound : (Platform.follow ⟨gateway, {}⟩ before).1.hub.IsSound :=
    isSound_follow Hub.isSound_empty before
  generalize (Platform.follow ⟨gateway, {}⟩ before).1 = platform at flows sound ⊢
  have hears : (platform.take (.connect name opening)).1.hub.Hears name opening.group? :=
    Hub.connect_hears sound name opening
  rw [flows.heard (isSound_take sound (.connect name opening)) hears]
  have accepted : Hub.heardBy name (platform.take (.connect name opening)).2 = [.accept .null] ↔
      opening.group?.isSome = true := accepted_iff platform.hub name opening
  by_cases joined : opening.group?.isSome = true
  · rw [if_pos joined, if_pos (accepted.mpr joined)]
  · rw [if_neg joined, if_neg fun same => joined (accepted.mp same)]

/-- A position of a device. -/
def bareStation (device : Int) : Position where
  protocol := .text "osmand"
  deviceId := .int device
  serverTime := some Report.noFixTime

/-- Two devices are registered. -/
def twoRegistered : List Happening :=
  ["a", "b"].map fun identifier =>
    .step (.openSession .shared (.text "osmand") .null [identifier])

/-- A connection that asks for the second device, with a zero in front of its number. -/
def secondListener : Opening := { query := "device=02".toUTF8.toList }

/-- One position of each of two devices is stored, and a listener to the second one is sent the
    second position. -/
theorem second_listener_heard :
    ∃ platform, platform = ((Platform.follow ⟨Gateway.openGateway, {}⟩ twoRegistered).1.take
        (.connect "w" secondListener)).1 ∧
      Flows "w" platform
        [.step (.storePosition (bareStation 1)), .step (.storePosition (bareStation 2))]
        [bareStation 1, bareStation 2] ∧
      Hub.heardBy "w" (platform.follow
          [.step (.storePosition (bareStation 1)), .step (.storePosition (bareStation 2))]).2 =
        [sentFrame (bareStation 2)] := by
  have proper : ∀ device, (bareStation device).IsProper :=
    fun device => ⟨⟨device, rfl⟩, [], rfl, List.nodup_nil⟩
  have flows : Flows "w" ((Platform.follow ⟨Gateway.openGateway, {}⟩ twoRegistered).1.take
        (.connect "w" secondListener)).1
      [.step (.storePosition (bareStation 1)), .step (.storePosition (bareStation 2))]
      [bareStation 1, bareStation 2] := by
    refine .stored ⟨by decide +kernel, by decide +kernel⟩
      (.direct (proper 1) (show _ = Except.ok (.stored 1) by decide +kernel)) ?_
    exact .stored ⟨by decide +kernel, by decide +kernel⟩
      (.direct (proper 2) (show _ = Except.ok (.stored 2) by decide +kernel)) .done
  have accepted : Hub.heardBy "w" ((Platform.follow ⟨Gateway.openGateway, {}⟩ twoRegistered).1.take
      (.connect "w" secondListener)).2 = [.accept .null] := by decide +kernel
  have wanted : [bareStation 1, bareStation 2].filter secondListener.wants = [bareStation 2] := by
    decide +kernel
  refine ⟨_, rfl, flows, ?_⟩
  rw [heard_stream Gateway.openGateway twoRegistered "w" secondListener flows, if_pos accepted,
    wanted]
  rfl

end Telematics.Stream
