import Telematics.Proofs.Api.Route
import Telematics.Proofs.Gateway.Isolation
import Telematics.Proofs.Gateway.Sessions
import Telematics.Proofs.Store.Commands

/-!
Commanding devices. Devices are registered under any identifier, and a command is queued for a
device by its identifier: by a request to the path of its commands, or on the command line. The
command line finds every device. A path leads to no device whose identifier is empty or has a slash,
so such a device can be commanded on the command line alone.

* `Orders`: a request of a user with valid data for the device of an identifier. `Orders.asked`:
  what is understood of it.
* `order?_of_orders`: the command that it asks for. `serve_unnameable`: the answer if the identifier
  cannot be named in a path.
* `consoleOrder?_of_read`: the command that a command line asks for.
* `commandable_iff`: the devices that can be commanded, in every state of every run.
-/

namespace Telematics.Gateway

/-! ## Requests -/

/-- A request of a user that orders a new command for the device of an identifier: valid data is
    posted to the path of its commands, in which the identifier is written with escapes. -/
structure Orders (raw : Http.RawRequest) (uniqueId : String) (new : Api.NewCommand) : Prop where
  place : ∃ text, Api.SegmentText uniqueId text ∧ raw.url.toList = Api.commandsPath text
  noQuery : raw.query = []
  posted : methodName raw.method = "POST"
  loggedIn : raw.loggedIn = true
  proven : raw.unproven = false
  valid : ((asked? raw).bind fun request => (Api.readBody request).toOption.bind fun body =>
    (Api.NewCommand.check body).toOption) = some new

/-- What is understood of such a request: nothing stands against it but its path. -/
structure IsOrder (request : Http.Request) (uniqueId : String) (new : Api.NewCommand) : Prop where
  target : Api.target request =
    if Api.IsNameable uniqueId then .route (.commands uniqueId) else .nothing
  posted : request.method = "POST"
  rendering : Api.rendering request = .ok .document
  proven : Api.forgery? request = none
  known : Api.anonymous? request = none
  valid : ((Api.readBody request).toOption.bind fun body =>
    (Api.NewCommand.check body).toOption) = some new

variable {gateway : Gateway} {raw : Http.RawRequest} {uniqueId : String} {new : Api.NewCommand}

theorem Orders.asked (orders : Orders raw uniqueId new) :
    ∃ request, asked? raw = some request ∧ IsOrder request uniqueId new := by
  obtain ⟨request, asked, valid⟩ := Option.bind_eq_some_iff.mp orders.valid
  obtain ⟨text, segment, url⟩ := orders.place
  obtain ⟨place, told, path, same⟩ := asked?_eq_some asked
  rw [url, segment.read] at told
  cases told
  have query : request.query = [] := by
    rw [same]
    exact if_pos orders.noQuery
  refine ⟨request, asked, ?_, same ▸ orders.posted, ?_, ?_, ?_, valid⟩
  · exact Api.target_commandsPath (path ▸ segment.pathText)
  · rw [Api.rendering, Http.Request.fields, query]
    rfl
  · rw [Api.forgery?, same, orders.proven]
    simp
  · rw [Api.anonymous?, same, orders.loggedIn]
    rfl

/-- A request is understood if its user can log in. -/
theorem understood?_of_asked? {request : Http.Request} (asked : asked? raw = some request)
    (user : canLogIn gateway.clock.now = true) : gateway.understood? raw = some request := by
  rw [understood?, user, Bool.not_true, Bool.and_false, if_neg Bool.false_ne_true]
  exact asked

/-- The command that is ordered is asked for, if there is the device and its identifier can be
    named. -/
theorem order?_of_orders (orders : Orders raw uniqueId new)
    (user : canLogIn gateway.clock.now = true) {row : Row Device}
    (found : gateway.store.deviceOf? uniqueId = some row) (named : Api.IsNameable uniqueId) :
    gateway.order? raw =
      some ⟨row.id, new.type.getD customType, .text new.payload, gateway.clock.now⟩ := by
  obtain ⟨request, asked, order⟩ := orders.asked
  rw [order?, understood?_of_asked? asked user, Option.bind_some, order.target, if_pos named]
  dsimp only
  rw [Api.order?, order.rendering, order.proven, order.known]
  dsimp only
  rw [Api.userOrder?, if_pos order.posted, found, Option.bind_some, Api.bodyOrder?, order.valid]
  rfl

/-- The path of an identifier that cannot be named leads nowhere. -/
theorem serve_unnameable (orders : Orders raw uniqueId new)
    (user : canLogIn gateway.clock.now = true) (unnamed : ¬ Api.IsNameable uniqueId) :
    gateway.serve raw = ⟨.ok (.page 404), [], gateway⟩ := by
  obtain ⟨request, asked, order⟩ := orders.asked
  rw [serve, user, Bool.not_true, Bool.and_false, if_neg Bool.false_ne_true,
    toOption_eq_some_iff.mp asked]
  dsimp only
  rw [serveRead, if_neg (by rw [order.posted]; decide), answer, order.target, if_neg unnamed]

/-! ## Command lines -/

/-- The command that a command line asks for. -/
theorem consoleOrder?_of_read {arguments : List String} {row : Row Device} {now : Calendar.Moment}
    (read : Console.read arguments = .ok ⟨uniqueId, .text new.payload, new.type.map .text⟩)
    (found : gateway.store.deviceOf? uniqueId = some row)
    (bounded : Column.bounded row.id = .ok row.id) (shown : gateway.clock.now.utc? = some now) :
    gateway.consoleOrder? arguments =
      some ⟨row.id, new.type.getD customType, .text new.payload, now⟩ := by
  have typed : (new.type.map Json.text).getD (.text customType) =
      .text (new.type.getD customType) := by
    cases new.type <;> rfl
  have number : Store.bounded? (some row.id) = .ok (some row.id) := by
    rw [Store.bounded?, bounded]
    rfl
  have time : storableTime gateway.clock.now = .ok now := by rw [storableTime, shown]
  have made : Store.CommandForm.toCommand
      ⟨.int row.id, .text (new.type.getD customType), .text new.payload, gateway.clock.now⟩ =
      .ok ⟨row.id, new.type.getD customType, .text new.payload, now⟩ := by
    rw [Store.CommandForm.toCommand, time]
    show (Store.bounded? (some row.id) >>= _) = _
    rw [number]
    rfl
  rw [consoleOrder?, read]
  show ((gateway.store.deviceOf? uniqueId).bind _) = _
  rw [found, Option.bind_some, typed, made]
  rfl

/-! ## Devices of a run -/

/-- A request is answered that the command was created, which waits for the device behind its other
    commands, and nothing else has changed. -/
def Commands (gateway : Gateway) (raw : Http.RawRequest) (device : Int) (new : Api.NewCommand) :
    Prop :=
  (∃ response, (gateway.serve raw).result = .ok response ∧ response.status = Api.createdStatus) ∧
    gateway.store.Queued (gateway.serve raw).gateway.store device (new.type.getD customType)
      (.text new.payload)

/-- In every state of every run, a user commands a device with valid data at its path if and only
    if its identifier is not empty and has no slash, and the time can be shown on the clock of the
    zone. If its identifier is not so, then nothing is found at its path. A command line with the
    identifier of a device commands it, whatever it is. -/
theorem commandable_iff {start : Gateway} (fresh : Fresh start) (steps : List Step)
    (user : canLogIn (start.run steps).clock.now = true) {row : Row Device}
    (present : row ∈ (start.run steps).store.devices.rows) {raw : Http.RawRequest}
    {new : Api.NewCommand} (orders : Orders raw row.value.uniqueId new) :
    let gateway := start.run steps
    let identifier := row.value.uniqueId
    (Commands gateway raw row.id new ↔ (identifier ≠ "" ∧ '/' ∉ identifier.toList) ∧
      (gateway.clock.zone.at? gateway.clock.now).isSome = true) ∧
    (¬ (identifier ≠ "" ∧ '/' ∉ identifier.toList) →
      gateway.serve raw = ⟨.ok (.page 404), [], gateway⟩) ∧
    ∀ arguments, Console.read arguments =
        .ok ⟨identifier, .text new.payload, new.type.map .text⟩ →
      ∃ text after, gateway.runConsole arguments = .ok (text, after) ∧
        gateway.store.Queued after.store row.id (new.type.getD customType) (.text new.payload) := by
  intro gateway identifier
  have found : gateway.store.deviceOf? identifier = some row :=
    (run_distinct fresh steps).deviceOf?_eq_some_iff.mpr ⟨present, rfl⟩
  have nowhere : ¬ Api.IsNameable identifier →
      gateway.serve raw = ⟨.ok (.page 404), [], gateway⟩ := serve_unnameable orders user
  refine ⟨?_, nowhere, fun arguments read => ?_⟩
  · by_cases named : Api.IsNameable identifier
    · have ordered := order?_of_orders orders user found named
      have queued := Store.queued_addCommand gateway.store
        ⟨row.id, new.type.getD customType, .text new.payload, gateway.clock.now⟩
      have created := serve_created_iff gateway raw
      rw [ordered] at created
      rw [Commands, serve_of_order ordered, created]
      exact ⟨fun commanded => ⟨named, commanded.1.2⟩, fun shown => ⟨⟨rfl, shown.2⟩, queued⟩⟩
    · refine iff_of_false ?_ fun commandable => named commandable.1
      rintro ⟨⟨response, answered, created⟩, -⟩
      rw [nowhere named] at answered
      cases answered
      exact absurd created (by decide)
  · -- Users can log in at this time, so it can be stored as the time of a command as well.
    obtain ⟨now, shown⟩ : ∃ now, gateway.clock.now.utc? = some now :=
      Option.isSome_iff_exists.mp ((Bool.and_eq_true ..).mp user).1
    have ordered := consoleOrder?_of_read read found (run_number_bounded fresh steps present) shown
    have known : gateway.store.hasDevice row.id = true :=
      Option.isSome_iff_exists.mpr ⟨row, Table.find?_eq_some_iff.mpr ⟨present, rfl⟩⟩
    obtain ⟨text, done⟩ := runConsole_of_order ordered known
    exact ⟨text, _, done, Store.queued_addCommand gateway.store _⟩

/-- A command for a train that reported under a name with a space, a question mark, an accent and a
    percent sign. -/
def trainOrder : Http.RawRequest where
  method := "POST"
  url := "/api/v1/devices/Zug%207%3F%C3%A9%25/commands/"
  body := (Json.render (.object [("data", .text "reboot")])).toUTF8.toList
  contentType := some "application/json"
  loggedIn := true

theorem trainOrder_orders : Orders trainOrder "Zug 7?é%" ⟨"reboot", none⟩ where
  place := ⟨Text.percentEncode Char.isAlphanum "Zug 7?é%".toList,
    Api.segmentText_percentEncode rfl (fun _ => Api.isAlphanum_of_endsPath) _, by decide +kernel⟩
  noQuery := rfl
  posted := by decide +kernel
  loggedIn := rfl
  proven := rfl
  valid := by decide +kernel

/-- The train registers itself, and is commanded at its path and on the command line. -/
theorem train_commandable :
    let gateway := openGateway.run [reportStep "id=Zug+7%3F%C3%A9%25&lat=1&lon=2"]
    ∃ row ∈ gateway.store.devices.rows, row.value.uniqueId = "Zug 7?é%" ∧
      Commands gateway trainOrder row.id ⟨"reboot", none⟩ ∧
      ∃ text after, gateway.runConsole ["Zug 7?é%", "reboot"] = .ok (text, after) ∧
        gateway.store.Queued after.store row.id "custom" (.text "reboot") := by
  intro gateway
  have known : (gateway.store.deviceOf? "Zug 7?é%").isSome = true := by decide +kernel
  obtain ⟨row, found⟩ := Option.isSome_iff_exists.mp known
  have present : row ∈ gateway.store.devices.rows := List.mem_of_find?_eq_some found
  have named : row.value.uniqueId = "Zug 7?é%" := by simpa using List.find?_some found
  have law := commandable_iff openGateway_fresh [reportStep "id=Zug+7%3F%C3%A9%25&lat=1&lon=2"]
    (by decide +kernel) present (named ▸ trainOrder_orders)
  refine ⟨row, present, named, law.1.mpr ⟨?_, by decide +kernel⟩, law.2.2 _ ?_⟩
  · rw [named]
    decide +kernel
  · rw [named]
    exact toOption_eq_some_iff.mp (by decide +kernel)

/-- A command for a truck whose identifier has a slash. -/
def truckOrder : Http.RawRequest := { trainOrder with url := "/api/v1/devices/a%2Fb/commands/" }

/-- The truck registers itself as well and is found on the command line, but not at its path. -/
theorem slashed_truck_not_found :
    let gateway := openGateway.run [reportStep "id=a/b&lat=1&lon=2"]
    ((gateway.store.deviceOf? "a/b").map (·.id)) = some 1 ∧
      Orders truckOrder "a/b" ⟨"reboot", none⟩ ∧
      (gateway.serve truckOrder).result.toOption = some (.page 404) ∧
      (gateway.serve truckOrder).gateway.store.pending 1 = [] ∧
      (gateway.runConsole ["a/b", "reboot"]).toOption.map
        (fun done => (done.2.store.pending 1).length) = some 1 := by
  have orders : Orders truckOrder "a/b" ⟨"reboot", none⟩ := {
    place := ⟨Text.percentEncode Char.isAlphanum "a/b".toList,
      Api.segmentText_percentEncode rfl (fun _ => Api.isAlphanum_of_endsPath) _, by decide +kernel⟩
    noQuery := rfl
    posted := by decide +kernel
    loggedIn := rfl
    proven := rfl
    valid := by decide +kernel }
  exact ⟨by decide +kernel, orders, by decide +kernel, by decide +kernel, by decide +kernel⟩

end Telematics.Gateway
