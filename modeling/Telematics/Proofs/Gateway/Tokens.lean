import Mathlib.Data.List.Induction
import Mathlib.Data.List.Nodup
import Telematics.Proofs.Gateway.Isolation

/-!
Notification tokens over many registrations. Where the tokens of a device are texts, a token that it
has is passed over, and any other one comes behind those that it has. So registering is inserting
into a set that keeps the order in which its members came. Nothing else changes but the time of the
last change of the device.

* `Device.Lists`: the tokens of a device are texts.
* `fresh`: what texts add to a list, each once. `nodup_append_fresh`: nothing comes twice.
* `Gains`: what becomes of a device that gets tokens.
* `addToken_of_lists`: one registration. `Registered`: what has become of a store after
  registrations. `step_registered`: one step more.
* `run_gains`: every device has gained the tokens that were sent for it.
-/

namespace Telematics

open Calendar (Moment)

/-- The value of an attribute. -/
def Device.attribute? (device : Device) (key : Letters) : Option Json :=
  match device.attributes with
  | .object members => Json.Members.get? members key
  | _ => none

/-- The tokens of a device are texts, kept in a list. Without the attribute there are none. -/
def Device.Lists (device : Device) (tokens : List Letters) : Prop :=
  ∃ members, device.attributes = .object members ∧
    (Json.Members.get? members tokensKey = none ∧ tokens = [] ∨
      Json.Members.get? members tokensKey = some (.list (tokens.map .text)))

/-- A device has its tokens in one order only. -/
theorem Device.Lists.unique {device : Device} {tokens others : List Letters}
    (lists : device.Lists tokens) (listsOthers : device.Lists others) : tokens = others := by
  obtain ⟨members, held, listed⟩ := lists
  obtain ⟨_, heldAgain, listedOthers⟩ := listsOthers
  cases held.symm.trans heldAgain
  have texts : Function.Injective Json.text := fun _ _ => Json.text.inj
  rcases listed with ⟨missing, rfl⟩ | listed <;> rcases listedOthers with ⟨gone, rfl⟩ | listedOthers
  · rfl
  · cases missing.symm.trans listedOthers
  · cases gone.symm.trans listed
  · exact List.map_injective_iff.mpr texts
      (Json.list.inj (Option.some.inj (listed.symm.trans listedOthers)))

/-- What texts add to a list: those that it does not have, each where it comes first. -/
def fresh (known sent : List Letters) : List Letters := (sent.filter (· ∉ known)).eraseDups

theorem mem_fresh {known sent : List Letters} {token : Letters} :
    token ∈ fresh known sent ↔ token ∈ sent ∧ token ∉ known := by
  simp [fresh]

/-- One text more adds itself, unless it is there. -/
theorem fresh_append_singleton (known sent : List Letters) (token : Letters) :
    fresh known (sent ++ [token]) =
      if token ∈ known ++ fresh known sent then fresh known sent
      else fresh known sent ++ [token] := by
  simp only [List.mem_append, mem_fresh]
  unfold fresh
  rw [List.filter_append, List.eraseDups_append]
  by_cases listed : token ∈ known
  · simp [listed]
  · by_cases again : token ∈ sent <;> simp [listed, again, List.removeAll, List.eraseDups_cons]

theorem nodup_append_fresh {known : List Letters} (distinct : known.Nodup) (sent : List Letters) :
    (known ++ fresh known sent).Nodup := by
  induction sent using List.reverseRecOn with
  | nil => simpa [fresh] using distinct
  | append_singleton front token ih =>
    rw [fresh_append_singleton]
    split
    · exact ih
    · rename_i new
      rw [← List.append_assoc]
      refine List.nodup_append.mpr ⟨ih, List.nodup_singleton token, fun other present => ?_⟩
      rintro _ last rfl
      exact new (List.mem_singleton.mp last ▸ present)

/-! ## One registration -/

/-- A device that had tokens has others behind them. It holds beside them what it held, and is as it
    was if there are none; otherwise the time of its last change may be another one. -/
structure Gains (before after : Device) (tokens new : List Letters) : Prop where
  listed : before.Lists tokens
  lists : after.Lists (tokens ++ new)
  others : ∀ key : Letters, key ≠ tokensKey → after.attribute? key = before.attribute? key
  fields : { after with attributes := before.attributes, updatedAt := before.updatedAt } = before
  idle : new = [] → after = before

namespace Gains

variable {before middle after : Device} {tokens new more : List Letters}

theorem refl (listed : before.Lists tokens) : Gains before before tokens [] where
  listed := listed
  lists := by rwa [List.append_nil]
  others _ _ := rfl
  fields := rfl
  idle _ := rfl

/-- Tokens are gained one after the other. -/
theorem append (first : Gains before middle tokens new)
    (second : Gains middle after (tokens ++ new) more) :
    Gains before after tokens (new ++ more) where
  listed := first.listed
  lists := by
    rw [← List.append_assoc]
    exact second.lists
  others key other := (second.others key other).trans (first.others key other)
  fields := by
    rw [← first.fields, ← second.fields]
  idle none := by
    obtain ⟨nothing, nothingMore⟩ := List.append_eq_nil_iff.mp none
    exact (second.idle nothingMore).trans (first.idle nothing)

end Gains

namespace Store

variable {store origin : Store} {row : Row Device} {id : Int} {known : List Letters}

/-- The tokens of a device are the items of its attribute. -/
theorem itemsOf?_lists {members : Json.Members}
    (lists : members.get? tokensKey = none ∧ known = [] ∨
      members.get? tokensKey = some (.list (known.map .text))) :
    itemsOf? ((members.get? tokensKey).getD .null) = some (known.map .text) := by
  rcases lists with ⟨missing, rfl⟩ | listed
  · rw [missing]
    rfl
  · rw [listed]
    cases known <;> rfl

theorem any_isSame_text (known : List Letters) (token : Letters) :
    (known.map Json.text).any (·.isSame (.text token)) = true ↔ token ∈ known := by
  simp [Json.isSame, Json.integer?]

/-- A token that a device has is passed over, and another one is added behind those that it has. -/
theorem addToken_of_lists (found : store.device? id = some row) (lists : row.value.Lists known)
    (now : Moment) (token : Letters) :
    token ∈ known ∧ store.addToken now id (.text token) = .unchanged ∨
      token ∉ known ∧ ∃ device, Gains row.value device known [token] ∧
        store.addToken now id (.text token) = .added (store.setDevice row.id device) := by
  obtain ⟨members, held, listed⟩ := lists
  have added : store.addToken now id (.text token) =
      store.addTokenTo now row members (.text token) := by
    unfold addToken
    rw [found]
    dsimp only
    rw [held]
  rw [added]
  unfold addTokenTo
  rw [itemsOf?_lists listed]
  dsimp only
  by_cases among : token ∈ known
  · exact .inl ⟨among, if_pos ((any_isSame_text known token).mpr among)⟩
  · refine .inr ⟨among, _, ?_, (if_neg ((any_isSame_text known token).not.mpr among)).trans rfl⟩
    exact {
      listed := ⟨members, held, listed⟩
      lists := ⟨_, rfl, .inr (by rw [Json.Members.get?_put_self, List.map_append]; rfl)⟩
      others := fun key other => by
        unfold Device.attribute?
        rw [held]
        exact Json.Members.get?_put_ne _ other.symm
      fields := rfl
      idle := fun none => nomatch none }

/-! ## Many registrations -/

/-- What has become of a store after registrations: every device has gained the tokens that were
    sent for it, and nothing else has changed. -/
structure Registered (origin : Store) (sent : Int → List Letters) (store : Store) : Prop where
  commands : store.commands = origin.commands
  locations : store.locations = origin.locations
  numbers : store.devices.rows.map (·.id) = origin.devices.rows.map (·.id)
  devices : ∀ id row, origin.device? id = some row → ∃ tokens device,
    store.device? id = some ⟨id, device⟩ ∧ Gains row.value device tokens (fresh tokens (sent id))

namespace Registered

variable {sent later : Int → List Letters}

theorem refl (lists : ∀ row ∈ origin.devices.rows, ∃ tokens, row.value.Lists tokens) :
    Registered origin (fun _ => []) origin where
  commands := rfl
  locations := rfl
  numbers := rfl
  devices id row found := by
    obtain ⟨present, rfl⟩ := Table.mem_of_find? found
    obtain ⟨tokens, listed⟩ := lists row present
    exact ⟨tokens, row.value, found, .refl listed⟩

/-- There are the same devices. -/
theorem device?_eq_none (registered : Registered origin sent store)
    (unknown : origin.device? id = none) : store.device? id = none := by
  have numbered : ∀ store : Store, store.device? id = none ↔
      id ∉ store.devices.rows.map (·.id) := by
    intro store
    simp [Store.device?, Table.find?]
  rw [numbered, registered.numbers, ← numbered]
  exact unknown

/-- It is enough to look at the device for which a token is sent. -/
theorem extend (registered : Registered origin sent store) {after : Store}
    (commands : after.commands = store.commands) (locations : after.locations = store.locations)
    (numbers : after.devices.rows.map (·.id) = store.devices.rows.map (·.id))
    (others : ∀ other, other ≠ id → later other = sent other ∧
      after.device? other = store.device? other)
    (own : ∀ row, origin.device? id = some row → ∃ tokens device,
      after.device? id = some ⟨id, device⟩ ∧
        Gains row.value device tokens (fresh tokens (later id))) :
    Registered origin later after where
  commands := commands.trans registered.commands
  locations := locations.trans registered.locations
  numbers := numbers.trans registered.numbers
  devices other row found := by
    by_cases same : other = id
    · subst same
      exact own row found
    · rw [(others other same).1, (others other same).2]
      exact registered.devices other row found

/-- A token that is sent for a device is gained by it, unless it has it. -/
theorem addToken (registered : Registered origin sent store) (now : Moment) (id : Int)
    (token : Letters) (own : later id = sent id ++ [token])
    (others : ∀ other, other ≠ id → later other = sent other) :
    store.addToken now id (.text token) = .unchanged ∧ Registered origin later store ∨
      ∃ after, store.addToken now id (.text token) = .added after ∧
        Registered origin later after := by
  cases known : origin.device? id with
  | none =>
    refine .inl ⟨?_, registered.extend rfl rfl rfl (fun other differ => ⟨others other differ, rfl⟩)
      fun row found => ?_⟩
    · unfold Store.addToken
      rw [registered.device?_eq_none known]
    · rw [known] at found
      cases found
  | some row =>
    obtain ⟨tokens, device, found, gains⟩ := registered.devices id row known
    rcases addToken_of_lists found gains.lists now token with
      ⟨among, unchanged⟩ | ⟨new, changed, gained, added⟩
    · -- The device has the token, so it is not gained once more.
      refine .inl ⟨unchanged, registered.extend rfl rfl rfl
        (fun other differ => ⟨others other differ, rfl⟩) fun row' found' => ?_⟩
      cases known.symm.trans found'
      refine ⟨tokens, device, found, ?_⟩
      rw [own, fresh_append_singleton, if_pos among]
      exact gains
    · refine .inr ⟨_, added, registered.extend rfl rfl ?_
        (fun other differ => ⟨others other differ, device?_setDevice_of_ne differ⟩)
        fun row' found' => ?_⟩
      · simp [setDevice, Table.set]
      · cases known.symm.trans found'
        refine ⟨tokens, changed, ?_, ?_⟩
        · rw [device?_setDevice, if_pos rfl, found]
          rfl
        · rw [own, fresh_append_singleton, if_neg new]
          exact gains.append gained

end Registered

end Store

namespace Gateway

/-- A token is registered, or time goes on. -/
def Step.isTokenCall : Step → Bool
  | .registerToken _ (.text _) | .setTime _ => true
  | _ => false

/-- The tokens that steps register for a device, in order. -/
def sentTo (steps : List Step) (device : Int) : List Letters :=
  steps.filterMap fun
    | .registerToken value (.text token) =>
      if numberOf? value = some device then some token else none
    | _ => none

theorem sentTo_cons (what : Step) (rest : List Step) (device : Int) :
    sentTo (what :: rest) device = sentTo [what] device ++ sentTo rest device := by
  show sentTo ([what] ++ rest) device = _
  exact List.filterMap_append

variable {gateway : Gateway} {origin : Store} {sent : Int → List Letters}

/-- A token is registered for the device whose number is handed in, and for no other. -/
theorem gateway_registerToken (gateway : Gateway) (value : Json) (token : Letters) :
    (gateway.step (.registerToken value (.text token))).gateway =
      match numberOf? value with
      | some id => (gateway.attemptDone (gateway.registerToken id (.text token))).gateway
      | none => gateway := by
  show (gateway.attemptDone (gateway.registerTokenOf value (.text token))).gateway = _
  unfold registerTokenOf numberOf?
  cases Column.integer "id" value with
  | error fault => rfl
  | ok number => cases number <;> rfl

/-- After one step more every device has gained the token that was sent for it. -/
theorem step_registered (registered : Store.Registered origin sent gateway.store) {what : Step}
    (call : what.isTokenCall = true) :
    Store.Registered origin (fun id => sent id ++ sentTo [what] id)
      (gateway.step what).gateway.store := by
  cases what with
  | setTime now => simpa [sentTo, step, done] using registered
  | registerToken value json =>
    cases json with
    | text token =>
      rw [gateway_registerToken]
      cases numbered : numberOf? value with
      | none => simpa [sentTo, numbered] using registered
      | some id =>
        have own : sent id ++ sentTo [.registerToken value (.text token)] id =
            sent id ++ [token] := by simp [sentTo, numbered]
        have others : ∀ other, other ≠ id →
            sent other ++ sentTo [.registerToken value (.text token)] other = sent other := by
          intro other differ
          simp [sentTo, numbered, differ.symm]
        have came := registered.addToken gateway.clock.now id token own others
        dsimp only
        unfold registerToken
        rcases came with ⟨unchanged, reached⟩ | ⟨after, added, reached⟩
        · rw [unchanged]
          exact reached
        · rw [added]
          exact reached
    | _ => cases call
  | _ => cases call

/-- After a run of registrations every device has gained the tokens that were sent for it. -/
theorem run_registered (registered : Store.Registered origin sent gateway.store)
    {steps : List Step} (calls : ∀ what ∈ steps, what.isTokenCall = true) :
    Store.Registered origin (fun id => sent id ++ sentTo steps id) (gateway.run steps).store := by
  induction steps generalizing gateway sent with
  | nil => simpa [sentTo, run] using registered
  | cons what rest ih =>
    have one := step_registered registered (calls what List.mem_cons_self)
    have all := ih one fun next later => calls next (List.mem_cons_of_mem what later)
    simp only [List.append_assoc, ← sentTo_cons] at all
    exact all

/-- Where the tokens of every device are distinct texts, registering tokens is inserting them into
    sets that keep their order. The tokens of a device afterwards are those that it had, and behind
    them the others that were sent for it, each where it was sent first. Nothing else of a device
    changes but the time of its last change, and nothing at all of one that gains no token. -/
theorem run_gains {steps : List Step} (calls : ∀ what ∈ steps, what.isTokenCall = true)
    (lists : ∀ row ∈ gateway.store.devices.rows, ∃ tokens, row.value.Lists tokens ∧ tokens.Nodup) :
    (gateway.run steps).store.commands = gateway.store.commands ∧
      (gateway.run steps).store.locations = gateway.store.locations ∧
      (gateway.run steps).store.devices.rows.map (·.id) =
        gateway.store.devices.rows.map (·.id) ∧
      ∀ row ∈ gateway.store.devices.rows, ∃ tokens device,
        (gateway.run steps).store.device? row.id = some ⟨row.id, device⟩ ∧
          Gains row.value device tokens (fresh tokens (sentTo steps row.id)) ∧
          (tokens ++ fresh tokens (sentTo steps row.id)).Nodup := by
  have begins : Store.Registered gateway.store (fun _ => []) gateway.store :=
    .refl fun row present => (lists row present).imp fun _ => And.left
  have reached := run_registered begins calls
  refine ⟨reached.commands, reached.locations, reached.numbers, fun row present => ?_⟩
  obtain ⟨tokens, device, found, gains⟩ :=
    reached.devices row.id row (Table.find?_eq_some_iff.mpr ⟨present, rfl⟩)
  obtain ⟨listed, same, distinct⟩ := lists row present
  rw [same.unique gains.listed] at distinct
  exact ⟨tokens, device, found, gains, nodup_append_fresh distinct _⟩

/-- Tokens for two devices in turn, of which one comes twice, and one for a device that is not
    there. -/
def tokenCalls : List Step :=
  [.registerToken (.int 1) (.text "x"), .registerToken (.int 2) (.text "y"),
    .registerToken (.int 1) (.text "x"), .registerToken (.int 9) (.text "x"),
    .registerToken (.int 1) (.text "w")]

/-- The van gains two tokens, in the order in which they came first. -/
theorem token_calls_gained :
    ((∀ what ∈ tokenCalls, what.isTokenCall = true) ∧
        (∀ row ∈ (closedGateway.run busCreated).store.devices.rows,
          ∃ tokens, row.value.Lists tokens ∧ tokens.Nodup) ∧
        fresh [] (sentTo tokenCalls 1) = ["x", "w"]) ∧
      ((closedGateway.run busCreated).run tokenCalls).store.commands =
          (closedGateway.run busCreated).store.commands ∧
        ((closedGateway.run busCreated).run tokenCalls).store.locations =
          (closedGateway.run busCreated).store.locations ∧
        ((closedGateway.run busCreated).run tokenCalls).store.devices.rows.map (·.id) =
          (closedGateway.run busCreated).store.devices.rows.map (·.id) ∧
        ∀ row ∈ (closedGateway.run busCreated).store.devices.rows, ∃ tokens device,
          ((closedGateway.run busCreated).run tokenCalls).store.device? row.id =
              some ⟨row.id, device⟩ ∧
            Gains row.value device tokens (fresh tokens (sentTo tokenCalls row.id)) ∧
            (tokens ++ fresh tokens (sentTo tokenCalls row.id)).Nodup := by
  have calls : ∀ what ∈ tokenCalls, what.isTokenCall = true := by decide
  have empty : ∀ row ∈ (closedGateway.run busCreated).store.devices.rows,
      row.value.attributes = .object [] := by decide +kernel
  have lists : ∀ row ∈ (closedGateway.run busCreated).store.devices.rows,
      ∃ tokens, row.value.Lists tokens ∧ tokens.Nodup :=
    fun row present => ⟨[], ⟨[], empty row present, .inl ⟨rfl, rfl⟩⟩, List.nodup_nil⟩
  exact ⟨⟨calls, lists, by decide +kernel⟩, run_gains calls lists⟩

end Gateway

end Telematics
