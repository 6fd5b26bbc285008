import Mathlib.Algebra.Order.BigOperators.Group.List
import Mathlib.Algebra.Order.Ring.Nat
import Telematics.Proofs.Store.Devices

/-!
The weight of the devices of a store: one for each device, and one for each of its notification
tokens. Registering a device and adding a token make the store heavier, so what they did cannot be
undone by more of the same.

* `weight`: the weight of a store.
* `weight_addDevice`, `weight_addToken`: what makes it grow.
-/

namespace Telematics

/-- The number of the notification tokens among attributes. -/
def tokenCount : Json → Nat
  | .object members =>
    ((itemsOf? ((Json.Members.get? members tokensKey).getD .null)).map List.length).getD 0
  | _ => 0

namespace Store

/-- The weight of a device. -/
def deviceWeight (row : Row Device) : Nat := 1 + tokenCount row.value.attributes

/-- The weight of the devices of a store. -/
def weight (store : Store) : Nat := (store.devices.rows.map deviceWeight).sum

variable {store after : Store}

/-- A device under the next number makes the store heavier. -/
theorem weight_addDevice (store : Store) (device : Device) :
    store.weight < (store.addDevice store.devices.nextId device).weight := by
  simp only [weight, addDevice, Table.rows_put_nextId, List.map_append, List.sum_append,
    List.map_cons, List.map_nil, List.sum_singleton, deviceWeight]
  omega

theorem itemsOf?_append (tokens : List Json) (token : Json) :
    itemsOf? (.list (tokens ++ [token])) = some (tokens ++ [token]) := by
  cases tokens <;> rfl

theorem tokenCount_put (members : Json.Members) (tokens : List Json) (token : Json) :
    tokenCount (.object (members.put tokensKey (.list (tokens ++ [token])))) =
      tokens.length + 1 := by
  simp only [tokenCount, Json.Members.get?_put_self, Option.getD_some, itemsOf?_append,
    Option.map_some, List.length_append, List.length_singleton]

/-- A device that is replaced by a heavier one makes the store heavier. -/
theorem weight_setDevice {row : Row Device} {device : Device}
    (known : store.device? row.id = some row)
    (heavier : deviceWeight row < deviceWeight ⟨row.id, device⟩) :
    store.weight < (store.setDevice row.id device).weight := by
  have present : row ∈ store.devices.rows := (Table.mem_of_find? known).1
  -- No row becomes lighter, and the one that is replaced becomes heavier.
  have each : ∀ other ∈ store.devices.rows, deviceWeight other ≤
      deviceWeight ⟨other.id, if other.id = row.id then device else other.value⟩ := by
    intro other inTable
    by_cases same : other.id = row.id
    · have one : other = row := Table.eq_of_id_eq inTable present same
      subst one
      simpa using heavier.le
    · simp [same]
  have grows := List.sum_lt_sum deviceWeight
    (fun other => deviceWeight ⟨other.id, if other.id = row.id then device else other.value⟩)
    each ⟨row, present, by simpa using heavier⟩
  simp only [weight, setDevice, Table.set, Table.rows_modify, List.map_map]
  exact grows

/-- A token that is added makes the store heavier. -/
theorem weight_addToken {now : Calendar.Moment} {id : Int} {token : Json}
    (added : store.addToken now id token = .added after) : store.weight < after.weight := by
  obtain ⟨row, members, tokens, known, kept, listed, rfl⟩ := addToken_eq_added added
  have named : row.id = id := (Table.mem_of_find? known).2
  refine weight_setDevice (named ▸ known) ?_
  simp only [deviceWeight, tokenCount_put]
  rw [kept]
  simp only [tokenCount, listed, Option.map_some, Option.getD_some]
  omega

end Store

end Telematics
