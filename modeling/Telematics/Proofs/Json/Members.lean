import Telematics.Json.Basic
import Telematics.Proofs.Number.Digits

/-!
Members under distinct keys. Setting a member keeps keys distinct, and a member under a new key is
set behind the others. An object of this kind is flat if no list and no object is inside.

* `nodup_put`: keys stay distinct.
* `put_of_not_mem`: a member under a new key.
* `get?_of_perm`: the order of members does not matter for what is found.
* `IsScalar`, `IsFlat`: values with nothing inside, and objects of them.
-/

namespace Telematics.Json

namespace Members

variable {members : Members} {key other : Letters} {value : Json}

theorem mem_keys_put :
    other ∈ (members.put key value).map Prod.fst ↔ other = key ∨ other ∈ members.map Prod.fst := by
  induction members with
  | nil => simp [put]
  | cons head rest ih =>
    obtain ⟨k, v⟩ := head
    by_cases same : k = key
    · simp [put, same]
    · simp only [put, same, if_false, List.map_cons, List.mem_cons, ih]
      exact or_left_comm

/-- Setting a member keeps keys distinct. -/
theorem nodup_put (distinct : (members.map Prod.fst).Nodup) :
    ((members.put key value).map Prod.fst).Nodup := by
  induction members with
  | nil => simp [put]
  | cons head rest ih =>
    obtain ⟨k, v⟩ := head
    rw [List.map_cons, List.nodup_cons] at distinct
    by_cases same : k = key
    · subst same
      simpa [put] using distinct
    · simp only [put, same, if_false, List.map_cons, List.nodup_cons]
      refine ⟨fun present => ?_, ih distinct.2⟩
      rcases mem_keys_put.mp present with own | old
      · exact same own
      · exact distinct.1 old

theorem put_of_not_mem (new : key ∉ members.map Prod.fst) :
    members.put key value = members ++ [(key, value)] := by
  induction members with
  | nil => rfl
  | cons head rest ih =>
    obtain ⟨k, v⟩ := head
    rw [List.map_cons, List.mem_cons, not_or] at new
    rw [put, if_neg (Ne.symm new.1), ih new.2]
    rfl

theorem get?_append (front back : Members) (key : Letters) :
    Members.get? (front ++ back) key = (front.get? key).or (back.get? key) :=
  List.lookup_append

/-- A member is found under its key. -/
theorem get?_eq_some_iff (distinct : (members.map Prod.fst).Nodup) :
    members.get? key = some value ↔ (key, value) ∈ members := by
  induction members with
  | nil => simp
  | cons head rest ih =>
    obtain ⟨k, v⟩ := head
    rw [List.map_cons, List.nodup_cons] at distinct
    rw [get?_cons, List.mem_cons, Prod.mk.injEq]
    by_cases same : k = key
    · subst same
      have alone : (k, value) ∉ rest := fun later =>
        distinct.1 (List.mem_map.mpr ⟨_, later, rfl⟩)
      simp [alone, eq_comm]
    · rw [if_neg same, ih distinct.2, or_iff_right fun own => same own.1.symm]

/-- Members in another order are found as before. -/
theorem get?_of_perm {others : Members} (distinct : (members.map Prod.fst).Nodup)
    (order : members.Perm others) (key : Letters) : members.get? key = others.get? key := by
  have distinct' : (others.map Prod.fst).Nodup := (order.map Prod.fst).nodup distinct
  refine Option.ext fun value => ?_
  rw [get?_eq_some_iff distinct, get?_eq_some_iff distinct', order.mem_iff]

/-- A member that is there after another was set is that one, or was there. -/
theorem eq_or_mem_of_mem_put {member : Letters × Json} (present : member ∈ members.put key value) :
    member = (key, value) ∨ member ∈ members := by
  induction members with
  | nil => exact .inl (List.mem_singleton.mp present)
  | cons head rest ih =>
    obtain ⟨k, v⟩ := head
    by_cases same : k = key
    · rw [put, if_pos same, List.mem_cons] at present
      exact present.imp_right (List.mem_cons_of_mem _)
    · rw [put, if_neg same, List.mem_cons] at present
      rcases present with first | present
      · exact .inr (first ▸ List.mem_cons_self)
      · exact (ih present).imp_right (List.mem_cons_of_mem _)

end Members

/-! ## Flat objects -/

/-- The value is no list and no object, and an integer keeps the limit of digits. -/
def IsScalar : Json → Prop
  | .int value => Number.IsShort value
  | .list _ => False
  | .object _ => False
  | _ => True

/-- The value is an object of scalars under distinct keys. -/
def IsFlat (value : Json) : Prop :=
  ∃ members, value = .object members ∧ (members.map Prod.fst).Nodup ∧
    ∀ member ∈ members, member.2.IsScalar

theorem isFlat_empty : (Json.object []).IsFlat :=
  ⟨[], rfl, List.nodup_nil, fun _ absent => nomatch absent⟩

/-- A scalar may be set in a flat object. -/
theorem IsFlat.put {members : Members} (flat : (Json.object members).IsFlat) {key : Letters}
    {value : Json} (scalar : value.IsScalar) : (Json.object (members.put key value)).IsFlat := by
  obtain ⟨_, same, distinct, scalars⟩ := flat
  cases same
  refine ⟨_, rfl, Members.nodup_put distinct, fun member present => ?_⟩
  rcases Members.eq_or_mem_of_mem_put present with rfl | old
  · exact scalar
  · exact scalars member old

end Telematics.Json
