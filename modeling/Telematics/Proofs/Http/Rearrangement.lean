import Telematics.Http.Form

/-!
Fields in another order. Fields of one key may not pass each other, and neither may fields whose
keys are in one group; all others may.

* `Rearranged`: fields in another order of this kind. `Rearranged.keeps_grouped`: their handling
  orders are related in the same way.
* `Swaps`: neighbours that are not bound change places, one pair after the other.
* `rearranged_iff_swaps`: this leads to every rearrangement, and to no other order.
-/

namespace Telematics.Http

variable {groups : List (List String)} {keys : List String} {field : Field}
  {fields other : List Field}

/-! ## Orders -/

/-- The fields of some keys, in their order. -/
def ofKeys (keys : List String) (fields : List Field) : List Field :=
  fields.filter fun field => field.1 ∈ keys

theorem ofKeys_cons_of_mem (inside : field.1 ∈ keys) :
    ofKeys keys (field :: fields) = field :: ofKeys keys fields :=
  List.filter_cons_of_pos (decide_eq_true inside)

theorem ofKeys_cons_of_not_mem (outside : field.1 ∉ keys) :
    ofKeys keys (field :: fields) = ofKeys keys fields :=
  List.filter_cons_of_neg (by simpa using outside)

theorem ofKeys_append : ofKeys keys (fields ++ other) = ofKeys keys fields ++ ofKeys keys other :=
  List.filter_append ..

/-- Keys whose fields may not pass each other: a single one, or a group. -/
def IsBlock (groups : List (List String)) (keys : List String) : Prop :=
  (∃ key, keys = [key]) ∨ keys ∈ groups

/-- The fields of two keys may not pass each other. -/
def Bound (groups : List (List String)) (one other : String) : Prop :=
  ∃ keys, IsBlock groups keys ∧ one ∈ keys ∧ other ∈ keys

theorem Bound.symm {one other : String} (bound : Bound groups one other) :
    Bound groups other one := by
  obtain ⟨keys, block, one, two⟩ := bound
  exact ⟨keys, block, two, one⟩

theorem bound_iff {one other : String} :
    Bound groups one other ↔ one = other ∨ ∃ keys ∈ groups, one ∈ keys ∧ other ∈ keys := by
  constructor
  · rintro ⟨keys, ⟨key, rfl⟩ | group, one, two⟩
    · exact .inl ((List.mem_singleton.mp one).trans (List.mem_singleton.mp two).symm)
    · exact .inr ⟨keys, group, one, two⟩
  · rintro (rfl | ⟨keys, group, one, two⟩)
    · exact ⟨[one], .inl ⟨one, rfl⟩, List.mem_singleton_self _, List.mem_singleton_self _⟩
    · exact ⟨keys, .inr group, one, two⟩

instance (groups : List (List String)) (one other : String) :
    Decidable (Bound groups one other) :=
  decidable_of_iff _ bound_iff.symm

/-- The same fields are in another order, in which those of one key and those of one group stand as
    before. -/
structure Rearranged (groups : List (List String)) (fields other : List Field) : Prop where
  perm : fields.Perm other
  keeps : ∀ keys, IsBlock groups keys → ofKeys keys fields = ofKeys keys other

/-! ## Handling order -/

/-- The first occurrences of some keys do not depend on fields of other keys. -/
theorem firstKeys_filter (chosen : String → Bool) (fields : List Field) :
    firstKeys (fields.filter (chosen ·.1)) = (firstKeys fields).filter chosen := by
  induction fields with
  | nil => rfl
  | cons field rest ih =>
    have later : ((firstKeys rest).filter (· ≠ field.1)).filter chosen =
        ((firstKeys rest).filter chosen).filter (· ≠ field.1) := by
      rw [List.filter_filter, List.filter_filter]
      exact List.filter_congr fun key _ => Bool.and_comm ..
    by_cases inside : chosen field.1 = true
    · rw [List.filter_cons_of_pos (by simpa using inside), firstKeys, firstKeys,
        List.filter_cons_of_pos inside, ih, later]
    · rw [List.filter_cons_of_neg (by simpa using inside), firstKeys,
        List.filter_cons_of_neg inside, ih, later]
      -- The key itself is none of those that are kept.
      refine (List.filter_eq_self.mpr fun key kept => decide_eq_true ?_).symm
      rintro rfl
      exact inside (List.mem_filter.mp kept).2

/-- The fields of some keys are handled in the order in which they would be handled alone. -/
theorem filter_grouped (chosen : String → Bool) (fields : List Field) :
    (grouped fields).filter (chosen ·.1) = grouped (fields.filter (chosen ·.1)) := by
  have pieces : ∀ listed : List String,
      (listed.flatMap fun key => fields.filter (·.1 = key)).filter (chosen ·.1) =
        (listed.filter chosen).flatMap fun key =>
          (fields.filter (chosen ·.1)).filter (·.1 = key) := by
    intro listed
    induction listed with
    | nil => rfl
    | cons key rest ih =>
      have same : (fields.filter (·.1 = key)).filter (chosen ·.1) =
          (fields.filter (chosen ·.1)).filter (·.1 = key) := by
        rw [List.filter_filter, List.filter_filter]
        exact List.filter_congr fun field _ => Bool.and_comm ..
      rw [List.flatMap_cons, List.filter_append, ih, same]
      by_cases inside : chosen key = true
      · rw [List.filter_cons_of_pos inside, List.flatMap_cons]
      · rw [List.filter_cons_of_neg inside]
        have none : (fields.filter (chosen ·.1)).filter (·.1 = key) = [] := by
          refine List.filter_eq_nil_iff.mpr fun field kept own => inside ?_
          rw [← of_decide_eq_true own]
          exact (List.mem_filter.mp kept).2
        rw [none, List.nil_append]
  rw [grouped, grouped, firstKeys_filter]
  exact pieces (firstKeys fields)

theorem ofKeys_grouped (keys : List String) (fields : List Field) :
    ofKeys keys (grouped fields) = grouped (ofKeys keys fields) :=
  filter_grouped (· ∈ keys) fields

/-- The fields of one key are handled in their own order. -/
theorem ofKeys_singleton_grouped (key : String) (fields : List Field) :
    ofKeys [key] (grouped fields) = ofKeys [key] fields := by
  have alone : ∀ listed : List Field, (∀ field ∈ listed, field.1 = key) →
      grouped listed = listed := by
    intro listed same
    have own : listed.filter (·.1 = key) = listed :=
      List.filter_eq_self.mpr fun field among => decide_eq_true (same field among)
    have first : ∀ other ∈ firstKeys listed, other = key := fun other among => by
      obtain ⟨value, among⟩ := mem_firstKeys.mp among
      exact same _ among
    cases listed with
    | nil => rfl
    | cons field rest =>
      obtain rfl : field.1 = key := same field List.mem_cons_self
      have once : (firstKeys rest).filter (· ≠ field.1) = [] :=
        List.filter_eq_nil_iff.mpr fun other among differ => of_decide_eq_true differ
          (first other (List.mem_cons_of_mem _ (List.mem_filter.mpr ⟨among, differ⟩)))
      rw [grouped, firstKeys, once]
      show (field :: rest).filter (·.1 = field.1) ++ [] = _
      rw [own, List.append_nil]
  rw [ofKeys_grouped]
  refine alone _ fun field among => ?_
  exact List.mem_singleton.mp (of_decide_eq_true (List.mem_filter.mp among).2)

/-- What is rearranged is rearranged in handling order too. -/
theorem Rearranged.keeps_grouped (rearranged : Rearranged groups fields other) (keys : List String)
    (block : IsBlock groups keys) : ofKeys keys (grouped fields) = ofKeys keys (grouped other) := by
  rw [ofKeys_grouped, ofKeys_grouped, rearranged.keeps keys block]

/-! ## Neighbours -/

/-- Neighbours that may pass each other change places, one pair after the other. -/
inductive Swaps (groups : List (List String)) : List Field → List Field → Prop where
  | refl {fields : List Field} : Swaps groups fields fields
  | cons {field : Field} {rest other : List Field} :
      Swaps groups rest other → Swaps groups (field :: rest) (field :: other)
  | swap {first second : Field} {rest : List Field} :
      ¬ Bound groups first.1 second.1 →
      Swaps groups (first :: second :: rest) (second :: first :: rest)
  | trans {one two three : List Field} :
      Swaps groups one two → Swaps groups two three → Swaps groups one three

/-- A field moves behind fields that it may pass. -/
theorem swaps_behind {front : List Field} (back : List Field)
    (free : ∀ earlier ∈ front, ¬ Bound groups field.1 earlier.1) :
    Swaps groups (field :: (front ++ back)) (front ++ field :: back) := by
  induction front with
  | nil => exact .refl
  | cons first front ih =>
    refine .trans (.swap (free first List.mem_cons_self)) (.cons (ih fun earlier listed => ?_))
    exact free earlier (List.mem_cons_of_mem first listed)

/-- Where fields stand as before within each block, neighbours have changed places. -/
theorem swaps_of_keeps
    (keeps : ∀ keys, IsBlock groups keys → ofKeys keys fields = ofKeys keys other) :
    Swaps groups fields other := by
  induction fields generalizing other with
  | nil =>
    cases other with
    | nil => exact .refl
    | cons field rest =>
      have none := keeps [field.1] (.inl ⟨_, rfl⟩)
      rw [ofKeys_cons_of_mem (List.mem_singleton_self _)] at none
      cases none
  | cons field rest ih =>
    have first := keeps [field.1] (.inl ⟨_, rfl⟩)
    rw [ofKeys_cons_of_mem (List.mem_singleton_self _)] at first
    obtain ⟨front, back, rfl, earlier, -, -⟩ := List.filter_eq_cons_iff.mp first.symm
    have noneEarlier : ∀ keys, IsBlock groups keys → field.1 ∈ keys → ofKeys keys front = [] := by
      intro keys block inside
      have same := keeps keys block
      rw [ofKeys_cons_of_mem inside, ofKeys_append] at same
      cases found : ofKeys keys front with
      | nil => rfl
      | cons head tail =>
        -- The first field of the block is the field itself, which comes later.
        rw [found] at same
        obtain ⟨rfl, -⟩ := List.cons.inj same
        have listed : field ∈ ofKeys keys front := found ▸ List.mem_cons_self
        exact absurd (decide_eq_true (List.mem_singleton_self _))
          (earlier field (List.mem_filter.mp listed).1)
    have free : ∀ one ∈ front, ¬ Bound groups field.1 one.1 := by
      rintro one listed ⟨keys, block, inside, also⟩
      have among : one ∈ ofKeys keys front := List.mem_filter.mpr ⟨listed, decide_eq_true also⟩
      rw [noneEarlier keys block inside] at among
      exact absurd among List.not_mem_nil
    refine .trans (.cons (ih fun keys block => ?_)) (swaps_behind back free)
    have same := keeps keys block
    by_cases inside : field.1 ∈ keys
    · rw [ofKeys_cons_of_mem inside, ofKeys_append, noneEarlier keys block inside,
        List.nil_append, ofKeys_cons_of_mem inside] at same
      rw [ofKeys_append, noneEarlier keys block inside, List.nil_append]
      exact (List.cons.inj same).2
    · rw [ofKeys_cons_of_not_mem inside, ofKeys_append, ofKeys_cons_of_not_mem inside] at same
      rw [ofKeys_append]
      exact same

/-- Neighbours that change places rearrange the fields. -/
theorem Swaps.rearranged (swaps : Swaps groups fields other) : Rearranged groups fields other := by
  induction swaps with
  | refl => exact ⟨.refl _, fun _ _ => rfl⟩
  | @cons field rest other _ ih =>
    refine ⟨ih.perm.cons field, fun keys block => ?_⟩
    by_cases inside : field.1 ∈ keys
    · rw [ofKeys_cons_of_mem inside, ofKeys_cons_of_mem inside, ih.keeps keys block]
    · rw [ofKeys_cons_of_not_mem inside, ofKeys_cons_of_not_mem inside, ih.keeps keys block]
  | @swap first second rest free =>
    refine ⟨.swap .., fun keys block => ?_⟩
    by_cases one : first.1 ∈ keys
    · have two : second.1 ∉ keys := fun two => free ⟨keys, block, one, two⟩
      rw [ofKeys_cons_of_mem one, ofKeys_cons_of_not_mem two, ofKeys_cons_of_not_mem two,
        ofKeys_cons_of_mem one]
    · rw [ofKeys_cons_of_not_mem one]
      by_cases two : second.1 ∈ keys
      · rw [ofKeys_cons_of_mem two, ofKeys_cons_of_mem two, ofKeys_cons_of_not_mem one]
      · rw [ofKeys_cons_of_not_mem two, ofKeys_cons_of_not_mem two, ofKeys_cons_of_not_mem one]
  | trans _ _ one two =>
    exact ⟨one.perm.trans two.perm, fun keys block =>
      (one.keeps keys block).trans (two.keeps keys block)⟩

/-- Fields are rearranged if, and only if, neighbours that are not bound have changed places. -/
theorem rearranged_iff_swaps : Rearranged groups fields other ↔ Swaps groups fields other :=
  ⟨fun rearranged => swaps_of_keeps rearranged.keeps, Swaps.rearranged⟩

end Telematics.Http
