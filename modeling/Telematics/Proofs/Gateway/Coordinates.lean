import Telematics.Proofs.Gateway.Storing
import Telematics.Proofs.Store.Newest

/-!
Stored coordinates. A location has both coordinates, which are finite, or neither. This holds in
every state of a run, with one exception: parameters may give an infinite coordinate, or one that is
not-a-number beside one that is a number. An infinity is stored as it is, and a not-a-number as
nothing. Documents are rejected then.

* `Location.isPaired`: both coordinates are there and finite, or neither is there.
* `located_isPaired_iff`: when the place of a location is a pair.
* `ReportsUnpaired`: the exception.
* `step_paired_iff`, `paired_along_iff`: coordinates are pairs unless it occurs.
-/

namespace Telematics

/-- Both coordinates are there and finite, or neither is there. -/
def Location.isPaired (location : Location) : Bool :=
  match location.latitude, location.longitude with
  | none, none => true
  | some latitude, some longitude => latitude.isFinite && longitude.isFinite
  | _, _ => false

namespace Gateway

open Report (carriedCoordinates?)

variable {gateway : Gateway}

/-- Every stored location has both coordinates or neither. -/
def AllPaired (gateway : Gateway) : Prop :=
  ∀ row ∈ gateway.store.locations.rows, row.value.isPaired = true

/-- Both coordinates are finite, or neither is a number. -/
def IsPair (latitude longitude : Binary64) : Prop :=
  latitude.isFinite = true ∧ longitude.isFinite = true ∨ latitude = .nan ∧ longitude = .nan

/-- Coordinates that are given are stored as a pair if they are one. -/
theorem isPaired_given_iff {location : Location} {latitude longitude : Binary64}
    (one : location.latitude = storableMeasure (some latitude))
    (two : location.longitude = storableMeasure (some longitude)) :
    location.isPaired = true ↔ IsPair latitude longitude := by
  rw [Location.isPaired, one, two, IsPair]
  by_cases noLatitude : latitude = .nan <;> by_cases noLongitude : longitude = .nan
  · rw [noLatitude, noLongitude]
    simp [storableMeasure]
  · obtain ⟨kept, stored, -⟩ := storableMeasure_of_ne_nan noLongitude
    rw [noLatitude, stored]
    simp [storableMeasure, Binary64.isFinite, noLongitude]
  · obtain ⟨kept, stored, -⟩ := storableMeasure_of_ne_nan noLatitude
    rw [noLongitude, stored]
    simp [storableMeasure, Binary64.isFinite, noLatitude]
  · obtain ⟨kept, stored, finite⟩ := storableMeasure_of_ne_nan noLatitude
    obtain ⟨kept', stored', finite'⟩ := storableMeasure_of_ne_nan noLongitude
    rw [stored, stored']
    simp [finite, finite', noLatitude]

/-- Coordinates that are copied from a pair are one. -/
theorem isPaired_copied {location last : Location} (paired : last.isPaired = true)
    (one : location.latitude = storableMeasure last.latitude)
    (two : location.longitude = storableMeasure last.longitude) : location.isPaired = true := by
  unfold Location.isPaired at paired
  split at paired
  · rename_i noLatitude noLongitude
    rw [Location.isPaired, one, two, noLatitude, noLongitude]
    rfl
  · rename_i latitude longitude first second
    rw [first] at one
    rw [second] at two
    exact (isPaired_given_iff one two).mpr (.inl (by simpa using paired))
  · cases paired

/-- The place of a location is a pair unless it is given and no pair. -/
theorem located_isPaired_iff {location : Location}
    {coordinates : Option (Binary64 × Binary64)} (paired : AllPaired gateway)
    (located : Located gateway location coordinates) :
    location.isPaired = true ↔
      ∀ latitude longitude, coordinates = some (latitude, longitude) →
        IsPair latitude longitude := by
  cases located with
  | given one two => simp [isPaired_given_iff one two]
  | @copied last somebody newest one two fixed =>
    have present := (List.mem_filter.mp (Store.mem_of_newestOf? newest)).1
    exact iff_of_true (isPaired_copied (paired last present) one two) (fun _ _ same => nomatch same)
  | first somebody nothing one two fixed =>
    exact iff_of_true (by rw [Location.isPaired, one, two]) (fun _ _ same => nomatch same)
  | nowhere nobody one two =>
    exact iff_of_true (by rw [Location.isPaired, one, two]) (fun _ _ same => nomatch same)

/-! ## Steps -/

/-- A step is a report of parameters whose coordinates are no pair, and stores a location. -/
def ReportsUnpaired (gateway : Gateway) (what : Step) : Prop :=
  ∃ raw request latitude longitude, what = .request raw ∧ gateway.report? raw = some request ∧
    Report.isJson request = false ∧ carriedCoordinates? request = some (latitude, longitude) ∧
    ¬ IsPair latitude longitude ∧ newLocations gateway (gateway.step what).gateway ≠ []

/-- The coordinates of a document are a pair. -/
theorem isPair_of_isJson {request : Http.Request} {latitude longitude : Binary64}
    (json : Report.isJson request = true)
    (carried : carriedCoordinates? request = some (latitude, longitude)) :
    IsPair latitude longitude :=
  .inl (Report.finite_of_carriedCoordinates? json carried)

theorem isPaired_of_remains {row : Row Location} (paired : AllPaired gateway)
    (remains : Remains gateway row) : row.value.isPaired = true := by
  obtain ⟨first, was, -, valid, same⟩ := remains
  rw [same]
  exact paired first was

/-- After a step, coordinates are pairs unless the step is a report whose coordinates are none. -/
theorem step_paired_iff (consistent : gateway.store.isConsistent = true)
    (paired : AllPaired gateway) {what : Step} (indirect : ¬ what.IsDirect) :
    AllPaired (gateway.step what).gateway ↔ ¬ ReportsUnpaired gateway what := by
  constructor
  · rintro after ⟨raw, request, latitude, longitude, rfl, reports, -, carried, noPair, new⟩
    obtain ⟨row, new⟩ := List.exists_mem_of_ne_nil _ new
    have served : (gateway.step (.request raw)).gateway = (gateway.report request).gateway :=
      congrArg Outcome.gateway (serve_of_report reports)
    have stored := after row (List.mem_filter.mp new).1
    rw [served] at new
    have located := (storing_of_new consistent new).located
    exact noPair ((located_isPaired_iff paired located).mp stored latitude longitude carried)
  · intro clean row present
    rcases step_locations consistent indirect present with
      remains | ⟨raw, request, rfl, reports, number, storing⟩
    · exact isPaired_of_remains paired remains
    · refine (located_isPaired_iff paired storing.located).mpr fun latitude longitude carried => ?_
      by_contra noPair
      refine clean ⟨raw, request, latitude, longitude, rfl, reports, ?_, carried, noPair, ?_⟩
      · exact Bool.eq_false_iff.mpr fun json => noPair (isPair_of_isJson json carried)
      · rw [newLocations_addLocation storing.locations]
        exact List.cons_ne_nil _ _

/-! ## Runs -/

/-- Coordinates are pairs in every state of a run in which no position is handed in, unless a step
    is a report of parameters whose coordinates are no pair. -/
theorem paired_along_iff (fresh : Fresh gateway) {steps : List Step}
    (indirect : ∀ what ∈ steps, ¬ what.IsDirect) :
    (∀ front back, steps = front ++ back → AllPaired (gateway.run front)) ↔
      Along (fun gateway what => ¬ ReportsUnpaired gateway what) gateway steps := by
  have begins : AllPaired gateway := by
    intro row present
    rw [fresh.store] at present
    exact absurd present List.not_mem_nil
  exact prefixes_iff (·.store.isConsistent = true) AllPaired
    (fun _ what consistent => step_isConsistent consistent what)
    (fun _ _ consistent paired indirect => step_paired_iff consistent paired indirect)
    (run_isConsistent fresh []) begins indirect

/-- A place is given and then copied. -/
def copiedPlace : List Step := [reportStep "id=a&lat=1&lon=2", reportStep "id=a"]

/-- Coordinates that are given and copied are pairs. -/
theorem copied_place_paired :
    (∀ what ∈ copiedPlace, ¬ what.IsDirect) ∧
      ((openGateway.run copiedPlace).store.locations.rows.map fun row =>
        row.value.latitude.isSome) = [true, true] ∧
      ((∀ front back, copiedPlace = front ++ back → AllPaired (openGateway.run front)) ↔
        Along (fun gateway what => ¬ ReportsUnpaired gateway what) openGateway copiedPlace) := by
  have indirect : ∀ what ∈ copiedPlace, ¬ what.IsDirect := by
    intro what listed
    simp only [copiedPlace, List.mem_cons, List.not_mem_nil, or_false] at listed
    rcases listed with rfl | rfl <;> exact id
  exact ⟨indirect, by decide +kernel, paired_along_iff openGateway_fresh indirect⟩

/-- A report with an infinite latitude is stored with it, and one whose latitude is not-a-number is
    stored with its longitude alone. -/
theorem infinite_latitude_not_paired :
    Fresh openGateway ∧
      ¬ AllPaired (openGateway.run [reportStep "id=a&lat=inf&lon=2&timestamp=1700000000"]) ∧
      ¬ AllPaired (openGateway.run [reportStep "id=a&lat=nan&lon=2&timestamp=1700000000"]) := by
  refine ⟨openGateway_fresh, ?_, ?_⟩ <;>
    · rw [AllPaired]
      decide +kernel

end Gateway

end Telematics
