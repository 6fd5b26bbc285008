import Telematics.Proofs.Gateway.Devices
import Telematics.Proofs.Gateway.Storing
import Telematics.Proofs.Store.Newest

/-!
Reports without coordinates. The location that is stored for one has the place of the newest
location of its device. A location that has no place itself, because none was known when it was
stored, takes part in that: it has the time of the fix that stands for none, so it is the newest one
as long as every place that is known is older than this time. Then the place is forgotten.

* `Location.hasPlace`, `Store.placesOf`: the locations with both coordinates.
* `Location.IsRegular`: what is known of a location, above all of one without a place.
* `located_regular`, `step_regular`, `run_regular`: every location is regular.
* `Store.Forgets`: a location without a place is newer than one with a place.
* `fallback_place`: the place of a location that is stored without coordinates.
-/

namespace Telematics

/-- Both coordinates are there. -/
def Location.hasPlace (location : Location) : Bool :=
  location.latitude.isSome && location.longitude.isSome

/-- The locations of a device that have a place. -/
def Store.placesOf (store : Store) (device : Int) : List (Row Location) :=
  (store.locationsOf device).filter (·.value.hasPlace)

/-- A location of the device without a place is newer than the one that is known. -/
def Store.Forgets (store : Store) (known : Row Location) : Prop :=
  ∃ other ∈ store.locationsOf known.value.device, other.value.hasPlace = false ∧
    Store.isNewer other known = true

/-- Coordinates are as they are stored, and a location without a place has neither of them and the
    time of the fix that stands for none. -/
structure Location.IsRegular (location : Location) : Prop where
  latitude : storableMeasure location.latitude = location.latitude
  longitude : storableMeasure location.longitude = location.longitude
  placeless : location.hasPlace = false →
    location.latitude = none ∧ location.longitude = none ∧
      location.fixTime = some Report.noFixTime

namespace Gateway

open Report (carriedCoordinates?)

variable {gateway : Gateway}

/-- Every stored location is regular. -/
def AllRegular (gateway : Gateway) : Prop :=
  ∀ row ∈ gateway.store.locations.rows, row.value.IsRegular

/-- The coordinates that a step carries, if it is a report that carries both. -/
def carriedBy? (gateway : Gateway) : Step → Option (Binary64 × Binary64)
  | .request raw => (gateway.report? raw).bind carriedCoordinates?
  | _ => none

/-- The coordinates that a step carries are numbers. -/
def GivesNumbers (gateway : Gateway) (what : Step) : Prop :=
  (gateway.carriedBy? what).all (fun given => given.1 ≠ .nan && given.2 ≠ .nan) = true

/-- A location of a device is regular if the coordinates that its report carries are numbers. -/
theorem located_regular {location : Location} {coordinates : Option (Binary64 × Binary64)}
    (regular : AllRegular gateway) (somebody : location.device ≠ 0)
    (numbers : coordinates.all (fun given => given.1 ≠ .nan && given.2 ≠ .nan) = true)
    (located : Located gateway location coordinates) : location.IsRegular := by
  cases located with
  | @given latitude longitude one two =>
    simp only [Option.all_some, Bool.and_eq_true, decide_eq_true_eq] at numbers
    obtain ⟨first, kept, -⟩ := storableMeasure_of_ne_nan numbers.1
    obtain ⟨second, kept', -⟩ := storableMeasure_of_ne_nan numbers.2
    refine ⟨by rw [one, storableMeasure_idem], by rw [two, storableMeasure_idem], fun none => ?_⟩
    rw [Location.hasPlace, one, two, kept, kept'] at none
    cases none
  | @copied last _ newest one two fixed =>
    have known := regular last (List.mem_filter.mp (Store.mem_of_newestOf? newest)).1
    rw [known.latitude] at one
    rw [known.longitude] at two
    refine ⟨by rw [one, known.latitude], by rw [two, known.longitude], fun none => ?_⟩
    rw [Location.hasPlace, one, two] at none
    obtain ⟨noLatitude, noLongitude, noFix⟩ := known.placeless none
    rw [noFix] at fixed
    have stays : storableTime? (some Report.noFixTime) = .ok (some Report.noFixTime) := by
      decide +kernel
    rw [stays] at fixed
    exact ⟨one.trans noLatitude, two.trans noLongitude, (Except.ok.inj fixed).symm⟩
  | first _ _ one two fixed =>
    exact ⟨by rw [one]; rfl, by rw [two]; rfl, fun _ => ⟨one, two, fixed⟩⟩
  | nowhere nobody one two => exact absurd nobody somebody

/-! ## Runs -/

/-- What is true of every state of a run in which no position is handed in and no number is
    named. -/
structure Ordered (gateway : Gateway) : Prop where
  consistent : gateway.store.isConsistent = true
  numbers : Store.NumbersFrom 1 gateway.store

/-- A step neither stores a position that is handed in nor names the number of a device. -/
def Step.IsPlain (what : Step) : Prop := ¬ what.IsDirect ∧ ¬ what.NamesNumber

theorem step_ordered (ordered : Ordered gateway) {what : Step} (plain : what.IsPlain) :
    Ordered (gateway.step what).gateway :=
  ⟨step_isConsistent ordered.consistent what,
    step_numbersFrom (Int.le_refl 1) ordered.numbers fun names => absurd names plain.2⟩

/-- A location that is stored belongs to a device with a number above zero. -/
theorem Storing.somebody {request : Http.Request} {location : Location} {settled : Gateway}
    (storing : Storing gateway request location settled) (ordered : Ordered settled) :
    location.device ≠ 0 := by
  obtain ⟨-, -, -, -, -, known⟩ := storing
  obtain ⟨row, present, same⟩ := Store.hasDevice_iff.mp known
  have := (ordered.numbers.within row present).1
  omega

theorem step_regular (ordered : Ordered gateway) (regular : AllRegular gateway) {what : Step}
    (plain : what.IsPlain) (numbers : GivesNumbers gateway what) :
    AllRegular (gateway.step what).gateway := by
  intro row present
  rcases step_locations ordered.consistent plain.1 present with
    ⟨first, was, -, valid, same⟩ | ⟨raw, request, rfl, reports, -, storing⟩
  · obtain ⟨latitude, longitude, placeless⟩ := regular first was
    rw [same]
    exact ⟨latitude, longitude, placeless⟩
  · rw [GivesNumbers, carriedBy?, reports] at numbers
    exact located_regular regular (storing.somebody (step_ordered ordered plain)) numbers
      storing.located

theorem run_regular (fresh : Fresh gateway) {steps : List Step}
    (plain : ∀ what ∈ steps, what.IsPlain) (numbers : Along GivesNumbers gateway steps) :
    Ordered (gateway.run steps) ∧ AllRegular (gateway.run steps) := by
  have along : Along (fun gateway what => what.IsPlain ∧ GivesNumbers gateway what) gateway
      steps := by
    rw [along_iff] at numbers ⊢
    rintro front what back rfl
    exact ⟨plain what List.mem_append_cons_self, numbers front what back rfl⟩
  refine run_invariant (fun gateway => Ordered gateway ∧ AllRegular gateway)
    (fun gateway what holds clean => ?_) ⟨⟨run_isConsistent fresh [], ?_⟩, ?_⟩ along
  · exact ⟨step_ordered holds.1 clean.1, step_regular holds.1 holds.2 clean.1 clean.2⟩
  · rw [fresh.store]
    exact Store.numbersFrom_empty 1
  · intro row present
    rw [fresh.store] at present
    exact absurd present List.not_mem_nil

/-! ## The place -/

/-- A place is forgotten only if its fix is not later than the time that stands for none. -/
theorem forgets_early (regular : AllRegular gateway) {known : Row Location}
    (forgotten : gateway.store.Forgets known) :
    Store.isAfter (Store.fixInstant known) (some Report.noFixTime.instant) = false := by
  obtain ⟨other, mine, placeless, newer⟩ := forgotten
  obtain ⟨-, -, noFix⟩ := (regular other (List.mem_filter.mp mine).1).placeless placeless
  have instant : Store.fixInstant other = some Report.noFixTime.instant := by
    rw [Store.fixInstant, noFix]
    rfl
  rw [Store.isNewer, instant] at newer
  cases fixed : Store.fixInstant known with
  | none => rfl
  | some first =>
    rw [fixed] at newer
    simp only [Store.isAfter, Bool.or_eq_true, Bool.and_eq_true, decide_eq_true_eq,
      Option.some.injEq, gt_iff_lt] at newer
    exact decide_eq_false (by omega)

/-- The place of a location that is stored without coordinates is that of the newest place of its
    device, unless that is forgotten. -/
theorem located_place (regular : AllRegular gateway) {location : Location}
    (somebody : location.device ≠ 0) (located : Located gateway location none)
    {known : Row Location}
    (newest : Store.newestOf? (gateway.store.placesOf location.device) = some known) :
    (¬ gateway.store.Forgets known →
      location.latitude = known.value.latitude ∧ location.longitude = known.value.longitude) ∧
    (gateway.store.Forgets known → location.latitude = none ∧ location.longitude = none) := by
  obtain ⟨mine, placed⟩ := List.mem_filter.mp (Store.mem_of_newestOf? newest)
  have own : known.value.device = location.device := of_decide_eq_true (List.mem_filter.mp mine).2
  cases located with
  | first _ nothing _ _ _ =>
    rw [Store.newestOf?_eq_none_iff.mp nothing] at mine
    exact absurd mine List.not_mem_nil
  | nowhere nobody _ _ => exact absurd nobody somebody
  | @copied last _ newestOfAll one two fixed =>
    have lastMine := Store.mem_of_newestOf? newestOfAll
    have stored := regular last (List.mem_filter.mp lastMine).1
    have older := Store.age_le_newestOf? newestOfAll mine
    rw [stored.latitude] at one
    rw [stored.longitude] at two
    cases has : last.value.hasPlace with
    | true =>
      -- The newest location has a place, so it is the newest place.
      have younger := Store.age_le_newestOf? newest (List.mem_filter.mpr ⟨lastMine, has⟩)
      have same : last = known := Store.eq_of_age_eq (List.mem_filter.mp lastMine).1
        (List.mem_filter.mp mine).1 (le_antisymm younger older)
      rw [same] at one two newestOfAll
      refine ⟨fun _ => ⟨one, two⟩, ?_⟩
      rintro ⟨other, present, -, after⟩
      rw [own] at present
      exact absurd (Store.isNewer_iff.mp after)
        (not_lt_of_ge (Store.age_le_newestOf? newestOfAll present))
    | false =>
      obtain ⟨noLatitude, noLongitude, -⟩ := stored.placeless has
      refine ⟨fun remembered => absurd ?_ remembered, fun _ =>
        ⟨one.trans noLatitude, two.trans noLongitude⟩⟩
      -- The newest location is another one than the newest place, so it is newer.
      refine ⟨last, by rw [own]; exact lastMine, has,
        Store.isNewer_iff.mpr (lt_of_le_of_ne older fun same => ?_)⟩
      rw [Store.eq_of_age_eq (List.mem_filter.mp mine).1 (List.mem_filter.mp lastMine).1 same,
        has] at placed
      cases placed

/-- A location that is stored for a report without coordinates has the place of the newest location
    of its device that has one. Only a location without a place that is newer makes the device
    forget it, which takes a fix that is not later than the time that stands for none. -/
theorem fallback_place (fresh : Fresh gateway) {steps : List Step}
    (plain : ∀ what ∈ steps, what.IsPlain) (numbers : Along GivesNumbers gateway steps)
    {raw : Http.RawRequest} {request : Http.Request}
    (reports : (gateway.run steps).report? raw = some request)
    (bare : carriedCoordinates? request = none) {row known : Row Location}
    (new : row ∈ newLocations (gateway.run steps) ((gateway.run steps).serve raw).gateway)
    (newest : Store.newestOf? ((gateway.run steps).store.placesOf row.value.device) =
      some known) :
    (¬ (gateway.run steps).store.Forgets known →
      row.value.latitude = known.value.latitude ∧
        row.value.longitude = known.value.longitude) ∧
    ((gateway.run steps).store.Forgets known →
      row.value.latitude = none ∧ row.value.longitude = none ∧
        Store.isAfter (Store.fixInstant known) (some Report.noFixTime.instant) = false) := by
  obtain ⟨ordered, regular⟩ := run_regular fresh plain numbers
  have served := serve_of_report reports
  have indirect : Step.IsPlain (.request raw) := ⟨id, id⟩
  have after : Ordered ((gateway.run steps).report request).gateway := by
    rw [← served]
    exact step_ordered ordered indirect
  rw [served] at new
  have storing := storing_of_new ordered.consistent new
  have located := storing.located
  rw [bare] at located
  obtain ⟨remembered, forgotten⟩ :=
    located_place regular (storing.somebody after) located newest
  exact ⟨remembered, fun forgets => ⟨(forgotten forgets).1, (forgotten forgets).2,
    forgets_early regular forgets⟩⟩

/-- A place with a fix of its own, and a report without coordinates after it. -/
def rememberedPlace : List Step :=
  [reportStep "id=a&lat=1&lon=2&timestamp=1700000000", reportStep "id=a"]

/-- A report that names its device only. -/
def bareReport : Http.RawRequest := { query := "id=a".toUTF8.toList }

/-- The place of a device is remembered over two reports without coordinates. -/
theorem remembered_place_fallback :
    (∀ what ∈ rememberedPlace, what.IsPlain) ∧ Along GivesNumbers openGateway rememberedPlace ∧
      ∃ request row known, (openGateway.run rememberedPlace).report? bareReport = some request ∧
        carriedCoordinates? request = none ∧
        row ∈ newLocations (openGateway.run rememberedPlace)
          ((openGateway.run rememberedPlace).serve bareReport).gateway ∧
        Store.newestOf? ((openGateway.run rememberedPlace).store.placesOf row.value.device) =
          some known ∧
        (¬ (openGateway.run rememberedPlace).store.Forgets known →
          row.value.latitude = known.value.latitude ∧
            row.value.longitude = known.value.longitude) ∧
        ((openGateway.run rememberedPlace).store.Forgets known →
          row.value.latitude = none ∧ row.value.longitude = none ∧
            Store.isAfter (Store.fixInstant known) (some Report.noFixTime.instant) = false) := by
  have plain : ∀ what ∈ rememberedPlace, what.IsPlain := by
    intro what listed
    simp only [rememberedPlace, List.mem_cons, List.not_mem_nil, or_false] at listed
    rcases listed with rfl | rfl <;> exact ⟨id, id⟩
  have numbers : Along GivesNumbers openGateway rememberedPlace := by
    refine ⟨?_, ?_, trivial⟩ <;> · rw [GivesNumbers]; decide +kernel
  obtain ⟨request, reports⟩ : ∃ request,
      (openGateway.run rememberedPlace).report? bareReport = some request :=
    Option.isSome_iff_exists.mp (by decide +kernel)
  have bare : ((openGateway.run rememberedPlace).report? bareReport).bind carriedCoordinates? =
      none := by decide +kernel
  rw [reports] at bare
  obtain ⟨row, new⟩ : ∃ row, row ∈ newLocations (openGateway.run rememberedPlace)
      ((openGateway.run rememberedPlace).serve bareReport).gateway :=
    List.exists_mem_of_ne_nil _ (by decide +kernel)
  have placed : ∀ row ∈ newLocations (openGateway.run rememberedPlace)
      ((openGateway.run rememberedPlace).serve bareReport).gateway,
      (Store.newestOf? ((openGateway.run rememberedPlace).store.placesOf
        row.value.device)).isSome = true := by decide +kernel
  obtain ⟨known, newest⟩ := Option.isSome_iff_exists.mp (placed row new)
  exact ⟨plain, numbers, request, row, known, reports, bare, new, newest,
    fallback_place openGateway_fresh plain numbers reports bare new newest⟩

/-- A report without coordinates comes first, and then one whose fix is older than the time that
    stands for none. -/
def forgottenPlace : List Step :=
  [reportStep "id=a", reportStep "id=a&lat=1&lon=2&timestamp=0"]

/-- The place of the second report is stored, and the next report without coordinates is stored
    without a place. -/
theorem early_place_forgotten :
    Fresh openGateway ∧
      ((openGateway.run forgottenPlace).store.placesOf 1).map (·.value.hasPlace) = [true] ∧
      (newLocations (openGateway.run forgottenPlace)
        ((openGateway.run forgottenPlace).serve bareReport).gateway).map (fun row =>
          (row.value.device, row.value.latitude, row.value.longitude)) = [(1, none, none)] :=
  ⟨openGateway_fresh, by decide +kernel, by decide +kernel⟩

end Gateway

end Telematics
