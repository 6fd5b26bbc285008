import Telematics.Json.Printer
import Telematics.Proofs.Report.Breakdown
import Telematics.Proofs.Report.Depth

/-!
The time on the device. A report tells when it was made: by the last of its timestamps, or by the
one of the location in its document. Parameters keep this time whether they carry coordinates or
not. A document without coordinates loses it: the position of its device is filled from the last one
as of now.

* `carriedTime?`: the time that a request carries.
* `decodeFields_time`, `decodeDocument_time`: the time of the position.
* `decode_keeps_time_iff`: when the time that a report carries is the one of its position.
-/

namespace Telematics.Report

open Calendar (Clock Moment Zone)

variable {ε σ : Type} {services : Services ε σ} {decoder : Decoder} {clock : Clock} {zone : Zone}
  {state after : σ} {position : Position} {response : Http.Response}

/-! ## What a request says about its time -/

/-- The time that a field gives. -/
def timeOf? (zone : Zone) (field : Http.Field) : Option Moment :=
  match field.1 with
  | "timestamp" => (Timestamp.read zone field.2).toOption
  | _ => none

/-- The time that an entry gives. -/
def Entry.time? : Entry → Option Moment
  | .detail (.time time) => some time
  | _ => none

/-- The time of the location in a document. -/
def documentTime? (zone : Zone) (document : Json.Members) : Option Moment :=
  (requiredObject document "location").toOption.bind fun location =>
    (requiredText location "timestamp").toOption.bind fun text =>
      (Timestamp.readIso zone text).toOption

/-- The time that a request carries: that of its document, or the last one among its parameters. -/
def carriedTime? (zone : Zone) (request : Http.Request) : Option Moment :=
  if isJson request then (document? request).bind (documentTime? zone)
  else (parameters? request).bind (latest? (timeOf? zone))

/-- An entry gives the same time as its field. -/
theorem readEntry_time {key value : String} {entry : Entry}
    (read : readEntry decoder zone key value = .ok entry) :
    timeOf? zone (key, value) = entry.time? := by
  cases readEntry_says read with
  | time given => exact toOption_eq_some_iff.mpr given
  | other free =>
    simp only [reservedKeys, List.mem_cons, not_or] at free
    simp [timeOf?, Entry.time?, free]
  | _ => rfl

theorem add_time (draft : Draft) (detail : Detail) :
    (draft.add detail).time = (Entry.time? (.detail detail)).or draft.time := by
  cases detail <;> rfl

/-- The time of a draft is the last one that its parameters give. -/
theorem Walk.time {remote : Option String} {fields : List Http.Field} {last : Draft}
    (walk : Walk services decoder zone remote state {} fields last after) :
    last.time = latest? (timeOf? zone) fields := by
  rw [walk.latest add_time (fun _ _ => rfl) (fun _ => rfl) (fun _ => rfl)
    fun key value entry read => readEntry_time read]
  exact Option.or_none

/-! ## The time of a position -/

/-- However a position of parameters gets its place, it has the time of its draft. -/
theorem Placed.keeps_time {device : Int} {time : Moment} {base : Position}
    {coordinates : Option (Binary64 × Binary64)}
    (placed : Placed services device time base state coordinates position after)
    (same : base.deviceTime = some time) : position.deviceTime = some time := by
  cases placed with
  | given => exact same
  | spot => exact same
  | filled _ _ => rfl
  | unfilled _ => exact same

/-- The position of parameters has the last time that they give. -/
theorem decodeFields_time {remote : Option String} {fields : List Http.Field} {time : Moment}
    (ran : (decodeFields decoder clock services remote fields).run state =
      (.ok ⟨some position, response⟩, after))
    (given : latest? (timeOf? clock.zone) fields = some time) :
    position.deviceTime = some time := by
  obtain ⟨found, middle, walk, ran⟩ := Action.run_bind_ok ran
  cases found with
  | none => cases ran
  | some draft =>
    obtain ⟨place, reached, located, ran⟩ := Action.run_bind_ok ran
    have told := (handleAll_walk walk).time.trans given
    have keeps := (locate_placed located).keeps_time (by rw [Draft.toPosition])
    rw [told] at keeps
    split at ran
    · cases ran
    · obtain ⟨_, _, -, done⟩ := Action.run_bind_ok ran
      cases done
      exact keeps

/-- The position of a document has the time of the document if it has coordinates, or no device
    whose last position could stand in; otherwise it is as of now. -/
theorem decodeDocument_time {remote : Option String} {document : Json.Members}
    (ran : (decodeDocument decoder clock services remote document).run state =
      (.ok ⟨some position, response⟩, after)) :
    ∃ time, documentTime? clock.zone document = some time ∧
      position.deviceTime = some (if spotOf? document = none ∧ position.deviceId ≠ .int 0 then
        clock.now else time) := by
  obtain ⟨identifier, -, ran⟩ := run_orReject_bind_ok ran
  obtain ⟨found, middle, -, ran⟩ := Action.run_bind_ok ran
  cases found with
  | none => cases ran
  | some device =>
    obtain ⟨location, inside, ran⟩ := run_orReject_bind_ok ran
    obtain ⟨timestamp, written, ran⟩ := run_orReject_bind_ok ran
    obtain ⟨time, read, ran⟩ := run_orReject_bind_ok ran
    obtain ⟨coords, listed, ran⟩ := run_orReject_bind_ok ran
    have told : documentTime? clock.zone document = some time := by
      rw [documentTime?, inside]
      show (requiredText location "timestamp").toOption.bind _ = _
      rw [written]
      exact toOption_eq_some_iff.mpr (mapError_eq_ok_iff.mp read)
    have said := spotOf?_eq inside listed
    refine ⟨time, told, ?_⟩
    cases coords with
    | some members =>
      obtain ⟨spot, seen, ran⟩ := run_orReject_bind_ok ran
      obtain ⟨attributes, -, done⟩ := run_orReject_bind_ok ran
      cases done
      rw [Option.bind_some, toOption_eq_some_iff.mpr seen] at said
      rw [if_neg (by simp [said])]
      rfl
    | none =>
      obtain ⟨filled, reached, fill, ran⟩ := Action.run_bind_ok ran
      obtain ⟨attributes, -, done⟩ := run_orReject_bind_ok ran
      cases done
      cases fallBack_placed fill with
      | filled somebody _ =>
        rw [if_pos ⟨said, by simpa using somebody⟩]
      | unfilled nobody => rw [if_neg (by simp [nobody])]

/-- A document without coordinates is filled for a device, as of another time than the one that it
    carries. -/
def LosesTime (clock : Clock) (request : Http.Request) (position : Position) (time : Moment) :
    Prop :=
  isJson request = true ∧ carriedCoordinates? request = none ∧ position.deviceId ≠ .int 0 ∧
    clock.now ≠ time

/-- The time that an accepted report carries is the one of its position, whatever else it carries
    and whatever the last position of its device is, unless the report is a document without
    coordinates. -/
theorem decode_keeps_time_iff {request : Http.Request} {time : Moment}
    (ran : (decode decoder clock services request).run state =
      (.ok ⟨some position, response⟩, after))
    (carried : carriedTime? clock.zone request = some time) :
    position.deviceTime = some time ↔ ¬ LosesTime clock request position time := by
  unfold decode at ran
  split at ran
  · rename_i json
    unfold decodeJson at ran
    split at ran
    · cases ran
    rename_i body kept
    obtain ⟨document, middle, read, decoded⟩ := Action.run_bind_ok ran
    obtain ⟨known, rfl⟩ := document?_of_run kept read
    rw [carriedTime?, if_pos json, known] at carried
    obtain ⟨written, told, same⟩ := decodeDocument_time decoded
    obtain rfl : written = time := Option.some.inj (told.symm.trans carried)
    have bare : carriedCoordinates? request = none ↔ spotOf? document = none := by
      rw [carriedCoordinates?, if_pos json, known]
      exact Option.map_eq_none_iff
    rw [same, Option.some.injEq, LosesTime, bare]
    split
    · rename_i filled
      simp [json, filled.1, filled.2]
    · rename_i placed
      exact iff_of_true rfl fun loses => placed ⟨loses.2.1, loses.2.2.1⟩
  · rename_i plain
    refine iff_of_true ?_ fun loses => plain loses.1
    unfold decodeQuery at ran
    split at ran
    · cases ran
    · rename_i fields read
      rw [carriedTime?, if_neg plain, parameters?_of_requestFields read] at carried
      exact decodeFields_time ran carried

/-- The time of the example below. -/
def newYear : Moment := (Moment.ofMillis? 1704067200000).getD noFixTime

/-- A report of parameters without coordinates. -/
def timedQuery : Http.Request where
  query := Text.utf8Bytes "id=a&timestamp=2024-01-01T00:00:00Z".toList
  path := ['/']
  header := ⟨"", []⟩
  codec := none

/-- The same report as a document. -/
def timedText : List Char :=
  Json.renderOnto [] (.object [("device_id", .text "a"),
    ("location", .object [("timestamp", .text "2024-01-01T00:00:00Z")])])

/-- The time of parameters without coordinates is kept. -/
theorem timedQuery_keeps_time :
    carriedTime? .utc timedQuery = some newYear ∧ carriedCoordinates? timedQuery = none ∧
      ∃ position response, (decode ⟨.text "osmand", .knots⟩ ⟨noFixTime, .utc⟩
          (idleServices : Services String Unit) timedQuery).run () =
        (.ok ⟨some position, response⟩, ()) ∧ position.deviceTime = some newYear := by
  have carried : carriedTime? .utc timedQuery = some newYear := by decide +kernel
  have plain : isJson timedQuery = false := by decide
  obtain ⟨position, response, ran⟩ : ∃ position response,
      (decode ⟨.text "osmand", .knots⟩ ⟨noFixTime, .utc⟩ (idleServices : Services String Unit)
        timedQuery).run () = (.ok ⟨some position, response⟩, ()) :=
    ⟨_, _, rfl⟩
  exact ⟨carried, by decide +kernel, position, response, ran,
    (decode_keeps_time_iff ran carried).mpr fun loses => nomatch plain.symm.trans loses.1⟩

/-- The same report as a document is accepted, and its time is lost. -/
theorem timedText_loses_time :
    carriedTime? .utc (documentRequest timedText) = some newYear ∧
      ((decode ⟨.text "osmand", .knots⟩ ⟨noFixTime, .utc⟩ (idleServices : Services String Unit)
          (documentRequest timedText)).run ()).1.toOption.bind (fun decoded =>
        decoded.position.map (·.deviceTime)) = some (some noFixTime) ∧
      noFixTime ≠ newYear :=
  ⟨by decide +kernel, by decide +kernel, by decide +kernel⟩

end Telematics.Report
