import Telematics.Proofs.Http.Written
import Telematics.Proofs.Number.Written
import Telematics.Proofs.Report.Rearrangement
import Telematics.Proofs.Report.Sources

/-!
Radio observations in parameters. Cell towers and access points are written between the parameters
of a report, in any places, and come out with its position in the order in which they are written.
They do not matter to anything else of the position, nor to the response.

* `TowerText`, `PointText`: how observations are written. `readTower_of_text`,
  `readAccessPoint_of_text`: they are read back.
* `Mixed`: the parameters of a report with observations between them. `Mixed.grouped`: it is handled
  with the same observations between the same parameters.
* `Walk.mixed`: handling collects the observations, and does nothing else with them.
* `Carries`: parameters are written into a request. `Carries.requestFields`: they are read.
* `decode_mixed`: a report with observations.
-/

namespace Telematics.Report

open Calendar (Clock Zone)
open Number (IsShort decimal)

theorem entries?_eq_none_iff {network : Network} :
    network.entries? = none ↔ network.cellTowers = [] ∧ network.accessPoints = [] := by
  obtain ⟨towers, points⟩ := network
  unfold Network.entries? Network.hasEntries
  cases towers <;> cases points <;> simp

theorem eq_of_entries? {network seen : Network} (same : network.entries? = some seen) :
    seen = network := by
  unfold Network.entries? at same
  split at same
  · exact (Option.some.inj same).symm
  · cases same

/-! ## Texts -/

/-- Parts with commas between them. -/
def commaText (parts : List String) : String :=
  String.ofList ([','].intercalate (parts.map String.toList))

/-- Parts without commas are what stands between the commas. -/
theorem commaParts_commaText {parts : List String} (filled : parts ≠ [])
    (clean : ∀ part ∈ parts, ',' ∉ part.toList) : commaParts (commaText parts) = parts := by
  have listed : ∀ part ∈ parts.map String.toList, ',' ∉ part := by
    intro part among
    obtain ⟨text, inside, rfl⟩ := List.mem_map.mp among
    exact clean text inside
  rw [commaParts, commaText, String.toList_ofList,
    Text.splitOn_intercalate (mt List.map_eq_nil_iff.mp filled) listed, List.map_map]
  exact (List.map_congr_left fun part _ => String.ofList_toList).trans (List.map_id _)

theorem comma_notMem_decimal (n : Int) : ',' ∉ (decimal n).toList := by
  intro among
  rcases Json.decimal_chars n ',' among with digit | minus
  · exact absurd digit (by decide)
  · exact absurd minus (by decide)

/-- How a cell tower is written: four integers, and the strength of the signal where it is known.
    Behind the strength there may be further integers. -/
inductive TowerText : CellTower → String → Prop where
  | unmeasured {country network area cell : Int} :
      (∀ n ∈ [country, network, area, cell], IsShort n) →
      TowerText ⟨.int country, .int network, .int area, .int cell, .null⟩
        (commaText ([country, network, area, cell].map decimal))
  | measured {country network area cell signal : Int} {further : List Int} :
      (∀ n ∈ country :: network :: area :: cell :: signal :: further, IsShort n) →
      TowerText ⟨.int country, .int network, .int area, .int cell, .int signal⟩
        (commaText ((country :: network :: area :: cell :: signal :: further).map decimal))

/-- How an access point is written: its address, in which dashes may stand for colons, and the
    strength of the signal. Behind the strength there may be further texts. -/
inductive PointText : AccessPoint → String → Prop where
  | point {address written : String} {signal : Int} {further : List String} :
      ',' ∉ address.toList → written.toList.map dashToColon = address.toList → IsShort signal →
      (∀ text ∈ further, ',' ∉ text.toList) →
      PointText ⟨.text address, .int signal⟩ (commaText (written :: decimal signal :: further))

theorem mapM_readInteger {numbers : List Int} (short : ∀ n ∈ numbers, IsShort n) :
    (numbers.map decimal).mapM readInteger = .ok numbers := by
  induction numbers with
  | nil => rfl
  | cons n rest ih =>
    obtain ⟨first, others⟩ := List.forall_mem_cons.mp short
    rw [List.map_cons, List.mapM_cons, readInteger, Number.readInteger_decimal first, ih others]
    rfl

theorem mapM_commaParts_decimal {numbers : List Int} (filled : numbers ≠ [])
    (short : ∀ n ∈ numbers, IsShort n) :
    (commaParts (commaText (numbers.map decimal))).mapM readInteger = .ok numbers := by
  rw [commaParts_commaText (mt List.map_eq_nil_iff.mp filled), mapM_readInteger short]
  intro part among
  obtain ⟨n, -, rfl⟩ := List.mem_map.mp among
  exact comma_notMem_decimal n

/-- A written tower is read back. -/
theorem readTower_of_text {tower : CellTower} {text : String} (written : TowerText tower text) :
    readTower text = .ok tower := by
  unfold readTower
  cases written with
  | unmeasured short | measured short =>
    rw [mapM_commaParts_decimal (List.cons_ne_nil _ _) short]
    rfl

/-- A written access point is read back. -/
theorem readAccessPoint_of_text {point : AccessPoint} {text : String}
    (written : PointText point text) : readAccessPoint text = .ok point := by
  cases written with
  | @point address written signal further clean same short others =>
    have noComma : ',' ∉ written.toList := fun among =>
      clean (same ▸ List.mem_map.mpr ⟨',', among, rfl⟩)
    unfold readAccessPoint
    rw [commaParts_commaText (List.cons_ne_nil _ _) (List.forall_mem_cons.mpr ⟨noComma,
      List.forall_mem_cons.mpr ⟨comma_notMem_decimal signal, others⟩⟩)]
    dsimp only
    rw [same, readInteger, Number.readInteger_decimal short, String.ofList_toList]
    rfl

/-! ## Parameters -/

/-- The keys of radio observations. -/
def radioKeys : List String := ["cell", "wifi"]

/-- The values of a key, in their order. -/
def valuesOf (key : String) (fields : List Http.Field) : List String :=
  (Http.ofKeys [key] fields).map Prod.snd

/-- The parameters that are no radio observations. -/
def withoutRadio (fields : List Http.Field) : List Http.Field :=
  fields.filter fun field => field.1 ∉ radioKeys

/-- The parameters of a report with radio observations between them, each in their own order. -/
structure Mixed (towers : List CellTower) (points : List AccessPoint)
    (base fields : List Http.Field) : Prop where
  towers : List.Forall₂ TowerText towers (valuesOf "cell" fields)
  points : List.Forall₂ PointText points (valuesOf "wifi" fields)
  others : withoutRadio fields = base

variable {towers : List CellTower} {points : List AccessPoint} {base fields : List Http.Field}

/-- In handling order there are the same observations between the other parameters in theirs. -/
theorem Mixed.grouped (mixed : Mixed towers points base fields) :
    Mixed towers points (Http.grouped base) (Http.grouped fields) where
  towers := by
    rw [valuesOf, Http.ofKeys_singleton_grouped]
    exact mixed.towers
  points := by
    rw [valuesOf, Http.ofKeys_singleton_grouped]
    exact mixed.points
  others := by
    rw [← mixed.others]
    exact Http.filter_grouped (fun key => key ∉ radioKeys) fields

variable {ε σ : Type} {services : Services ε σ} {decoder : Decoder} {zone : Zone}
  {remote : Option String} {state after : σ} {draft next last : Draft}

/-- What is said under another key does not depend on the radio observations of a draft. -/
theorem Handling.setNetwork {key value : String} {entry : Entry}
    (read : readEntry decoder zone key value = .ok entry) (other : key ∉ radioKeys)
    (handling : Handling services decoder remote draft state entry (some next) after)
    (network : Network) :
    Handling services decoder remote { draft with network } state entry
      (some { next with network }) after := by
  rcases entry.aboutDevice_or with about | ⟨detail, rfl⟩
  · obtain ⟨device, rfl, handles⟩ := handling.aboutDevice about
    exact handles { draft with network } rfl
  · cases handling
    have same : ({ draft with network } : Draft).add detail =
        { draft.add detail with network } := by
      cases detail with
      | tower | accessPoint =>
        have own := readEntry_blocks read _ (List.mem_singleton_self _)
        exact absurd (List.mem_singleton.mp own ▸ by decide) other
      | _ => rfl
    rw [← same]
    exact .said

theorem valuesOf_cons_self (value : String) {key : String} :
    valuesOf key ((key, value) :: fields) = value :: valuesOf key fields := by
  rw [valuesOf, Http.ofKeys_cons_of_mem (List.mem_singleton_self key)]
  rfl

theorem valuesOf_cons_ne {key : String} {field : Http.Field} (other : field.1 ≠ key) :
    valuesOf key (field :: fields) = valuesOf key fields := by
  rw [valuesOf, Http.ofKeys_cons_of_not_mem (mt List.mem_singleton.mp other), valuesOf]

/-- Parameters with observations between them are handled as without, and the observations are
    collected behind those that are there. -/
theorem Walk.mixed (mixed : Mixed towers points base fields)
    (walk : Walk services decoder zone remote state draft base last after) (network : Network) :
    Walk services decoder zone remote state { draft with network } fields
      { last with network :=
        ⟨network.cellTowers ++ towers, network.accessPoints ++ points⟩ } after := by
  induction fields generalizing towers points base state draft network with
  | nil =>
    obtain ⟨noTowers, noPoints, rfl⟩ := mixed
    cases noTowers
    cases noPoints
    cases walk
    rw [List.append_nil, List.append_nil]
    exact .done
  | cons field rest ih =>
    obtain ⟨key, value⟩ := field
    obtain ⟨seen, found, rfl⟩ := mixed
    by_cases cell : key = "cell"
    · subst cell
      rw [valuesOf_cons_self] at seen
      rw [valuesOf_cons_ne fun same => absurd same (by decide : "cell" ≠ "wifi")] at found
      cases seen with
      | @cons tower _ towers _ text seen =>
        have read : readEntry decoder zone "cell" value = .ok (.detail (.tower tower)) := by
          show (do return .detail (.tower (← readTower value)) : Except Cause Entry) = _
          rw [readTower_of_text text]
          rfl
        refine .step read .said ?_
        have collected := ih ⟨seen, found, rfl⟩ walk (network.addCellTower tower)
        rw [Network.addCellTower, List.append_assoc] at collected
        exact collected
    by_cases wifi : key = "wifi"
    · subst wifi
      rw [valuesOf_cons_ne fun same => absurd same (by decide : "wifi" ≠ "cell")] at seen
      rw [valuesOf_cons_self] at found
      cases found with
      | @cons point _ points _ text found =>
        have read : readEntry decoder zone "wifi" value = .ok (.detail (.accessPoint point)) := by
          show (do return .detail (.accessPoint (← readAccessPoint value)) : Except Cause Entry) = _
          rw [readAccessPoint_of_text text]
          rfl
        refine .step read .said ?_
        have collected := ih ⟨seen, found, rfl⟩ walk (network.addAccessPoint point)
        rw [Network.addAccessPoint, List.append_assoc] at collected
        exact collected
    have other : key ∉ radioKeys := by simp [radioKeys, cell, wifi]
    rw [valuesOf_cons_ne cell] at seen
    rw [valuesOf_cons_ne wifi] at found
    have kept : withoutRadio ((key, value) :: rest) = (key, value) :: withoutRadio rest :=
      List.filter_cons_of_pos (decide_eq_true other)
    rw [kept] at walk
    cases walk with
    | step read handling walk =>
      exact .step read (handling.setNetwork read other network) (ih ⟨seen, found, rfl⟩ walk network)

/-! ## Requests -/

/-- Parameters are written into the query string of a request, or into a form in its body. -/
structure Carries (request : Http.Request) (fields : List Http.Field) : Prop where
  plain : isJson request = false
  charset : request.charset = .utf8
  few : fields.length ≤ Http.fieldLimit
  written : ∃ text, Http.FormText fields text ∧
    (request.query = Text.utf8Bytes text ∨
      request.query = [] ∧ request.body = Text.utf8Bytes text ∧
        request.body.length ≤ Http.bodyLimit)

/-- The parameters that a request carries are read. -/
theorem Carries.requestFields {request : Http.Request} (carries : Carries request fields)
    (filled : fields ≠ []) : (requestFields request : Except (Failure ε) _) = .ok fields := by
  obtain ⟨text, written, query | ⟨noQuery, form, short⟩⟩ := carries.written
  · refine requestFields_of_query filled ?_
    rw [Http.Request.fields, carries.charset, query]
    exact written.readFormBytes carries.few
  · rw [requestFields_of_form_text carries.charset noQuery written.ascii form short,
      written.readForm carries.few]
    rfl

/-- Parameters with observations between them give the position of the others, with the network of
    the observations, and the same response. -/
theorem run_decodeFields_mixed {clock : Clock} (mixed : Mixed towers points base fields)
    {position : Position} {response : Http.Response}
    (ran : (decodeFields decoder clock services remote base).run state =
      (.ok ⟨some position, response⟩, after)) :
    (decodeFields decoder clock services remote fields).run state =
      (.ok ⟨some { position with network := (⟨towers, points⟩ : Network).entries? }, response⟩,
        after) := by
  have moved := run_decodeFields_related (fun place place' =>
    place' = { place with network := (⟨towers, points⟩ : Network).entries? }) ran
    fun {draft middle} walk _ => by
      refine ⟨_, walk.mixed mixed {}, rfl, fun {place located} locates => ?_⟩
      have own : place.attributes = .object draft.attributes := (locate_placed locates).attributes
      refine ⟨_, run_locate_set draft.attributes ⟨towers, points⟩ locates, ?_⟩
      rw [own]
  obtain ⟨_, decoded, rfl⟩ := moved
  exact decoded

/-- A request without parameters gives no position. -/
theorem run_decodeFields_nil {clock : Clock} {position : Position} {response : Http.Response} :
    (decodeFields decoder clock services remote []).run state ≠
      (.ok ⟨some position, response⟩, after) := by
  intro ran
  cases ran

/-- Radio observations survive in parameters. A report that gives a position, with observations
    between its parameters in any places, gives the same position and response with exactly these
    observations in their order, and with no network if there are none. -/
theorem decode_mixed {clock : Clock} {request request' : Http.Request}
    (plain : isJson request = false) (carries : Carries request' fields)
    (sender : request.remote = request'.remote)
    (read : (requestFields request : Except (Failure ε) _) = .ok base)
    (mixed : Mixed towers points base fields) {position : Position} {response : Http.Response}
    (ran : (decode decoder clock services request).run state =
      (.ok ⟨some position, response⟩, after)) :
    ∃ network, (decode decoder clock services request').run state =
        (.ok ⟨some { position with network }, response⟩, after) ∧
      (network = none ↔ towers = [] ∧ points = []) ∧
      ∀ seen, network = some seen → seen = ⟨towers, points⟩ := by
  rw [decode, if_neg (by simp [plain]), decodeQuery, read] at ran
  have filled : fields ≠ [] := by
    rintro rfl
    obtain ⟨-, -, rfl⟩ := mixed
    exact run_decodeFields_nil ran
  have decoded := run_decodeFields_mixed mixed.grouped ran
  refine ⟨_, ?_, entries?_eq_none_iff, fun seen => eq_of_entries?⟩
  rw [decode, if_neg (by simp [carries.plain]), decodeQuery, carries.requestFields filled, ← sender]
  exact decoded

/-- The parameters of a report with two towers and two access points between them. -/
def streetFields : List Http.Field :=
  [("wifi", commaText ["00-1F", decimal (-60)]), ("id", "a"),
    ("cell", commaText ([262, 1, 5, 7].map decimal)), ("lat", "1"),
    ("wifi", commaText ["c0:ffee", decimal (-7), "x", ""]),
    ("cell", commaText ([262, 2, 5, 8, -90, 3].map decimal)), ("lon", "2")]

/-- A request with these parameters. -/
def streetRequest : Http.Request where
  query := Text.utf8Bytes (Http.writeForm Char.isAlphanum streetFields)
  path := ['/']
  header := ⟨"", []⟩
  codec := none

/-- These observations come out in their order, the addresses with colons. -/
theorem decode_mixed_street :
    let towers : List CellTower := [⟨.int 262, .int 1, .int 5, .int 7, .null⟩,
      ⟨.int 262, .int 2, .int 5, .int 8, .int (-90)⟩]
    let points : List AccessPoint := [⟨.text "00:1F", .int (-60)⟩, ⟨.text "c0:ffee", .int (-7)⟩]
    Carries streetRequest streetFields ∧
      Mixed towers points [("id", "a"), ("lat", "1"), ("lon", "2")] streetFields ∧
      ∃ position response calls,
        fueledRun "id=a&lat=1&lon=2" = (.ok ⟨some position, response⟩, ((), calls)) ∧
        (decode ⟨.text "osmand", .knots⟩ ⟨noFixTime, .utc⟩
          (idleServices : Services String Unit).recorded streetRequest).run ((), []) =
            (.ok ⟨some { position with network := some ⟨towers, points⟩ }, response⟩,
              ((), calls)) := by
  intro towers points
  have carries : Carries streetRequest streetFields :=
    ⟨by decide, rfl, by decide, _, Http.formText_writeForm Http.escapesMarks_isAlphanum _, .inl rfl⟩
  have mixed : Mixed towers points [("id", "a"), ("lat", "1"), ("lon", "2")] streetFields := by
    refine ⟨?_, ?_, by decide⟩
    · exact .cons (.unmeasured (by decide)) (.cons (.measured (by decide)) .nil)
    · exact .cons (.point (by decide) (by decide) (by decide) (by decide))
        (.cons (.point (by decide) (by decide) (by decide) (by decide)) .nil)
  obtain ⟨position, response, calls, ran⟩ : ∃ position response calls,
      fueledRun "id=a&lat=1&lon=2" = (.ok ⟨some position, response⟩, ((), calls)) :=
    exists_of_position (by decide +kernel)
  refine ⟨carries, mixed, position, response, calls, ran, ?_⟩
  unfold fueledRun at ran
  have plain : isJson (fueledQuery "id=a&lat=1&lon=2") = false := by decide
  obtain ⟨network, decoded, absent, seen⟩ := decode_mixed plain carries rfl (by rfl) mixed ran
  cases network with
  | none => exact absurd (absent.mp rfl).1 (List.cons_ne_nil _ _)
  | some network =>
    rw [seen network rfl] at decoded
    exact decoded

end Telematics.Report
