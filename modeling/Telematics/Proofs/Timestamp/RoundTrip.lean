import Telematics.Proofs.Calendar.Written
import Telematics.Proofs.Timestamp.Integer

/-!
Timestamps that are written date-times. A moment is read back as it is written, whatever the rule of
the default zone, unless its offset is shorter than a second. A wall clock without an offset is
placed by that rule, in either form.

* `readIsoBy_toText`, `readIsoBy_toIso`: what is read as ISO 8601.
* `readPattern_toPattern`: what is read by the pattern.
* `readBy_written`: written date-times are read back as timestamps, and as ISO 8601.
-/

namespace Telematics

namespace Calendar

/-- The written form of a wall clock in ISO 8601, without an offset. -/
def WallClock.toIso (clock : WallClock) : String :=
  String.ofList (clock.date.toText ++ 'T' :: clock.time.toText)

/-- An offset is none, or at least a second long. -/
def Offset.HasSeconds (offset : Offset) : Prop :=
  offset = .zero ∨ 1000000 ≤ offset.micros.natAbs

theorem Offset.inSeconds_eq_iff {offset : Offset} :
    offset.inSeconds = offset ↔ offset.HasSeconds := by
  unfold Offset.inSeconds Offset.HasSeconds
  split
  · rename_i short
    refine ⟨fun none => .inl none.symm, fun seconds => ?_⟩
    exact (seconds.resolve_right (Nat.not_le.mpr short)).symm
  · rename_i long
    exact iff_of_true rfl (.inr (Nat.not_lt.mp long))

theorem readIso_toText (moment : Moment) : readIso moment.toText.toList =
    some (.ok ⟨moment.clock, some moment.offset.inSeconds⟩) := by
  have found := readStrict?_written moment.clock.date moment.clock.time
    (stops_offset moment.offset)
  rw [readOffset?_toText] at found
  have text : moment.toText.toList = moment.clock.date.toText ++
      'T' :: (moment.clock.time.toText ++ moment.offset.toText) := by
    rw [Moment.toText, String.toList_ofList, List.append_assoc, List.cons_append]
  rw [readIso, text, found]
  rfl

theorem readIso_toIso (clock : WallClock) :
    readIso clock.toIso.toList = some (.ok ⟨clock, none⟩) := by
  have found := readStrict?_written clock.date clock.time (Json.stops_nil _)
  rw [List.append_nil] at found
  rw [readIso, WallClock.toIso, String.toList_ofList, found]
  rfl

end Calendar

namespace Timestamp

open Calendar (ClockRule Moment WallClock Zone)

/-! ## Readers -/

/-- A moment is read back, but for an offset that is shorter than a second. -/
theorem readIsoBy_toText (rule : ClockRule) (moment : Moment) :
    readIsoBy rule moment.toText = .ok ⟨moment.clock, moment.offset.inSeconds⟩ := by
  rw [readIsoBy, Letters.shown_whole, Calendar.readIso_toText]
  rfl

/-- A wall clock without an offset is placed by the rule. -/
theorem readIsoBy_toIso (rule : ClockRule) (clock : WallClock) :
    readIsoBy rule clock.toIso = .ok (rule.place clock) := by
  rw [readIsoBy, Letters.shown_whole, Calendar.readIso_toIso]
  rfl

theorem readPattern_toPattern (rule : ClockRule) {clock : WallClock}
    (whole : clock.time.micro = 0) : readPattern rule clock.toPattern = .ok (rule.place clock) := by
  rw [readPattern, Calendar.readPattern?_toPattern]
  dsimp only
  rw [if_neg (not_not.mpr rfl), Calendar.check_parts whole]

/-! ## Timestamps -/

theorem letter_mem_toText (moment : Moment) : 'T' ∈ moment.toText.toList := by
  simp [Moment.toText]

theorem letter_mem_toIso (clock : WallClock) : 'T' ∈ clock.toIso.toList := by
  simp [WallClock.toIso]

/-- A colon stands in no integer. -/
theorem isForeign_colon : Number.IsForeign ':' :=
  ⟨by decide, by decide, by decide, by decide, by decide +kernel⟩

/-- There is no letter in the pattern. -/
theorem letter_notMem_toPattern (clock : WallClock) : 'T' ∉ clock.toPattern.toList := by
  have part : ∀ {width n : Nat}, 'T' ∉ Number.padded width n := fun {width n} among =>
    absurd (Number.areDigits_padded width n _ among) (by decide)
  simp [WallClock.toPattern, Calendar.Date.toText, part]

/-- Written date-times are read back, whatever the rule of the default zone. Moments are, both as
    timestamps and as ISO 8601, exactly if their offset is none or at least a second long. A wall
    clock in whole seconds is placed by the rule, in the pattern as well as in ISO 8601 without an
    offset. -/
theorem readBy_written (rule : ClockRule) :
    (∀ moment : Moment,
      (readBy rule moment.toText = .ok moment ↔ moment.offset.HasSeconds) ∧
        (readIsoBy rule moment.toText = .ok moment ↔ moment.offset.HasSeconds)) ∧
    ∀ clock : WallClock, clock.time.micro = 0 →
      readBy rule clock.toPattern = .ok (rule.place clock) ∧
        readIsoBy rule clock.toIso = .ok (rule.place clock) ∧
        readBy rule clock.toIso = .ok (rule.place clock) := by
  refine ⟨fun moment => ?_, fun clock whole => ?_⟩
  · have readBack : readIsoBy rule moment.toText = .ok moment ↔ moment.offset.HasSeconds := by
      obtain ⟨clock, offset⟩ := moment
      rw [readIsoBy_toText, ← Calendar.Offset.inSeconds_eq_iff, Except.ok.injEq, Moment.mk.injEq]
      exact and_iff_right rfl
    rw [readBy_eq_readIsoBy (letter_mem_toText moment)]
    exact ⟨readBack, readBack⟩
  · have colon : ':' ∈ clock.toPattern.toList := by simp [WallClock.toPattern]
    obtain ⟨fault, refused⟩ := Number.readInteger_of_foreign isForeign_colon colon
    rw [readBy_eq_readPattern refused (letter_notMem_toPattern clock),
      readBy_eq_readIsoBy (letter_mem_toIso clock)]
    exact ⟨readPattern_toPattern rule whole, readIsoBy_toIso rule clock, readIsoBy_toIso rule clock⟩

/-- A summer evening in Berlin is placed there, in any of the forms. -/
theorem berlin_summer_read_back :
    let clock : WallClock := ⟨⟨2024, 7, 31, by decide⟩, ⟨23, 59, 58, 0, by decide⟩⟩
    clock.toPattern = "2024-07-31 23:59:58" ∧ clock.toIso = "2024-07-31T23:59:58" ∧
      clock.time.micro = 0 ∧
      (Zone.berlin.rule.place clock).toText = "2024-07-31T23:59:58+02:00" ∧
      readBy Zone.berlin.rule clock.toPattern = .ok (Zone.berlin.rule.place clock) ∧
      readIsoBy Zone.berlin.rule clock.toIso = .ok (Zone.berlin.rule.place clock) ∧
      readBy Zone.berlin.rule clock.toIso = .ok (Zone.berlin.rule.place clock) :=
  ⟨by decide +kernel, by decide +kernel, rfl, by decide +kernel,
    (readBy_written Zone.berlin.rule).2 _ rfl⟩

/-- An offset of a microsecond is lost: the moment that is read is on the UTC clock, and is another
    one. -/
theorem microsecond_offset_lost :
    let moment : Moment := ⟨⟨⟨2024, 1, 1, by decide⟩, .midnight⟩, ⟨1, by decide⟩⟩
    moment.toText = "2024-01-01T00:00:00+00:00:00.000001" ∧
      readBy Zone.utc.rule moment.toText = .ok { moment with offset := .zero } ∧
      readBy Zone.utc.rule moment.toText ≠ .ok moment := by
  decide +kernel

end Timestamp

end Telematics
