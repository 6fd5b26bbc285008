import Telematics.Text.Charset

/-!
What texts in UTF-8 keep of their bytes. Reading them never fails altogether, and the ASCII
characters of a text are bytes of their own: as often as such a character stands in the text, its
byte stands in the bytes, whatever else is ill-formed.

* `Scan.IsSound`: what is true of a scan between two bytes. `Scan.IsSound.feed`: a byte keeps it so.
* `count_lossyText_utf8Pieces`: ASCII characters are counted in the bytes.
* `readOrLatin1_utf8`, `readLossy_utf8`: reading in UTF-8 gives a text.
* `readLossy_utf8_ne_nil`: where there are bytes, there is text.
-/

namespace Telematics.Text

/-- How often a character stands in the text of pieces. -/
def countIn (c : Char) (pieces : List Piece) : Nat := (lossyText pieces).count c

theorem countIn_cons (c : Char) (piece : Piece) (rest : List Piece) :
    countIn c (piece :: rest) = piece.shown.count c + countIn c rest := by
  simp [countIn, lossyText, List.count_append]

theorem countIn_reverse (c : Char) (pieces : List Piece) :
    countIn c pieces.reverse = countIn c pieces := by
  induction pieces with
  | nil => rfl
  | cons piece rest ih =>
    rw [countIn_cons, ← ih, List.reverse_cons]
    simp [countIn, lossyText, List.count_append, Nat.add_comm]

/-- A character other than null that is a byte of its own. -/
structure IsPlain (c : Char) : Prop where
  visible : 0 < c.toNat
  ascii : c.toNat < 0x80

/-- The byte of an ASCII character. -/
def plainByte (c : Char) : UInt8 := c.toNat.toUInt8

section Plain

variable {c : Char} (plain : IsPlain c)

include plain

theorem IsPlain.eq_ofNat_iff {n : Nat} : Char.ofNat n = c ↔ n = c.toNat := by
  constructor
  · rintro rfl
    have visible := plain.visible
    by_cases valid : n.isValidChar
    · have same : Char.ofNat n = Char.ofNatAux n valid := dif_pos valid
      rw [same]
      rfl
    · have none : Char.ofNat n = '\x00' := dif_neg valid
      rw [none] at visible
      exact absurd visible (by decide)
  · rintro rfl
    exact Char.ofNat_toNat c

theorem IsPlain.eq_plainByte_iff {byte : UInt8} : byte = plainByte c ↔ byte.toNat = c.toNat := by
  have ascii := plain.ascii
  rw [← UInt8.toNat_inj, plainByte, Nat.toUInt8, UInt8.toNat_ofNat', Nat.mod_eq_of_lt (by omega)]

theorem IsPlain.not_replacement : c ≠ replacement := by
  rintro rfl
  exact absurd plain.ascii (by decide)

/-- An ill-formed piece shows no ASCII character. -/
theorem IsPlain.count_illFormed {bytes : List UInt8} {fault : ByteFault} :
    (Piece.illFormed bytes fault).shown.count c = 0 := by
  simp [Piece.shown, plain.not_replacement.symm]

/-- A piece of one character shows that character. -/
theorem IsPlain.count_char {n size : Nat} :
    (Piece.char (Char.ofNat n) size).shown.count c = if n = c.toNat then 1 else 0 := by
  simp [Piece.shown, List.count_singleton, plain.eq_ofNat_iff]

end Plain

/-- What is true of a character that has begun: it will be none of the ASCII characters, and not all
    of its first byte is gone before its last one. -/
structure Pending.IsHigh (pending : Pending) : Prop where
  low : 0x80 ≤ pending.low
  next : 2 ≤ pending.value * 64 + (pending.low - 0x80)
  last : pending.left = 1 → 2 ≤ pending.value

/-- What is true of a scan between two bytes. -/
structure Scan.IsSound (scan : Scan) : Prop where
  whole : .broken ∉ scan.pieces
  high : ∀ pending, scan.pending = some pending → pending.IsHigh

theorem Scan.isSound_start {pieces : List Piece} (whole : .broken ∉ pieces) (byte : UInt8) :
    (Scan.start pieces byte).IsSound := by
  have begun : ∀ pending : Pending, pending.IsHigh → (⟨pieces, some pending⟩ : Scan).IsSound := by
    rintro pending high
    exact ⟨whole, by rintro _ ⟨⟩; exact high⟩
  have ended : ∀ piece, piece ≠ .broken → (⟨piece :: pieces, none⟩ : Scan).IsSound := by
    intro piece fine
    exact ⟨by simp [whole, Ne.symm fine], by rintro _ ⟨⟩⟩
  unfold Scan.start
  dsimp only
  -- One case for each kind of byte: a character, no beginning, or a beginning of two to four bytes.
  split
  · exact ended _ nofun
  split
  · exact ended _ nofun
  split
  · exact begun _ ⟨Nat.le_refl _, by dsimp only; omega, by dsimp only; omega⟩
  split
  · exact begun _ ⟨by dsimp only; split <;> omega, by dsimp only; split <;> omega, nofun⟩
  split
  · exact begun _ ⟨by dsimp only; split <;> omega, by dsimp only; split <;> omega, nofun⟩
  · exact ended _ nofun

/-- A byte between characters is counted if it is the character. -/
theorem Scan.count_start {c : Char} (plain : IsPlain c) (pieces : List Piece) (byte : UInt8) :
    countIn c (Scan.start pieces byte).pieces =
      countIn c pieces + if byte = plainByte c then 1 else 0 := by
  have ascii := plain.ascii
  simp only [plain.eq_plainByte_iff]
  by_cases short : byte.toNat < 0x80
  · simp only [Scan.start, short, if_true, countIn_cons, plain.count_char]
    omega
  · have other : byte.toNat ≠ c.toNat := by omega
    rw [if_neg other]
    unfold Scan.start
    simp only [short, if_false]
    repeat' split
    all_goals simp only [countIn_cons, plain.count_illFormed, Nat.zero_add, Nat.add_zero]

theorem Scan.IsSound.feed {scan : Scan} (sound : scan.IsSound) (byte : UInt8) :
    (scan.feed byte).IsSound := by
  unfold Scan.feed
  split
  · exact Scan.isSound_start sound.whole byte
  rename_i pending begun
  obtain ⟨low, next, last⟩ := sound.high pending begun
  split
  · rename_i fits
    dsimp only
    split
    · exact ⟨by simp [sound.whole], by rintro _ ⟨⟩⟩
    · refine ⟨sound.whole, ?_⟩
      rintro _ ⟨⟩
      exact ⟨Nat.le_refl _, by dsimp only; omega, by dsimp only; omega⟩
  · exact Scan.isSound_start (by simp [sound.whole]) byte

/-- A byte is counted if it is the character, whatever has begun. -/
theorem Scan.IsSound.count_feed {scan : Scan} (sound : scan.IsSound) {c : Char} (plain : IsPlain c)
    (byte : UInt8) :
    countIn c (scan.feed byte).pieces =
      countIn c scan.pieces + if byte = plainByte c then 1 else 0 := by
  have ascii := plain.ascii
  unfold Scan.feed
  split
  · exact Scan.count_start plain scan.pieces byte
  rename_i pending begun
  obtain ⟨low, next, last⟩ := sound.high pending begun
  split
  · rename_i fits
    -- A byte inside a character is no ASCII character, and neither is the character that it ends.
    have other : byte ≠ plainByte c := by
      rw [Ne, plain.eq_plainByte_iff]
      omega
    rw [if_neg other]
    dsimp only
    split
    · rename_i final
      have beyond : pending.value * 64 + (byte.toNat - 0x80) ≠ c.toNat := by
        have := last final
        omega
      simp only [countIn_cons, plain.count_char, if_neg beyond, Nat.zero_add, Nat.add_zero]
    · rfl
  · rw [Scan.count_start plain, countIn_cons, plain.count_illFormed, Nat.zero_add]

/-- A scan of bytes stays sound, and counts the bytes of a character. -/
theorem Scan.IsSound.foldl {scan : Scan} (sound : scan.IsSound) {c : Char} (plain : IsPlain c)
    (bytes : List UInt8) :
    (bytes.foldl Scan.feed scan).IsSound ∧
      countIn c (bytes.foldl Scan.feed scan).pieces =
        countIn c scan.pieces + bytes.count (plainByte c) := by
  induction bytes generalizing scan with
  | nil => exact ⟨sound, rfl⟩
  | cons byte rest ih =>
    obtain ⟨kept, counted⟩ := ih (sound.feed byte)
    refine ⟨kept, ?_⟩
    rw [List.foldl_cons, counted, sound.count_feed plain, List.count_cons]
    simp only [beq_iff_eq]
    omega

theorem isSound_empty : (⟨[], none⟩ : Scan).IsSound := ⟨List.not_mem_nil, by rintro _ ⟨⟩⟩

/-- No bytes fail altogether in UTF-8. -/
theorem broken_notMem_utf8Pieces (bytes : List UInt8) : .broken ∉ utf8Pieces bytes := by
  obtain ⟨sound, -⟩ := isSound_empty.foldl (c := ' ') ⟨by decide, by decide⟩ bytes
  unfold utf8Pieces Scan.finish
  split <;> simp [sound.whole]

/-- The ASCII characters of a text in UTF-8 are counted in its bytes. -/
theorem count_lossyText_utf8Pieces {c : Char} (plain : IsPlain c) (bytes : List UInt8) :
    (lossyText (utf8Pieces bytes)).count c = bytes.count (plainByte c) := by
  obtain ⟨-, counted⟩ := isSound_empty.foldl plain bytes
  have shown : countIn c (utf8Pieces bytes) =
      countIn c (bytes.foldl Scan.feed ⟨[], none⟩).pieces := by
    unfold utf8Pieces Scan.finish
    split
    · exact countIn_reverse c _
    · rw [countIn_reverse, countIn_cons, plain.count_illFormed, Nat.zero_add]
  rw [show (lossyText (utf8Pieces bytes)).count c = countIn c (utf8Pieces bytes) from rfl, shown,
    counted]
  simp [countIn, lossyText]

/-! ## Reading -/

/-- Pieces of which none fails altogether are a text, or one of them is ill-formed. -/
theorem strictTextFrom_cases (encoding : String) (position : Nat) (read : List Char)
    {pieces : List Piece} (whole : .broken ∉ pieces) :
    (∃ text, strictTextFrom encoding position read pieces = .ok text) ∨
      ∃ error, strictTextFrom encoding position read pieces = .error (.bytes error) := by
  induction pieces generalizing position read with
  | nil => exact .inl ⟨_, rfl⟩
  | cons piece rest ih =>
    obtain ⟨fine, behind⟩ := not_or.mp (mt List.mem_cons.mpr whole)
    cases piece with
    | char c size => exact ih _ _ behind
    | pair first second size => exact ih _ _ behind
    | mark size => exact ih _ _ behind
    | illFormed bytes fault => exact .inr ⟨_, rfl⟩
    | broken => exact absurd rfl fine

theorem count_latin1Text {c : Char} (plain : IsPlain c) (bytes : List UInt8) :
    (latin1Text bytes).count c = bytes.count (plainByte c) := by
  induction bytes with
  | nil => rfl
  | cons byte rest ih =>
    rw [latin1Text, List.map_cons, List.count_cons, List.count_cons, ← ih]
    have same : (Char.ofNat byte.toNat == c) = (byte == plainByte c) := by
      rw [Bool.eq_iff_iff, beq_iff_eq, beq_iff_eq, plain.eq_ofNat_iff, plain.eq_plainByte_iff]
    rw [same]
    rfl

/-- Bytes that are read in UTF-8, or else as Latin-1, give a text, and its ASCII characters are
    counted in the bytes. -/
theorem readOrLatin1_utf8 (bytes : List UInt8) :
    ∃ text, Charset.utf8.readOrLatin1 bytes = .ok text ∧
      ∀ c, IsPlain c → text.count c = bytes.count (plainByte c) := by
  by_cases empty : bytes = []
  · subst empty
    exact ⟨[], rfl, fun _ _ => rfl⟩
  have read : Charset.utf8.read bytes = strictText utf8Name (utf8Pieces bytes) := if_neg empty
  rcases strictTextFrom_cases utf8Name 0 [] (broken_notMem_utf8Pieces bytes) with
    ⟨text, found⟩ | ⟨error, failed⟩
  · refine ⟨text, by rw [Charset.readOrLatin1, read, strictText, found], fun c plain => ?_⟩
    rw [← (lossyText_of_strictText found).1, count_lossyText_utf8Pieces plain]
  · refine ⟨latin1Text bytes, by rw [Charset.readOrLatin1, read, strictText, failed], ?_⟩
    exact fun c plain => count_latin1Text plain bytes

/-- Bytes that are read in UTF-8 with replacement characters give a text. -/
theorem readLossy_utf8 (bytes : List UInt8) : ∃ text, Charset.utf8.readLossy bytes = .ok text := by
  by_cases empty : bytes = []
  · exact ⟨[], if_pos empty⟩
  · have read : Charset.utf8.readLossy bytes = (Encoding.utf8.reading true bytes).lossy :=
      if_neg empty
    exact ⟨lossyText (utf8Pieces bytes), read.trans (if_neg (broken_notMem_utf8Pieces bytes))⟩

/-! ## Bytes to show -/

/-- A scan has bytes to show: a piece that is seen, or a character that has begun. -/
def Scan.IsFilled (scan : Scan) : Prop :=
  scan.pending.isSome = true ∨ ∃ piece ∈ scan.pieces, piece.shown ≠ []

theorem Scan.isFilled_start (pieces : List Piece) (byte : UInt8) :
    (Scan.start pieces byte).IsFilled := by
  have ended : ∀ piece : Piece, piece.shown ≠ [] → (⟨piece :: pieces, none⟩ : Scan).IsFilled :=
    fun piece seen => .inr ⟨piece, List.mem_cons_self, seen⟩
  unfold Scan.start
  dsimp only
  repeat' split
  all_goals
    first
    | exact .inl rfl
    | exact ended _ (List.cons_ne_nil _ _)

/-- A byte is a piece of its own, or belongs to a character. -/
theorem Scan.isFilled_feed (scan : Scan) (byte : UInt8) : (scan.feed byte).IsFilled := by
  unfold Scan.feed
  split
  · exact Scan.isFilled_start _ _
  split
  · dsimp only
    split
    · exact .inr ⟨_, List.mem_cons_self, List.cons_ne_nil _ _⟩
    · exact .inl rfl
  · exact Scan.isFilled_start _ _

/-- Bytes in UTF-8 have a character to show, be it a replacement character. -/
theorem lossyText_utf8Pieces_ne_nil {bytes : List UInt8} (filled : bytes ≠ []) :
    lossyText (utf8Pieces bytes) ≠ [] := by
  obtain ⟨front, last, rfl⟩ := List.eq_nil_or_concat bytes |>.resolve_left filled
  have seen : ∀ {pieces : List Piece}, (∃ piece ∈ pieces, piece.shown ≠ []) →
      lossyText pieces.reverse ≠ [] := by
    rintro pieces ⟨piece, among, shown⟩ nothing
    exact shown (List.flatMap_eq_nil_iff.mp nothing piece (List.mem_reverse.mpr among))
  have filled := Scan.isFilled_feed (front.foldl Scan.feed ⟨[], none⟩) last
  rw [utf8Pieces, List.concat_eq_append, List.foldl_append, List.foldl_cons, List.foldl_nil]
  unfold Scan.finish
  split
  · rename_i ended
    refine seen (filled.resolve_left ?_)
    simp [ended]
  · exact seen ⟨_, List.mem_cons_self, List.cons_ne_nil _ _⟩

/-- Where there are bytes, there is text. -/
theorem readLossy_utf8_ne_nil {bytes : List UInt8} {text : List Char} (filled : bytes ≠ [])
    (read : Charset.utf8.readLossy bytes = .ok text) : text ≠ [] := by
  have shown : Charset.utf8.readLossy bytes = .ok (lossyText (utf8Pieces bytes)) :=
    (if_neg filled).trans (if_neg (broken_notMem_utf8Pieces bytes))
  rw [shown] at read
  cases read
  exact lossyText_utf8Pieces_ne_nil filled

end Telematics.Text
