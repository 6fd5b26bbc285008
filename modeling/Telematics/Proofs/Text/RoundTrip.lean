import Telematics.Proofs.Text.Utf8
import Telematics.Text.Percent

/-!
Texts that are written as bytes, and read back.

* `feed_utf8Char`: the bytes of a character are one piece.
* `readUtf8_utf8Bytes`: the bytes of a text in UTF-8 are that text.
* `Escapes`: how bytes are written with percent escapes. `percentDecode_of_escapes`: they are read
  back.
* `escapes_percentEncode`: texts are written so.
-/

namespace Telematics.Text

/-! ## UTF-8 -/

theorem toNat_toUInt8 {n : Nat} (small : n < 256) : n.toUInt8.toNat = n := by
  rw [Nat.toUInt8, UInt8.toNat_ofNat', Nat.mod_eq_of_lt small]

section Feed

variable {pieces : List Piece} {p : Pending} {byte : UInt8}

/-- A byte inside a character that is not its last one. -/
theorem feed_middle (fits : p.low ≤ byte.toNat ∧ byte.toNat ≤ p.high) (more : p.left ≠ 1) :
    Scan.feed ⟨pieces, some p⟩ byte = ⟨pieces, some ⟨byte :: p.bytes, p.left - 1, 0x80, 0xbf,
      p.value * 64 + (byte.toNat - 0x80)⟩⟩ := by
  simp only [Scan.feed, if_pos fits, if_neg more]

/-- The last byte of a character. -/
theorem feed_last (fits : p.low ≤ byte.toNat ∧ byte.toNat ≤ p.high) (last : p.left = 1) :
    Scan.feed ⟨pieces, some p⟩ byte =
      ⟨.char (Char.ofNat (p.value * 64 + (byte.toNat - 0x80))) (p.bytes.length + 1) :: pieces,
        none⟩ := by
  simp only [Scan.feed, if_pos fits, if_pos last]

end Feed

/-- Code points are below 0x110000, and none of them is half of a pair. -/
theorem toNat_lt_or (c : Char) : c.toNat < 0xd800 ∨ 0xdfff < c.toNat ∧ c.toNat < 0x110000 :=
  c.valid

section Start

variable (pieces : List Piece) {lead : Nat}

/-- The first byte of a character of two bytes. -/
theorem start_two (least : 2 ≤ lead) (small : lead < 32) :
    Scan.start pieces (0xc0 + lead).toUInt8 =
      ⟨pieces, some ⟨[(0xc0 + lead).toUInt8], 1, 0x80, 0xbf, lead⟩⟩ := by
  have byte : (0xc0 + lead).toUInt8.toNat = 0xc0 + lead := toNat_toUInt8 (by omega)
  simp only [Scan.start, byte]
  rw [if_neg (by omega), if_neg (by omega), if_pos (by omega), Nat.add_sub_cancel_left]

/-- The first byte of a character of three bytes. -/
theorem start_three (small : lead < 16) :
    Scan.start pieces (0xe0 + lead).toUInt8 =
      ⟨pieces, some ⟨[(0xe0 + lead).toUInt8], 2, if lead = 0 then 0xa0 else 0x80,
        if lead = 13 then 0x9f else 0xbf, lead⟩⟩ := by
  have byte : (0xe0 + lead).toUInt8.toNat = 0xe0 + lead := toNat_toUInt8 (by omega)
  have first : 0xe0 + lead = 0xe0 ↔ lead = 0 := by omega
  have pairs : 0xe0 + lead = 0xed ↔ lead = 13 := by omega
  simp only [Scan.start, byte, first, pairs]
  rw [if_neg (by omega), if_neg (by omega), if_neg (by omega), if_pos (by omega),
    Nat.add_sub_cancel_left]

/-- The first byte of a character of four bytes. -/
theorem start_four (small : lead < 5) :
    Scan.start pieces (0xf0 + lead).toUInt8 =
      ⟨pieces, some ⟨[(0xf0 + lead).toUInt8], 3, if lead = 0 then 0x90 else 0x80,
        if lead = 4 then 0x8f else 0xbf, lead⟩⟩ := by
  have byte : (0xf0 + lead).toUInt8.toNat = 0xf0 + lead := toNat_toUInt8 (by omega)
  have first : 0xf0 + lead = 0xf0 ↔ lead = 0 := by omega
  have last : 0xf0 + lead = 0xf4 ↔ lead = 4 := by omega
  simp only [Scan.start, byte, first, last]
  rw [if_neg (by omega), if_neg (by omega), if_neg (by omega), if_neg (by omega),
    if_pos (by omega), Nat.add_sub_cancel_left]

end Start

/-- The bytes of a character are one piece. -/
theorem feed_utf8Char (pieces : List Piece) (c : Char) :
    (utf8Char c).foldl Scan.feed ⟨pieces, none⟩ =
      ⟨.char c (utf8Char c).length :: pieces, none⟩ := by
  have valid := toNat_lt_or c
  have back : Char.ofNat c.toNat = c := Char.ofNat_toNat c
  have byte : ∀ part, part < 64 → (0x80 + part).toUInt8.toNat = 0x80 + part :=
    fun part small => toNat_toUInt8 (by omega)
  unfold utf8Char
  generalize c.toNat = n at valid back
  dsimp only
  -- One case for each number of bytes.
  split
  · rename_i one
    have whole : n.toUInt8.toNat = n := toNat_toUInt8 (by omega)
    show Scan.start pieces n.toUInt8 = _
    simp only [Scan.start, whole, if_pos one, back]
    rfl
  split
  · rename_i one two
    have whole : n / 64 * 64 + (0x80 + n % 64 - 0x80) = n := by omega
    show Scan.feed (Scan.start pieces (0xc0 + n / 64).toUInt8) (0x80 + n % 64).toUInt8 = _
    rw [start_two pieces (by omega) (by omega),
      feed_last (by rw [byte _ (by omega)]; dsimp only; omega) rfl, byte _ (by omega), whole, back]
    rfl
  split
  · rename_i one two three
    have whole :
        (n / 4096 * 64 + (0x80 + n / 64 % 64 - 0x80)) * 64 + (0x80 + n % 64 - 0x80) = n := by
      omega
    show Scan.feed (Scan.feed (Scan.start pieces (0xe0 + n / 4096).toUInt8)
      (0x80 + n / 64 % 64).toUInt8) (0x80 + n % 64).toUInt8 = _
    rw [start_three pieces (by omega),
      feed_middle (by rw [byte _ (by omega)]; dsimp only; split <;> split <;> omega)
        (by dsimp only; omega), byte _ (by omega),
      feed_last (by rw [byte _ (by omega)]; dsimp only; omega) rfl, byte _ (by omega), whole, back]
    rfl
  · rename_i one two three
    have whole : ((n / 262144 * 64 + (0x80 + n / 4096 % 64 - 0x80)) * 64 +
        (0x80 + n / 64 % 64 - 0x80)) * 64 + (0x80 + n % 64 - 0x80) = n := by omega
    show Scan.feed (Scan.feed (Scan.feed (Scan.start pieces (0xf0 + n / 262144).toUInt8)
      (0x80 + n / 4096 % 64).toUInt8) (0x80 + n / 64 % 64).toUInt8) (0x80 + n % 64).toUInt8 = _
    rw [start_four pieces (by omega),
      feed_middle (by rw [byte _ (by omega)]; dsimp only; split <;> split <;> omega)
        (by dsimp only; omega), byte _ (by omega),
      feed_middle (by rw [byte _ (by omega)]; dsimp only; omega) (by dsimp only; omega),
      byte _ (by omega), feed_last (by rw [byte _ (by omega)]; dsimp only; omega) rfl,
      byte _ (by omega), whole, back]
    rfl

/-- The pieces of a text in UTF-8 are its characters. -/
theorem utf8Pieces_utf8Bytes (text : List Char) :
    utf8Pieces (utf8Bytes text) = text.map fun c => .char c (utf8Char c).length := by
  have fed : ∀ (pieces : List Piece), (utf8Bytes text).foldl Scan.feed ⟨pieces, none⟩ =
      ⟨(text.map fun c => Piece.char c (utf8Char c).length).reverse ++ pieces, none⟩ := by
    induction text with
    | nil => exact fun _ => rfl
    | cons c rest ih =>
      intro pieces
      rw [utf8Bytes, List.flatMap_cons, List.foldl_append, feed_utf8Char]
      show (utf8Bytes rest).foldl Scan.feed _ = _
      rw [ih, List.map_cons, List.reverse_cons, List.append_assoc]
      rfl
  rw [utf8Pieces, fed, List.append_nil]
  exact List.reverse_reverse _

theorem strictTextFrom_chars (encoding : String) (size : Char → Nat) (text read : List Char)
    (position : Nat) :
    strictTextFrom encoding position read (text.map fun c => .char c (size c)) =
      .ok (read.reverse ++ text) := by
  induction text generalizing read position with
  | nil => rw [List.append_nil]; rfl
  | cons c rest ih =>
    show strictTextFrom encoding (position + size c) (c :: read) _ = _
    rw [ih, List.reverse_cons, List.append_assoc]
    rfl

/-- The bytes of a text in UTF-8 are that text. -/
theorem readUtf8_utf8Bytes (text : List Char) : readUtf8 (utf8Bytes text) = .ok text := by
  rw [readUtf8, utf8Pieces_utf8Bytes, strictText, strictTextFrom_chars]
  rfl

theorem read_utf8Bytes (text : List Char) : Charset.utf8.read (utf8Bytes text) = .ok text := by
  have found := readUtf8_utf8Bytes text
  unfold Charset.read
  split
  · rename_i empty
    rw [empty] at found
    exact found
  · exact found

theorem readOrLatin1_utf8Bytes (text : List Char) :
    Charset.utf8.readOrLatin1 (utf8Bytes text) = .ok text := by
  rw [Charset.readOrLatin1, read_utf8Bytes]

theorem readLossy_utf8Bytes (text : List Char) :
    Charset.utf8.readLossy (utf8Bytes text) = .ok text :=
  Charset.readLossy_eq_of_read (read_utf8Bytes text)

/-- Texts with the same bytes are the same. -/
theorem utf8Bytes_injective {one other : List Char} (same : utf8Bytes one = utf8Bytes other) :
    one = other := by
  have read := readUtf8_utf8Bytes one
  rw [same, readUtf8_utf8Bytes] at read
  exact (Except.ok.inj read).symm

theorem ascii_of_all {text : List Char} (all : text.all (·.toNat < 0x80) = true) :
    ∀ c ∈ text, c.toNat < 0x80 := by
  simpa using all

/-- An ASCII character is one byte. -/
theorem utf8Bytes_cons_of_ascii {c : Char} (ascii : c.toNat < 0x80) (text : List Char) :
    utf8Bytes (c :: text) = c.toNat.toUInt8 :: utf8Bytes text := by
  have one : utf8Char c = [c.toNat.toUInt8] := if_pos ascii
  rw [utf8Bytes, List.flatMap_cons, one]
  rfl

/-- A text of ASCII characters has as many bytes. -/
theorem length_utf8Bytes_of_ascii {text : List Char} (ascii : ∀ c ∈ text, c.toNat < 0x80) :
    (utf8Bytes text).length = text.length := by
  induction text with
  | nil => rfl
  | cons c rest ih =>
    obtain ⟨first, others⟩ := List.forall_mem_cons.mp ascii
    rw [utf8Bytes_cons_of_ascii first, List.length_cons, ih others, List.length_cons]

theorem utf8Bytes_append (front back : List Char) :
    utf8Bytes (front ++ back) = utf8Bytes front ++ utf8Bytes back :=
  List.flatMap_append

/-! ## Percent escapes -/

/-- How bytes are written with percent escapes: a byte may be escaped, and has to be if it is no
    ASCII character or the percent sign. -/
inductive Escapes : List UInt8 → List Char → Prop where
  | nil : Escapes [] []
  | plain {c : Char} {bytes : List UInt8} {text : List Char} :
      c.toNat < 0x80 → c ≠ '%' → Escapes bytes text → Escapes (c.toNat.toUInt8 :: bytes) (c :: text)
  | escaped {high low : Char} {b : UInt8} {bytes : List UInt8} {text : List Char} :
      escapedByte? high low = some b → Escapes bytes text →
      Escapes (b :: bytes) ('%' :: high :: low :: text)

section Escapes

variable {bytes : List UInt8} {text : List Char}

/-- Escaped bytes are read back. -/
theorem unescape_of_escapes (escapes : Escapes bytes text) (read : List Part) :
    unescape read text = read.reverse ++ bytes.map .byte := by
  induction escapes generalizing read with
  | nil => exact (List.append_nil _).symm
  | @plain c bytes text ascii other _ ih =>
    have part : Part.ofChar c = .byte c.toNat.toUInt8 := if_pos ascii
    rw [unescape.eq_def]
    dsimp only
    rw [if_neg other, part, ih, List.reverse_cons, List.append_assoc]
    rfl
  | escaped byte _ ih =>
    rw [unescape.eq_def]
    dsimp only
    rw [if_pos rfl, byte]
    dsimp only
    rw [ih, List.reverse_cons, List.append_assoc]
    rfl

/-- Bytes that are written without an escape are the characters. -/
theorem utf8Bytes_of_escapes (escapes : Escapes bytes text) (plain : '%' ∉ text) :
    utf8Bytes text = bytes := by
  induction escapes with
  | nil => rfl
  | @plain c bytes text ascii _ _ ih =>
    rw [utf8Bytes_cons_of_ascii ascii]
    exact congrArg _ (ih fun among => plain (List.mem_cons_of_mem c among))
  | escaped => exact absurd List.mem_cons_self plain

/-- The bytes of escapes are those that were written. -/
theorem percentBytes_of_escapes (escapes : Escapes bytes text) : percentBytes text = bytes := by
  rw [percentBytes, unescape_of_escapes escapes, List.reverse_nil, List.nil_append,
    List.flatMap_map]
  exact List.flatMap_singleton' bytes

/-- Escapes side by side are those of the bytes side by side. -/
theorem Escapes.append {later : List UInt8} {rest : List Char} (escapes : Escapes bytes text)
    (others : Escapes later rest) : Escapes (bytes ++ later) (text ++ rest) := by
  induction escapes with
  | nil => exact others
  | plain ascii other _ ih => exact .plain ascii other ih
  | escaped byte _ ih => exact .escaped byte ih

/-- A text of ASCII characters without a percent sign may stay as it is. -/
theorem escapes_of_ascii (ascii : ∀ c ∈ text, c.toNat < 0x80) (plain : '%' ∉ text) :
    Escapes (utf8Bytes text) text := by
  induction text with
  | nil => exact .nil
  | cons c rest ih =>
    obtain ⟨first, others⟩ := List.forall_mem_cons.mp ascii
    obtain ⟨other, plain⟩ := not_or.mp (mt List.mem_cons.mpr plain)
    rw [utf8Bytes_cons_of_ascii first]
    exact .plain first (Ne.symm other) (ih others plain)

/-- A hexadecimal digit is an ASCII character. -/
theorem ascii_of_hexValue? {c : Char} {value : Nat} (worth : hexValue? c = some value) :
    c.toNat < 0x80 := by
  have below : ∀ last : Char, c ≤ last → c.toNat ≤ last.toNat := fun last least => least
  unfold hexValue? at worth
  split at worth
  · rename_i inside
    exact Nat.lt_of_le_of_lt (below _ inside.2) (by decide)
  · split at worth
    · rename_i inside
      exact Nat.lt_of_le_of_lt (below _ inside.2) (by decide)
    · split at worth
      · rename_i inside
        exact Nat.lt_of_le_of_lt (below _ inside.2) (by decide)
      · cases worth

/-- Escapes are written in ASCII. -/
theorem Escapes.ascii (escapes : Escapes bytes text) : ∀ c ∈ text, c.toNat < 0x80 := by
  induction escapes with
  | nil => exact nofun
  | plain ascii _ _ ih => exact List.forall_mem_cons.mpr ⟨ascii, ih⟩
  | escaped byte _ ih =>
    unfold escapedByte? at byte
    split at byte
    · rename_i one two
      exact List.forall_mem_cons.mpr ⟨by decide, List.forall_mem_cons.mpr
        ⟨ascii_of_hexValue? one, List.forall_mem_cons.mpr ⟨ascii_of_hexValue? two, ih⟩⟩⟩
    · cases byte

theorem decodeParts_bytes (charset : Charset) (bytes waiting : List UInt8) :
    decodeParts charset waiting (bytes.map .byte) =
      charset.readLossy (waiting.reverse ++ bytes) := by
  induction bytes generalizing waiting with
  | nil => rw [List.append_nil]; rfl
  | cons b bytes ih =>
    show decodeParts charset (b :: waiting) (bytes.map .byte) = _
    rw [ih, List.reverse_cons, List.append_assoc]
    rfl

/-- A text that is written with escapes is read back. -/
theorem percentDecode_of_escapes {plain : List Char} (escapes : Escapes (utf8Bytes plain) text) :
    percentDecode .utf8 text = .ok plain := by
  unfold percentDecode
  split
  · rw [unescape_of_escapes escapes]
    exact (decodeParts_bytes .utf8 (utf8Bytes plain) []).trans (readLossy_utf8Bytes plain)
  · rename_i unescaped
    have same := utf8Bytes_of_escapes escapes (by simpa using unescaped)
    rw [utf8Bytes_injective same]

end Escapes

/-! ## The writer of escapes -/

theorem percentByte_eq (b : UInt8) :
    percentByte b =
      ['%', (hexDigit (b.toNat / 16 % 16)).toUpper, (hexDigit (b.toNat % 16)).toUpper] := rfl

theorem hexValue?_toUpper : ∀ n, n < 16 → hexValue? (hexDigit n).toUpper = some n := by decide

theorem escapedByte?_percentByte (b : UInt8) :
    escapedByte? (hexDigit (b.toNat / 16 % 16)).toUpper (hexDigit (b.toNat % 16)).toUpper =
      some b := by
  have small := b.toNat_lt
  have high := hexValue?_toUpper (b.toNat / 16 % 16) (by omega)
  have low := hexValue?_toUpper (b.toNat % 16) (by omega)
  have whole : b.toNat / 16 % 16 * 16 + b.toNat % 16 = b.toNat := by omega
  rw [escapedByte?, high, low]
  dsimp only
  rw [whole, Nat.toUInt8, UInt8.ofNat_toNat]

/-- How a byte is written: as a character, if that may stay, and otherwise escaped. -/
def writtenByte (keep : Char → Bool) (b : UInt8) : List Char :=
  if b.toNat < 0x80 && keep (Char.ofNat b.toNat) then [Char.ofNat b.toNat] else percentByte b

theorem percentEncode_eq (keep : Char → Bool) (text : List Char) :
    percentEncode keep text = (utf8Bytes text).flatMap (writtenByte keep) := rfl

theorem toNat_ofNat_of_ascii {n : Nat} (ascii : n < 0x80) : (Char.ofNat n).toNat = n := by
  have valid : n.isValidChar := .inl (by omega)
  show (Char.ofNat n).toNat = n
  rw [Char.ofNat, dif_pos valid]
  rfl

section Writer

variable {keep : Char → Bool}

/-- Texts are written with escapes, if percent signs are escaped. -/
theorem escapes_percentEncode (percent : keep '%' = false) (text : List Char) :
    Escapes (utf8Bytes text) (percentEncode keep text) := by
  rw [percentEncode_eq]
  induction utf8Bytes text with
  | nil => exact .nil
  | cons b bytes ih =>
    rw [List.flatMap_cons, writtenByte]
    split
    · rename_i kept
      obtain ⟨ascii, stays⟩ := Bool.and_eq_true_iff.mp kept
      have code := toNat_ofNat_of_ascii (of_decide_eq_true ascii)
      have mark : Char.ofNat b.toNat ≠ '%' := by
        rintro same
        rw [same, percent] at stays
        cases stays
      have byte : (Char.ofNat b.toNat).toNat.toUInt8 = b := by
        rw [code, Nat.toUInt8, UInt8.ofNat_toNat]
      have escapes := Escapes.plain (by rw [code]; exact of_decide_eq_true ascii) mark ih
      rwa [byte] at escapes
    · rw [percentByte_eq]
      exact .escaped (escapedByte?_percentByte b) ih

/-- A mark that is escaped does not occur among escapes. -/
theorem notMem_percentEncode {mark : Char} (escaped : keep mark = false) (other : mark ≠ '%')
    (digit : ∀ n, n < 16 → mark ≠ (hexDigit n).toUpper) (text : List Char) :
    mark ∉ percentEncode keep text := by
  rw [percentEncode_eq, List.mem_flatMap]
  rintro ⟨b, -, among⟩
  have small := b.toNat_lt
  unfold writtenByte at among
  split at among
  · rename_i kept
    rw [List.mem_singleton.mp among, (Bool.and_eq_true_iff.mp kept).2] at escaped
    cases escaped
  · rw [percentByte_eq, List.mem_cons, List.mem_cons, List.mem_singleton] at among
    rcases among with same | same | same
    · exact other same
    · exact digit _ (by omega) same
    · exact digit _ (by omega) same

end Writer

end Telematics.Text
