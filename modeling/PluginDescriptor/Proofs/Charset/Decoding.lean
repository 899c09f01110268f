import Mathlib.Tactic.Common
import PluginDescriptor.Charset

/-!
# Decoding what was encoded

`Charset.decode` reads bytes as a text, strictly: what the charset does not produce is refused. The
main statement, `encode_recoverable`, says what is read back from an encoded text. It is the text
itself for the Unicode encodings, and the text with `?` for each character that the charset lacks
for the others, so texts are encoded alike exactly if they agree up to that.
-/

namespace PluginDescriptor.Charset

/-! ## Decoders -/

/-- A code unit that only counts if a low surrogate follows. -/
def isHighSurrogate (unit : UInt16) : Bool :=
  0xD800 ≤ unit.toNat && unit.toNat < 0xDC00

/-- A code unit that only counts behind a high surrogate. -/
def isLowSurrogate (unit : UInt16) : Bool :=
  0xDC00 ≤ unit.toNat && unit.toNat < 0xE000

/-- The character of a surrogate pair. -/
def pairedChar (high low : UInt16) : Char :=
  Char.ofNat (0x10000 + (high.toNat - 0xD800) * 0x400 + (low.toNat - 0xDC00))

/-- The characters of UTF-16 code units. A surrogate without its partner is refused. -/
def charsOfUnits : List UInt16 → Option (List Char)
  | [] => some []
  | unit :: rest =>
    if isHighSurrogate unit then
      match rest with
      | [] => none
      | low :: rest =>
        if isLowSurrogate low then (charsOfUnits rest).map (pairedChar unit low :: ·) else none
    else if isLowSurrogate unit then none
    else (charsOfUnits rest).map (Char.ofNat unit.toNat :: ·)

/-- The code unit of two bytes, the high one first. -/
def unitBE (high low : UInt8) : UInt16 :=
  UInt16.ofNat (high.toNat * 0x100 + low.toNat)

/-- The code unit of two bytes, the low one first. -/
def unitLE (low high : UInt8) : UInt16 :=
  unitBE high low

/-- The code units of bytes, two for each. A byte that is left over is refused. -/
def unitsOfBytes (unit : UInt8 → UInt8 → UInt16) : List UInt8 → Option (List UInt16)
  | [] => some []
  | [_] => none
  | first :: second :: rest => (unitsOfBytes unit rest).map (unit first second :: ·)

/-- The text of UTF-16 bytes in one of the two byte orders. -/
def decodeUtf16 (unit : UInt8 → UInt8 → UInt16) (bytes : List UInt8) : Option String :=
  ((unitsOfBytes unit bytes).bind charsOfUnits).map String.ofList

/-- The text of the bytes of a single-byte charset. A byte that stands for nothing is refused. -/
def decodeSingleByte (limit : Nat) (bytes : List UInt8) : Option String :=
  (bytes.mapM fun byte =>
    if byte.toNat < limit then some (Char.ofNat byte.toNat) else none).map String.ofList

/-- The text of bytes. A byte-order mark is a character like any other, except at the front of
UTF-16 without a byte order, where it tells the order and is taken off. -/
def decode (charset : Charset) (bytes : List UInt8) : Option String :=
  match charset with
  | .utf8 => (ByteArray.mk bytes.toArray).utf8Decode?.map fun chars => String.ofList chars.toList
  | .usAscii => decodeSingleByte 0x80 bytes
  | .latin1 => decodeSingleByte 0x100 bytes
  | .utf16BE => decodeUtf16 unitBE bytes
  | .utf16LE => decodeUtf16 unitLE bytes
  | .utf16 =>
    match bytes with
    | 0xFE :: 0xFF :: rest => decodeUtf16 unitBE rest
    | 0xFF :: 0xFE :: rest => decodeUtf16 unitLE rest
    | bytes => decodeUtf16 unitBE bytes

/-- The first code point that a single-byte charset lacks. The other charsets lack none. -/
def firstMissing : Charset → Option Nat
  | .utf8 => none
  | .usAscii => some 0x80
  | .latin1 => some 0x100
  | .utf16BE => none
  | .utf16LE => none
  | .utf16 => none

/-- A character, or `?` for a character from a code point on. -/
def replaceChar (limit : Nat) (c : Char) : Char :=
  if c.toNat < limit then c else '?'

/-- The text with `?` for each character from a code point on. -/
def replaceFrom (limit : Nat) (text : String) : String :=
  text.map (replaceChar limit)

/-! ## UTF-16 -/

/-- A character below U+10000 has one code unit, which is no surrogate. -/
theorem utf16_units_of_lt {c : Char} (h : c.toNat < 0x10000) :
    ∃ unit, utf16Units c = [unit] ∧ unit.toNat = c.toNat ∧ isHighSurrogate unit = false ∧
      isLowSurrogate unit = false := by
  have hunit : (UInt16.ofNat c.toNat).toNat = c.toNat := by
    rw [UInt16.toNat_ofNat']
    omega
  have hvalid : c.toNat < 0xD800 ∨ (0xDFFF < c.toNat ∧ c.toNat < 0x110000) := c.valid
  refine ⟨UInt16.ofNat c.toNat, by simp [utf16Units, h], hunit, ?_, ?_⟩
  · simp only [isHighSurrogate, hunit, Bool.and_eq_false_iff, decide_eq_false_iff_not]
    omega
  · simp only [isLowSurrogate, hunit, Bool.and_eq_false_iff, decide_eq_false_iff_not]
    omega

/-- A character from U+10000 on has a surrogate pair. -/
theorem utf16_units_of_ge {c : Char} (h : 0x10000 ≤ c.toNat) :
    ∃ high low, utf16Units c = [high, low] ∧ isHighSurrogate high = true ∧
      isLowSurrogate low = true ∧ pairedChar high low = c := by
  have hvalid : c.toNat < 0xD800 ∨ (0xDFFF < c.toNat ∧ c.toNat < 0x110000) := c.valid
  obtain ⟨high, hhigh⟩ : ∃ high, high = UInt16.ofNat (0xD800 + (c.toNat - 0x10000) / 0x400) :=
    ⟨_, rfl⟩
  obtain ⟨low, hlow⟩ : ∃ low, low = UInt16.ofNat (0xDC00 + (c.toNat - 0x10000) % 0x400) :=
    ⟨_, rfl⟩
  have hunits : utf16Units c = [high, low] := by
    simp only [utf16Units]
    rw [if_neg (Nat.not_lt.mpr h), hhigh, hlow]
  replace hhigh : high.toNat = 0xD800 + (c.toNat - 0x10000) / 0x400 := by
    rw [hhigh, UInt16.toNat_ofNat']
    omega
  replace hlow : low.toNat = 0xDC00 + (c.toNat - 0x10000) % 0x400 := by
    rw [hlow, UInt16.toNat_ofNat']
    omega
  refine ⟨high, low, hunits, ?_, ?_, ?_⟩
  · simp only [isHighSurrogate, hhigh, Bool.and_eq_true, decide_eq_true_eq]
    omega
  · simp only [isLowSurrogate, hlow, Bool.and_eq_true, decide_eq_true_eq]
    omega
  · have hcode : 0x10000 + (0xD800 + (c.toNat - 0x10000) / 0x400 - 0xD800) * 0x400 +
        (0xDC00 + (c.toNat - 0x10000) % 0x400 - 0xDC00) = c.toNat := by omega
    rw [pairedChar, hhigh, hlow, hcode, Char.ofNat_toNat]

/-- The characters from U+10000 on are those with a surrogate pair. -/
theorem surrogate_pair_iff (c : Char) : 0x10000 ≤ c.toNat ↔
    ∃ high low, utf16Units c = [high, low] ∧ isHighSurrogate high = true ∧
      isLowSurrogate low = true := by
  constructor
  · intro h
    obtain ⟨high, low, hunits, hhigh, hlow, _⟩ := utf16_units_of_ge h
    exact ⟨high, low, hunits, hhigh, hlow⟩
  · rintro ⟨high, low, hunits, _, _⟩
    by_contra hsmall
    obtain ⟨unit, hunit, _⟩ := utf16_units_of_lt (Nat.lt_of_not_le hsmall)
    rw [hunit] at hunits
    cases hunits

/-- The code units of a character are read as the character. -/
theorem chars_of_units_append (c : Char) (rest : List UInt16) :
    charsOfUnits (utf16Units c ++ rest) = (charsOfUnits rest).map (c :: ·) := by
  rcases Nat.lt_or_ge c.toNat 0x10000 with hsmall | hlarge
  · obtain ⟨unit, hunits, hcode, hhigh, hlow⟩ := utf16_units_of_lt hsmall
    rw [hunits, List.singleton_append, charsOfUnits.eq_def]
    simp only [hhigh, hlow, hcode, Char.ofNat_toNat, Bool.false_eq_true, if_false]
  · obtain ⟨high, low, hunits, hhigh, hlow, hpaired⟩ := utf16_units_of_ge hlarge
    rw [hunits, List.cons_append, List.singleton_append, charsOfUnits.eq_def]
    simp only [hhigh, hlow, hpaired, if_true]

/-- The code units of characters are read as the characters. -/
theorem chars_of_units (chars : List Char) :
    charsOfUnits (chars.flatMap utf16Units) = some chars := by
  induction chars with
  | nil => rfl
  | cons c rest ih => rw [List.flatMap_cons, chars_of_units_append, ih, Option.map_some]

/-- `Halves split unit` says that `unit` puts the two bytes of a code unit together in the order in
which `split` writes them. -/
def Halves (split : UInt16 → List UInt8) (unit : UInt8 → UInt8 → UInt16) : Prop :=
  ∀ original, ∃ first second, split original = [first, second] ∧ unit first second = original

/-- The high byte and the low byte of a code unit make up the code unit. -/
theorem unit_be_of_halves (unit : UInt16) :
    unitBE (UInt8.ofNat (unit.toNat / 0x100)) (UInt8.ofNat (unit.toNat % 0x100)) = unit := by
  have hsize : unit.toNat < 2 ^ 16 := unit.toNat_lt
  apply UInt16.toNat_inj.mp
  rw [unitBE, UInt16.toNat_ofNat', UInt8.toNat_ofNat', UInt8.toNat_ofNat']
  omega

/-- Big-endian bytes are put together with the high one first. -/
theorem halves_big_endian : Halves bigEndian unitBE := by
  intro unit
  exact ⟨UInt8.ofNat (unit.toNat / 0x100), UInt8.ofNat (unit.toNat % 0x100), rfl,
    unit_be_of_halves unit⟩

/-- Little-endian bytes are put together with the low one first. -/
theorem halves_little_endian : Halves littleEndian unitLE := by
  intro unit
  exact ⟨UInt8.ofNat (unit.toNat % 0x100), UInt8.ofNat (unit.toNat / 0x100), rfl,
    unit_be_of_halves unit⟩

variable {split : UInt16 → List UInt8} {unit : UInt8 → UInt8 → UInt16}

/-- Bytes are read as the code units they were split from. -/
theorem units_of_bytes (h : Halves split unit) (units : List UInt16) :
    unitsOfBytes unit (units.flatMap split) = some units := by
  induction units with
  | nil => rfl
  | cons original rest ih =>
      obtain ⟨first, second, hsplit, hunit⟩ := h original
      rw [List.flatMap_cons, hsplit]
      show unitsOfBytes unit (first :: second :: rest.flatMap split) = _
      rw [unitsOfBytes, ih, Option.map_some, hunit]

/-- A text is read back from UTF-16 in the byte order it was written in. -/
theorem decode_utf16 (h : Halves split unit) (text : String) :
    decodeUtf16 unit ((text.toList.flatMap utf16Units).flatMap split) = some text := by
  rw [decodeUtf16, units_of_bytes h, Option.bind_some, chars_of_units, Option.map_some,
    String.ofList_toList]

/-- A text in UTF-16 begins with the big-endian byte-order mark, and the text follows in that byte
order. -/
theorem encode_utf16 (text : String) :
    encode .utf16 text = 0xFE :: 0xFF :: encode .utf16BE text :=
  rfl

/-- A text is read back from UTF-16 that begins with its byte order. -/
theorem decode_marked_utf16 (text : String) : decode .utf16 (encode .utf16 text) = some text :=
  decode_utf16 halves_big_endian text

/-! ## UTF-8 -/

/-- A text is read back from UTF-8. -/
theorem decode_utf8 (text : String) : decode .utf8 (encode .utf8 text) = some text := by
  have hbytes : ByteArray.mk (encode .utf8 text).toArray = text.toList.utf8Encode := by
    rw [String.utf8Encode_toList]
    rfl
  rw [decode, hbytes, List.utf8Decode?_utf8Encode, Option.map_some, String.ofList_toList]

/-! ## Single bytes -/

variable {limit : Nat}

/-- The byte of a character is one of the charset, and stands for the character or for `?`. -/
theorem char_of_single_byte (hmin : 0x3F < limit) (hmax : limit ≤ 0x100) (c : Char) :
    (singleByte limit c).toNat < limit ∧
      Char.ofNat (singleByte limit c).toNat = replaceChar limit c := by
  unfold singleByte replaceChar
  by_cases h : c.toNat < limit
  · have hbyte : (UInt8.ofNat c.toNat).toNat = c.toNat := by
      rw [UInt8.toNat_ofNat']
      omega
    rw [if_pos h, if_pos h, hbyte, Char.ofNat_toNat]
    exact ⟨h, rfl⟩
  · rw [if_neg h, if_neg h]
    exact ⟨hmin, rfl⟩

/-- A missing character has the byte of its replacement. -/
theorem single_byte_of_replaced (hmin : 0x3F < limit) (c : Char) :
    singleByte limit (replaceChar limit c) = singleByte limit c := by
  by_cases h : c.toNat < limit
  · rw [replaceChar, if_pos h]
  · have hmark : '?'.toNat < limit := hmin
    rw [replaceChar, if_neg h, singleByte, if_pos hmark, singleByte, if_neg h]
    rfl

/-- The characters of single bytes are read one by one. -/
theorem mapM_single_bytes (hmin : 0x3F < limit) (hmax : limit ≤ 0x100) (chars : List Char) :
    ((chars.map (singleByte limit)).mapM fun byte =>
      if byte.toNat < limit then some (Char.ofNat byte.toNat) else none) =
      some (chars.map (replaceChar limit)) := by
  induction chars with
  | nil => rfl
  | cons c rest ih =>
      obtain ⟨hbyte, hchar⟩ := char_of_single_byte hmin hmax c
      rw [List.map_cons, List.mapM_cons, ih, if_pos hbyte, hchar]
      rfl

/-- A text is read back from single bytes with `?` for what the charset lacks. -/
theorem decode_single_bytes (hmin : 0x3F < limit) (hmax : limit ≤ 0x100) (text : String) :
    decodeSingleByte limit (text.toList.map (singleByte limit)) =
      some (replaceFrom limit text) := by
  rw [decodeSingleByte, mapM_single_bytes hmin hmax, ← String.toList_map, Option.map_some,
    String.ofList_toList]
  rfl

/-- The single bytes of a text are those of the text with `?` for what the charset lacks. -/
theorem single_bytes_of_replaced (hmin : 0x3F < limit) (text : String) :
    (replaceFrom limit text).toList.map (singleByte limit) =
      text.toList.map (singleByte limit) := by
  rw [replaceFrom, String.toList_map, List.map_map]
  apply List.map_congr_left
  intro c _
  exact single_byte_of_replaced hmin c

/-- Texts have the same single bytes exactly if they agree with `?` for what the charset lacks. -/
theorem single_bytes_eq_iff (hmin : 0x3F < limit) (hmax : limit ≤ 0x100) (text other : String) :
    text.toList.map (singleByte limit) = other.toList.map (singleByte limit) ↔
      replaceFrom limit text = replaceFrom limit other := by
  constructor
  · intro h
    have hdecoded := congrArg (decodeSingleByte limit) h
    rw [decode_single_bytes hmin hmax, decode_single_bytes hmin hmax] at hdecoded
    exact Option.some.inj hdecoded
  · intro h
    rw [← single_bytes_of_replaced hmin text, h, single_bytes_of_replaced hmin other]

/-! ## All charsets -/

/-- Where every text is read back, different texts are encoded differently. -/
theorem encode_eq_iff_of_decode {charset : Charset}
    (h : ∀ text, charset.decode (charset.encode text) = some text) (text other : String) :
    charset.encode text = charset.encode other ↔ text = other := by
  constructor
  · intro hsame
    have hdecoded := congrArg charset.decode hsame
    rw [h, h] at hdecoded
    exact Option.some.inj hdecoded
  · rintro rfl
    rfl

/-- What is read back from an encoded text. From a Unicode encoding it is the text, where a
character from U+10000 on is written in UTF-16 as a surrogate pair, and different texts are encoded
differently. UTF-16 without a byte order in its name is the big-endian one behind one byte-order
mark. From a single-byte charset it is the text with `?` for each character that the charset lacks,
at one byte for each character, and texts are encoded alike exactly if they agree then. -/
theorem encode_recoverable (charset : Charset) (text other : String) :
    (∀ c : Char, 0x10000 ≤ c.toNat ↔ ∃ high low, utf16Units c = [high, low] ∧
      isHighSurrogate high = true ∧ isLowSurrogate low = true) ∧
    encode .utf16 text = 0xFE :: 0xFF :: encode .utf16BE text ∧
    match charset.firstMissing with
    | none =>
      charset.decode (charset.encode text) = some text ∧
        (charset.encode text = charset.encode other ↔ text = other)
    | some limit =>
      charset.decode (charset.encode text) = some (replaceFrom limit text) ∧
        (charset.encode text).length = text.length ∧
        (charset.encode text = charset.encode other ↔
          replaceFrom limit text = replaceFrom limit other) := by
  refine ⟨surrogate_pair_iff, encode_utf16 text, ?_⟩
  have hbytes (limit : Nat) : (text.toList.map (singleByte limit)).length = text.length := by
    rw [List.length_map, String.length_toList]
  cases charset with
  | utf8 => exact ⟨decode_utf8 text, encode_eq_iff_of_decode decode_utf8 text other⟩
  | usAscii =>
      exact ⟨decode_single_bytes (by omega) (by omega) text, hbytes 0x80,
        single_bytes_eq_iff (by omega) (by omega) text other⟩
  | latin1 =>
      exact ⟨decode_single_bytes (by omega) (by omega) text, hbytes 0x100,
        single_bytes_eq_iff (by omega) (by omega) text other⟩
  | utf16BE =>
      have hdecode : ∀ text, decode .utf16BE (encode .utf16BE text) = some text :=
        decode_utf16 halves_big_endian
      exact ⟨hdecode text, encode_eq_iff_of_decode hdecode text other⟩
  | utf16LE =>
      have hdecode : ∀ text, decode .utf16LE (encode .utf16LE text) = some text :=
        decode_utf16 halves_little_endian
      exact ⟨hdecode text, encode_eq_iff_of_decode hdecode text other⟩
  | utf16 =>
      exact ⟨decode_marked_utf16 text, encode_eq_iff_of_decode decode_marked_utf16 text other⟩

/-- A byte-order mark of the text itself is kept. -/
example : decode .utf16 (encode .utf16 "\uFEFF𝄞") = some "\uFEFF𝄞" := by
  decide +kernel

end PluginDescriptor.Charset
