import PluginDescriptor.Text.Trim

/-!
# Character sets

The encodings a descriptor can be written in. `Charset.ofName` resolves a name up to surrounding
white space, the case of ASCII letters, and the choice between `_` and `-`. `Charset.encode`
writes a text; a character that a single-byte charset lacks becomes `?`.
-/

namespace PluginDescriptor

/-- An encoding a descriptor can be written in. -/
inductive Charset where
  | utf8
  | usAscii
  | latin1
  | utf16BE
  | utf16LE
  /-- Big-endian after a byte-order mark. -/
  | utf16
deriving DecidableEq

/-- A name no charset answers to, kept as it was given. -/
structure UnsupportedCharset where
  name : String
deriving DecidableEq

/-- What is reported about an unknown charset name. -/
def UnsupportedCharset.message (unsupported : UnsupportedCharset) : String :=
  s!"unsupported source encoding '{unsupported.name}'"

namespace Charset

/-- Every charset. -/
def all : List Charset :=
  [.utf8, .usAscii, .latin1, .utf16BE, .utf16LE, .utf16]

/-- The canonical name. -/
def name : Charset → String
  | .utf8 => "UTF-8"
  | .usAscii => "US-ASCII"
  | .latin1 => "ISO-8859-1"
  | .utf16BE => "UTF-16BE"
  | .utf16LE => "UTF-16LE"
  | .utf16 => "UTF-16"

/-- The names a charset answers to, in canonical spelling. -/
def aliases : Charset → List String
  | .utf8 => ["UTF-8", "UTF8"]
  | .usAscii => ["US-ASCII", "ASCII"]
  | .latin1 => ["ISO-8859-1", "ISO8859-1", "LATIN1"]
  | .utf16BE => ["UTF-16BE", "UTF16BE"]
  | .utf16LE => ["UTF-16LE", "UTF16LE"]
  | .utf16 => ["UTF-16", "UTF16"]

/-- The canonical spelling of one character of a name: ASCII letters are upper case and `_` is
written `-`. Letters outside ASCII stay, also those whose upper case is an ASCII letter. -/
def canonicalChar (c : Char) : Char :=
  if c = '_' then '-' else c.toUpper

/-- The canonical spelling of a name. -/
def canonicalName (name : String) : String :=
  (Text.trimBlank name).map canonicalChar

/-- The charset that answers to the name. -/
def ofName (name : String) : Except UnsupportedCharset Charset :=
  match all.find? fun charset => charset.aliases.contains (canonicalName name) with
  | some charset => .ok charset
  | none => .error ⟨name⟩

/-- The UTF-16 code units of a character: one below U+10000, a surrogate pair from there on. -/
def utf16Units (c : Char) : List UInt16 :=
  let code := c.toNat
  if code < 0x10000 then [UInt16.ofNat code]
  else
    [UInt16.ofNat (0xD800 + (code - 0x10000) / 0x400),
      UInt16.ofNat (0xDC00 + (code - 0x10000) % 0x400)]

/-- The two bytes of a code unit, the high one first. -/
def bigEndian (unit : UInt16) : List UInt8 :=
  [UInt8.ofNat (unit.toNat / 0x100), UInt8.ofNat (unit.toNat % 0x100)]

/-- The two bytes of a code unit, the low one first. -/
def littleEndian (unit : UInt16) : List UInt8 :=
  [UInt8.ofNat (unit.toNat % 0x100), UInt8.ofNat (unit.toNat / 0x100)]

/-- The byte that stands for a character a single-byte charset lacks. -/
def replacement : UInt8 := 0x3F

/-- The byte of a character in the single-byte charset of the code points below `limit`. -/
def singleByte (limit : Nat) (c : Char) : UInt8 :=
  if c.toNat < limit then UInt8.ofNat c.toNat else replacement

/-- The bytes of a text. -/
def encode (charset : Charset) (text : String) : List UInt8 :=
  match charset with
  | .utf8 => text.toUTF8.data.toList
  | .usAscii => text.toList.map (singleByte 0x80)
  | .latin1 => text.toList.map (singleByte 0x100)
  | .utf16BE => (text.toList.flatMap utf16Units).flatMap bigEndian
  | .utf16LE => (text.toList.flatMap utf16Units).flatMap littleEndian
  | .utf16 => 0xFE :: 0xFF :: (text.toList.flatMap utf16Units).flatMap bigEndian

end Charset

end PluginDescriptor
