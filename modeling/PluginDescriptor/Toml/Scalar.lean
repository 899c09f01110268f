import PluginDescriptor.Toml.Value

/-!
# Unquoted values

What an unquoted TOML value stands for: a boolean, an integer, a floating-point number, or a date
and time. `Scalar.ofText?` refuses a text that is none of these. Some numbers that stand for nothing
are kept as they are written: those beyond their range, and those that `isLooseNumber` lets through.
-/

namespace PluginDescriptor.Toml.Scalar

/-- The digits of a number written with single underscores between digits. There is at least one
digit. -/
def ungroup? (isDigit : Char → Bool) : List Char → Option (List Char)
  | [] => none
  | [c] => if isDigit c then some [c] else none
  | c :: '_' :: rest => if isDigit c then (ungroup? isDigit rest).map (c :: ·) else none
  | c :: rest => if isDigit c then (ungroup? isDigit rest).map (c :: ·) else none

/-- The value of a digit, letters counting from ten. -/
def digitValue (c : Char) : Nat :=
  if c.isDigit then c.toNat - 0x30
  else if c.isLower then c.toNat - 0x61 + 10
  else c.toNat - 0x41 + 10

/-- The number that digits spell in a base. -/
def digitsValue (base : Nat) (digits : List Char) : Nat :=
  digits.foldl (fun value c => value * base + digitValue c) 0

/-- The digits of a decimal without superfluous zeros in front. -/
def decimalDigits? (text : List Char) : Option (List Char) :=
  match ungroup? Char.isDigit text with
  | some ('0' :: _ :: _) => none
  | digits => digits

/-- Whether a number with this sign comes first, and the text after its sign. -/
def splitSign : List Char → Bool × List Char
  | '-' :: rest => (true, rest)
  | '+' :: rest => (false, rest)
  | text => (false, text)

/-- Whether an integer fits into 64 bits. -/
def fits (value : Int) : Bool :=
  -9223372036854775808 ≤ value && value ≤ 9223372036854775807

/-- Whether a character is a hexadecimal digit. -/
def isHexDigit (c : Char) : Bool :=
  c.isDigit || ('a' ≤ c && c ≤ 'f') || ('A' ≤ c && c ≤ 'F')

/-- The integer a text spells, of any size. -/
def integerValue? (text : List Char) : Option Int :=
  match text with
  | '0' :: 'x' :: rest => (ungroup? isHexDigit rest).map fun digits => digitsValue 16 digits
  | '0' :: 'o' :: rest =>
    (ungroup? (fun c => '0' ≤ c && c ≤ '7') rest).map fun digits => digitsValue 8 digits
  | '0' :: 'b' :: rest =>
    (ungroup? (fun c => c = '0' || c = '1') rest).map fun digits => digitsValue 2 digits
  | _ =>
    let (negative, magnitude) := splitSign text
    (decimalDigits? magnitude).map fun digits =>
      if negative then -(digitsValue 10 digits : Int) else digitsValue 10 digits

/-- The power of ten an exponent spells, the exponent standing after its `e`. -/
def exponent? (text : List Char) : Option Int :=
  let (negative, magnitude) := splitSign text
  (ungroup? Char.isDigit magnitude).map fun digits =>
    if negative then -(digitsValue 10 digits : Int) else digitsValue 10 digits

/-- The number that an unsigned decimal with a point, an exponent or both stands for. -/
def decimal? (negative : Bool) (text : List Char) : Option Binary64 := do
  let (mantissa, exponentPart) := text.span fun c => c ≠ 'e' && c ≠ 'E'
  let (whole, fractionPart) := mantissa.span (· ≠ '.')
  let wholeDigits ← decimalDigits? whole
  let fractionDigits ←
    match fractionPart with
    | [] => if exponentPart.isEmpty then none else some []
    | _ :: digits => ungroup? Char.isDigit digits
  let power ←
    match exponentPart with
    | [] => some 0
    | _ :: digits => exponent? digits
  return .ofDecimal negative (digitsValue 10 (wholeDigits ++ fractionDigits))
    (power - fractionDigits.length)

/-- The value of a text that spells a floating-point number. -/
def float? (text : List Char) : Option Value :=
  let (negative, magnitude) := splitSign text
  if magnitude = "inf".toList then some (.float (.infinite negative))
  else if magnitude = "nan".toList then some (.float .notANumber)
  else
    match decimal? negative magnitude with
    | some (.infinite _) => some (.unreadable (String.ofList text))
    | some number => some (.float number)
    | none => none

/-- Whether every underscore of an integer stands between hexadecimal digits. The parts are the
texts between the underscores, and nothing is asked of them apart from their ends. -/
def areGrouped : List (List Char) → Bool
  | [] => true
  | [_] => true
  | part :: next :: rest =>
    part.getLast?.any isHexDigit && next.head?.any isHexDigit && areGrouped (next :: rest)

/-- Whether a text passes for an integer without being one: a prefix for a base with no digits, or
decimal digits with an underscore after them and anything but a space, a fraction or an exponent
behind it, as long as the underscores stand between hexadecimal digits. -/
def isLooseNumber (text : List Char) : Bool :=
  let magnitude := (splitSign text).2
  let digits := magnitude.takeWhile Char.isDigit
  let rest := magnitude.dropWhile Char.isDigit
  ["0x", "0o", "0b"].contains (String.ofList text) ||
    (!digits.isEmpty && digits.head? ≠ some '0' && rest.head? = some '_' &&
      rest.all (fun c => c ≠ ' ' && c ≠ '.' && c ≠ 'e' && c ≠ 'E') &&
      areGrouped (magnitude.splitOn '_'))

/-- The number in the first `count` characters, which have to be digits, and the text after it. -/
def takeDigits? (count : Nat) (text : List Char) : Option (Nat × List Char) :=
  let digits := text.take count
  if digits.length = count && digits.all Char.isDigit then
    some (digitsValue 10 digits, text.drop count)
  else none

/-- The text after a given first character. -/
def expect? (expected : Char) : List Char → Option (List Char)
  | c :: rest => if c = expected then some rest else none
  | [] => none

/-- The number of days a month has. -/
def daysInMonth (year month : Nat) : Nat :=
  if month = 2 then if year % 4 = 0 && (year % 100 ≠ 0 || year % 400 = 0) then 29 else 28
  else if month = 4 || month = 6 || month = 9 || month = 11 then 30
  else 31

/-- The text after a date at its start. -/
def afterDate? (text : List Char) : Option (List Char) := do
  let (year, text) ← takeDigits? 4 text
  let text ← expect? '-' text
  let (month, text) ← takeDigits? 2 text
  let text ← expect? '-' text
  let (day, text) ← takeDigits? 2 text
  if 1 ≤ month && month ≤ 12 && 1 ≤ day && day ≤ daysInMonth year month then some text else none

/-- The text after a fraction of a second at its start, if there is one. -/
def afterFraction? : List Char → Option (List Char)
  | '.' :: text =>
    if (text.takeWhile Char.isDigit).isEmpty then none else some (text.dropWhile Char.isDigit)
  | text => some text

/-- The text after a time of day at its start. The seconds may be left out, and a second 60 is let
through. -/
def afterTime? (text : List Char) : Option (List Char) := do
  let (hour, text) ← takeDigits? 2 text
  let text ← expect? ':' text
  let (minute, text) ← takeDigits? 2 text
  if hour ≤ 23 && minute ≤ 59 then
    match text with
    | ':' :: text =>
      let (second, text) ← takeDigits? 2 text
      if second ≤ 60 then afterFraction? text else none
    | text => some text
  else none

/-- Whether a text is an offset from UTC of less than a day, or nothing. -/
def isOffset (text : List Char) : Bool :=
  match text with
  | [] => true
  | [c] => c = 'Z' || c = 'z'
  | sign :: text =>
    let parts? : Option (Nat × Nat) := do
      let (hours, text) ← takeDigits? 2 text
      let text ← expect? ':' text
      let (minutes, text) ← takeDigits? 2 text
      if text.isEmpty then some (hours, minutes) else none
    (sign = '+' || sign = '-') && parts?.any fun (hours, minutes) => hours ≤ 23 && minutes ≤ 59

/-- Whether a text is a date, a time of day, or a date with a time and perhaps an offset. -/
def isDateTime (text : List Char) : Bool :=
  match afterDate? text with
  | some [] => true
  | some (delimiter :: time) =>
    (delimiter = 'T' || delimiter = 't' || delimiter = ' ') && (afterTime? time).any isOffset
  | none => afterTime? text = some []

/-- The value of an unquoted text. -/
def ofText? (text : String) : Option Value :=
  let characters := text.toList
  if text = "true" then some (.boolean true)
  else if text = "false" then some (.boolean false)
  else
    match integerValue? characters with
    | some value => some (if fits value then .integer value else .unreadable text)
    | none =>
      match float? characters with
      | some value => some value
      | none =>
        if isDateTime characters then some (.dateTime text)
        else if isLooseNumber characters then some (.unreadable text)
        else none

end PluginDescriptor.Toml.Scalar
