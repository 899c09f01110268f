import PluginDescriptor.LogFilter.Pattern

/-!
# Values of fields

A directive of a log filter may name a field together with a value for it, which is a number or a
pattern. Most numbers are patterns as well, but not those with a plus sign in front.
-/

namespace PluginDescriptor.LogFilter

/-- Whether a text is made of decimal digits, at least one. -/
def isDigits (text : List Char) : Bool :=
  !text.isEmpty && text.all Char.isDigit

/-- A text without the sign it may start with. -/
def withoutSign : List Char → List Char
  | '+' :: rest => rest
  | '-' :: rest => rest
  | text => text

/-- Whether a text is a decimal without a sign. Digits have to stand on one side of the point at
least, and after the sign of an exponent. -/
def isDecimal (text : List Char) : Bool :=
  let (mantissa, exponent) := text.span fun c => c ≠ 'e' && c ≠ 'E'
  let (whole, fraction) := mantissa.span (· ≠ '.')
  isDigits (whole ++ fraction.drop 1) &&
    (exponent.isEmpty || isDigits (withoutSign (exponent.drop 1)))

/-- Whether a text is a number. The words for infinity and for no number may be in upper or lower
case. -/
def isNumber (text : List Char) : Bool :=
  let magnitude := withoutSign text
  ["inf", "infinity", "nan"].contains (String.ofList (magnitude.map Char.toLower)) ||
    isDecimal magnitude

/-- Whether a text names a field, perhaps with a value after an equals sign. The value ends before
the next one, and what follows is not looked at. -/
def isField (text : String) : Bool :=
  match text.toList.splitOn '=' with
  | _ :: value :: _ => isNumber value || Pattern.isWellFormed value
  | _ => text ≠ ""

end PluginDescriptor.LogFilter
