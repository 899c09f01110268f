/-!
# Trimming

`Text.trim` removes a class of characters from both ends of a text. Two classes are used: the
control class, which is every character up to and including U+0020, and the Unicode `White_Space`
class. Interior characters are never touched.
-/

namespace PluginDescriptor.Text

/-- The text without its longest beginning and its longest end of `strip` characters. A text of
`strip` characters only becomes empty. -/
def trim (strip : Char → Bool) (text : String) : String :=
  String.ofList ((text.toList.dropWhile strip).reverse.dropWhile strip).reverse

/-- Control characters and the space: everything up to and including U+0020. -/
def isControl (c : Char) : Bool :=
  c.toNat ≤ 0x20

/-- The text without surrounding control characters. Spaces outside ASCII, such as U+00A0, stay. -/
def trimControl (text : String) : String :=
  trim isControl text

/-- The Unicode property `White_Space`. -/
def isBlank (c : Char) : Bool :=
  let code := c.toNat
  (0x09 ≤ code && code ≤ 0x0D) || code = 0x20 || code = 0x85 || code = 0xA0 || code = 0x1680 ||
    (0x2000 ≤ code && code ≤ 0x200A) || code = 0x2028 || code = 0x2029 || code = 0x202F ||
    code = 0x205F || code = 0x3000

/-- The text without surrounding white space. -/
def trimBlank (text : String) : String :=
  trim isBlank text

end PluginDescriptor.Text
