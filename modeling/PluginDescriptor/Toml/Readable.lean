import PluginDescriptor.Toml.Scalar

/-!
# Readable values

A value is readable if every part of it stands for something. `Value.isReadable` looks at the whole
value, where a reader that knows what it wants may never come to the part that is not.
-/

namespace PluginDescriptor.Toml.Value

/-- Whether a value is the text of a date and time. -/
def isDateTimeText : Value → Bool
  | .string text => Scalar.isDateTime text.toList
  | _ => false

mutual

/-- Whether everything in a value stands for something: no number is unreadable, and a table whose
first key marks it as a date and time holds one there. -/
def isReadable : Value → Bool
  | .unreadable _ => false
  | .array elements => areReadable elements
  | .table [] => true
  | .table ((key, value) :: rest) =>
    if key = dateTimeKey then value.isDateTimeText
    else value.isReadable && entriesReadable rest
  | _ => true

/-- Whether all values are readable. -/
def areReadable : List Value → Bool
  | [] => true
  | value :: rest => value.isReadable && areReadable rest

/-- Whether the values of all entries are readable. -/
def entriesReadable : List (String × Value) → Bool
  | [] => true
  | (_, value) :: rest => value.isReadable && entriesReadable rest

end

/-- Whether the value of a document is readable. A document is never a date and time. -/
def isReadableDocument : Value → Bool
  | .table entries => entriesReadable entries
  | value => value.isReadable

end PluginDescriptor.Toml.Value
