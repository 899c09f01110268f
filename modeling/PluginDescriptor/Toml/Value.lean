import PluginDescriptor.Number.Binary64

/-!
# TOML values

The data a TOML document stands for. The entries of a table are kept in the order of their keys.
-/

namespace PluginDescriptor.Toml

/-- A TOML value. -/
inductive Value where
  | string (text : String)
  | integer (value : Int)
  | float (value : Binary64)
  /-- A number that stands for nothing, as it is written: an integer outside 64 bits, a decimal
  beyond every binary64 number, or a spelling that is only found wanting once it is looked at. -/
  | unreadable (text : String)
  | boolean (value : Bool)
  /-- A date, a time, or both, as it is written. -/
  | dateTime (text : String)
  | array (elements : List Value)
  | table (entries : List (String × Value))

namespace Value

/-- The word for the kind of a value. -/
def kindName : Value → String
  | .string _ => "string"
  | .integer _ => "integer"
  | .float _ => "float"
  | .unreadable _ => "number"
  | .boolean _ => "boolean"
  | .dateTime _ => "datetime"
  | .array _ => "array"
  | .table _ => "table"

/-- The key under which a date and time counts as a table of its own. -/
def dateTimeKey : String := "$__toml_private_datetime"

end Value

end PluginDescriptor.Toml
