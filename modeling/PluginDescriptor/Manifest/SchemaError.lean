import PluginDescriptor.Number.Shortest
import PluginDescriptor.Text.Quoted
import PluginDescriptor.Toml.Value

/-!
# Schema errors

The ways a TOML document can fail to be a manifest, and the text that reports each.
-/

namespace PluginDescriptor.Manifest

/-- Why a TOML document is not a manifest. -/
inductive SchemaError where
  /-- A value of another kind than the one described. -/
  | wrongType (found : Toml.Value) (expected : String)
  /-- An integer that is no unsigned 32-bit number. -/
  | outOfRange (value : Int)
  /-- An array with too few elements for the record it stands for. -/
  | tooShort (length : Nat) (record : String) (fields : Nat)
  | unknownField (name : String) (known : List String)
  | duplicateField (name : String)
  | missingField (name : String)
  | unknownVariant (name : String) (known : List String)
  /-- A choice that is neither a string nor a table. -/
  | noChoice
  /-- A choice given as a table without a key. -/
  | emptyChoice
  /-- A choice given as a table with several keys. -/
  | manyChoices
  /-- A choice given as a table whose one value is not an empty table or array. -/
  | choicePayload (payload : Toml.Value)

namespace SchemaError

/-- How a value of the wrong kind is described. -/
def describe : Toml.Value → String
  | .string text => "string " ++ Text.quoted text
  | .integer value => "integer `" ++ toString value ++ "`"
  | .float value => "floating point `" ++ value.text ++ "`"
  | .unreadable text => "number `" ++ text ++ "`"
  | .boolean value => "boolean `" ++ (if value then "true" else "false") ++ "`"
  | .dateTime _ => "map"
  | .array _ => "sequence"
  | .table _ => "map"

/-- Names as alternatives, each between backticks. -/
def alternatives (names : List String) : String :=
  let ticked := names.map fun name => "`" ++ name ++ "`"
  match ticked with
  | [] => "there are none"
  | [only] => only
  | [first, second] => first ++ " or " ++ second
  | _ => "one of " ++ ", ".intercalate ticked

/-- The text that reports the error. -/
def message : SchemaError → String
  | .wrongType found expected => "invalid type: " ++ describe found ++ ", expected " ++ expected
  | .outOfRange value => "invalid value: integer `" ++ toString value ++ "`, expected u32"
  | .tooShort length record fields =>
    s!"invalid length {length}, expected struct {record} with {fields} elements"
  | .unknownField name known => "unknown field `" ++ name ++ "`, expected " ++ alternatives known
  | .duplicateField name => "duplicate field `" ++ name ++ "`"
  | .missingField name => "missing field `" ++ name ++ "`"
  | .unknownVariant name known =>
    "unknown variant `" ++ name ++ "`, expected " ++ alternatives known
  | .noChoice => "wanted string or table"
  | .emptyChoice => "wanted exactly 1 element, found 0 elements"
  | .manyChoices => "wanted exactly 1 element, more than 1 element"
  | .choicePayload (.table _) => "expected empty table"
  | .choicePayload (.array _) => "expected empty array"
  | .choicePayload payload => "expected table, found " ++ payload.kindName

end SchemaError

end PluginDescriptor.Manifest
