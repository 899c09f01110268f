import PluginDescriptor.Declaration
import PluginDescriptor.Manifest.SchemaError

/-!
# The manifest schema

What a TOML value has to look like to be a list of declarations. A record is written as a table
with its fields by name, or as an array with its fields in order. The fields of a table are visited
in the order of their keys, and the first that is unknown or wrong decides the error; a field that
is missing is noticed only after that.
-/

namespace PluginDescriptor.Manifest

open Toml (Value)

/-- A string. -/
def decodeText : Value → Except SchemaError String
  | .string text => .ok text
  | found => .error (.wrongType found "a string")

/-- A boolean. -/
def decodeFlag : Value → Except SchemaError Bool
  | .boolean value => .ok value
  | found => .error (.wrongType found "a boolean")

/-- An unsigned 32-bit number. -/
def decodeNumber : Value → Except SchemaError UInt32
  | .integer value =>
    if h : 0 ≤ value ∧ value < UInt32.size then .ok (.ofNatLT value.toNat (by omega))
    else .error (.outOfRange value)
  | found => .error (.wrongType found "u32")

/-- An array, each element decoded by `decode`. -/
def decodeList {α : Type} (decode : Value → Except SchemaError α) :
    Value → Except SchemaError (List α)
  | .array elements => elements.mapM decode
  | found => .error (.wrongType found "a sequence")

/-- The alternative of a name. -/
def decodeName {α : Type} (all : List α) (name : α → String) (text : String) :
    Except SchemaError α :=
  match all.find? fun choice => name choice = text with
  | some choice => .ok choice
  | none => .error (.unknownVariant text (all.map name))

/-- One of several named alternatives: its name, or a table whose only key is the name and whose
only value is empty. -/
def decodeChoice {α : Type} (all : List α) (name : α → String) : Value → Except SchemaError α
  | .string text => decodeName all name text
  | .table [] => .error .emptyChoice
  | .table [(key, payload)] =>
    match decodeName all name key with
    | .error error => .error error
    | .ok choice =>
      match payload with
      | .table [] => .ok choice
      | .array [] => .ok choice
      | payload => .error (.choicePayload payload)
  | .table _ => .error .manyChoices
  | _ => .error .noChoice

/-- The fields of a record with their names, in the order they are visited. An array gives the
fields `names` in this order, and its surplus elements do not count. -/
def recordFields (record : String) (names : List String) :
    Value → Except SchemaError (List (String × Value))
  | .table entries => .ok entries
  | .array elements => .ok (names.zip elements)
  | .dateTime text => .ok [(Value.dateTimeKey, .string text)]
  | found => .error (.wrongType found ("struct " ++ record))

/-- The error for a field that is missing from a record. -/
def missing (record : String) (names : List String) (name : String) : Value → SchemaError
  | .array elements => .tooShort elements.length record names.length
  | _ => .missingField name

/-- A field that is given for the first time. -/
def once {α : Type} (name : String) (before : Option α) (decoded : Except SchemaError α) :
    Except SchemaError (Option α) :=
  match before with
  | none => decoded.map some
  | some _ => .error (.duplicateField name)

/-! ## Positions -/

/-- The fields of a position that have been read. -/
structure PositionDraft where
  line : Option UInt32 := none
  column : Option UInt32 := none

namespace PositionDraft

/-- The fields of a position. -/
def names : List String := ["line", "column"]

/-- Reads one field. -/
def read (draft : PositionDraft) (field : String × Value) : Except SchemaError PositionDraft :=
  match field with
  | ("line", value) => do
    return { draft with line := ← once "line" draft.line (decodeNumber value) }
  | ("column", value) => do
    return { draft with column := ← once "column" draft.column (decodeNumber value) }
  | (name, _) => .error (.unknownField name names)

end PositionDraft

/-- A position. -/
def decodePosition (value : Value) : Except SchemaError Position := do
  let record := "SourcePosition"
  let fields ← recordFields record PositionDraft.names value
  let draft ← fields.foldlM PositionDraft.read {}
  match draft.line, draft.column with
  | some line, some column => return ⟨line, column⟩
  | none, _ => .error (missing record PositionDraft.names "line" value)
  | some _, none => .error (missing record PositionDraft.names "column" value)

/-! ## Annotations -/

/-- The fields of an annotation that have been read. -/
structure MarkerDraft where
  value : Option String := none
  position : Option Position := none

namespace MarkerDraft

/-- The fields of an annotation. -/
def names : List String := ["value", "position"]

/-- Reads one field. -/
def read (draft : MarkerDraft) (field : String × Value) : Except SchemaError MarkerDraft :=
  match field with
  | ("value", value) => do
    return { draft with value := ← once "value" draft.value (decodeText value) }
  | ("position", value) => do
    return { draft with position := ← once "position" draft.position (decodePosition value) }
  | (name, _) => .error (.unknownField name names)

end MarkerDraft

/-- An annotation. Its value may be missing, and without a position it stands at line 0. -/
def decodeMarker (value : Value) : Except SchemaError Marker := do
  let fields ← recordFields "IdentityAnnotation" MarkerDraft.names value
  let draft ← fields.foldlM MarkerDraft.read {}
  return { value := draft.value, position := draft.position.getD ⟨0, 0⟩ }

/-! ## Declarations -/

/-- The fields of a declaration that have been read. -/
structure DeclarationDraft where
  name : Option String := none
  visibility : Option Visibility := none
  kind : Option Kind := none
  isAbstract : Option Bool := none
  implements : Option (List String) := none
  enclosing : Option String := none
  markers : Option (List Marker) := none
  position : Option Position := none

namespace DeclarationDraft

/-- The fields of a declaration. -/
def names : List String :=
  ["name", "visibility", "kind", "abstract", "implements", "enclosing", "annotation", "position"]

/-- Reads one field. -/
def read (draft : DeclarationDraft) (field : String × Value) :
    Except SchemaError DeclarationDraft :=
  match field with
  | ("name", value) => do return { draft with name := ← once "name" draft.name (decodeText value) }
  | ("visibility", value) => do
    return { draft with
      visibility :=
        ← once "visibility" draft.visibility (decodeChoice Visibility.all Visibility.name value) }
  | ("kind", value) => do
    return { draft with kind := ← once "kind" draft.kind (decodeChoice Kind.all Kind.name value) }
  | ("abstract", value) => do
    return { draft with isAbstract := ← once "abstract" draft.isAbstract (decodeFlag value) }
  | ("implements", value) => do
    return { draft with
      implements := ← once "implements" draft.implements (decodeList decodeText value) }
  | ("enclosing", value) => do
    return { draft with enclosing := ← once "enclosing" draft.enclosing (decodeText value) }
  | ("annotation", value) => do
    return { draft with
      markers := ← once "annotation" draft.markers (decodeList decodeMarker value) }
  | ("position", value) => do
    return { draft with position := ← once "position" draft.position (decodePosition value) }
  | (name, _) => .error (.unknownField name names)

/-- The declaration called `name` with the fields that have been read and defaults for the rest. -/
def complete (draft : DeclarationDraft) (name : String) : Declaration where
  name := name
  visibility := draft.visibility.getD .package
  kind := draft.kind.getD .isClass
  isAbstract := draft.isAbstract.getD false
  implements := draft.implements.getD []
  enclosing := draft.enclosing
  markers := draft.markers.getD []
  position := draft.position.getD ⟨0, 0⟩

end DeclarationDraft

/-- A declaration. Only its name is required. -/
def decodeDeclaration (value : Value) : Except SchemaError Declaration := do
  let record := "Declaration"
  let fields ← recordFields record DeclarationDraft.names value
  let draft ← fields.foldlM DeclarationDraft.read {}
  match draft.name with
  | some name => return draft.complete name
  | none => .error (missing record DeclarationDraft.names "name" value)

/-! ## Manifests -/

/-- The only field of a manifest. -/
def declarationsKey : String := "declaration"

/-- Reads one field of a manifest. -/
def readDeclarations (draft : Option (List Declaration)) (field : String × Value) :
    Except SchemaError (Option (List Declaration)) :=
  if field.1 = declarationsKey then
    once declarationsKey draft (decodeList decodeDeclaration field.2)
  else .error (.unknownField field.1 [declarationsKey])

/-- The declarations of a manifest. -/
def decode : Value → Except SchemaError (List Declaration)
  | .table entries => do return (← entries.foldlM readDeclarations none).getD []
  | found => .error (.wrongType found "struct Manifest")

end PluginDescriptor.Manifest
