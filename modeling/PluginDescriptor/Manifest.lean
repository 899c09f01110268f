import PluginDescriptor.FileTree
import PluginDescriptor.Manifest.Schema
import PluginDescriptor.Toml.Readable
import PluginDescriptor.Toml.Reader

/-!
# Manifests

A manifest lists the declarations of one compilation unit in TOML. It is refused as a whole if it
is not TOML or does not have the shape of the schema.
-/

namespace PluginDescriptor.Manifest

/-- Why a text is no manifest. -/
inductive ParseError where
  | notToml
  | schema (error : SchemaError)

/-- The text that reports why a text is no manifest. -/
def ParseError.message : ParseError → String
  | .notToml => "not a TOML document"
  | .schema error => error.message

/-- The declarations a text lists. A text with an unreadable value is no TOML, which only shows
where the declarations cannot be read: the surplus elements of an array are not looked at. -/
def parse (text : String) : Except ParseError (List Declaration) :=
  match Toml.parse? text with
  | none => .error .notToml
  | some value =>
    match decode value with
    | .ok declarations => .ok declarations
    | .error error => .error (if value.isReadableDocument then .schema error else .notToml)

/-- Why a manifest could not be loaded. -/
inductive LoadError where
  | read (path : Path) (cause : FileError)
  | parse (path : Path) (cause : ParseError)

namespace LoadError

/-- The manifest that could not be loaded. -/
def path : LoadError → Path
  | .read path _ => path
  | .parse path _ => path

/-- What went wrong while loading. -/
def cause : LoadError → String
  | .read path cause => s!"I/O error reading {path.text}: {cause.message}"
  | .parse path cause => s!"invalid manifest {path.text}: {cause.message}"

/-- What could not be done. -/
def message (error : LoadError) : String :=
  s!"failed to load {error.path.text}"

end LoadError

/-- The declarations of the manifest at a path. -/
def load (tree : FileTree) (path : Path) : Except LoadError (List Declaration) :=
  match tree.readText path with
  | .error cause => .error (.read path cause)
  | .ok text =>
    match parse text with
    | .error cause => .error (.parse path cause)
    | .ok declarations => .ok declarations

end PluginDescriptor.Manifest
