import PluginDescriptor.Charset
import PluginDescriptor.Config
import PluginDescriptor.FileTree
import PluginDescriptor.Moment
import PluginDescriptor.PluginId

/-!
# Descriptors

A descriptor is a three-line text that names the implementation class of a plugin id. It is put in
place as a whole: a write either leaves the complete descriptor or changes no file.
-/

namespace PluginDescriptor

/-- Why a descriptor could not be written. -/
inductive DescriptorError where
  | createDirectory (path : Path) (cause : FileError)
  | write (path : Path) (cause : FileError)
  | unsupportedCharset (cause : UnsupportedCharset)
deriving DecidableEq

/-- The text that reports a failed write. -/
def DescriptorError.message : DescriptorError → String
  | .createDirectory path cause => s!"failed to create directory {path.text}: {cause.message}"
  | .write path cause => s!"failed to write {path.text}: {cause.message}"
  | .unsupportedCharset cause => cause.message

/-- A descriptor that has been written. -/
structure WrittenDescriptor where
  id : PluginId
  className : String
  path : Path
deriving DecidableEq

namespace Descriptor

/-- The text of a descriptor: the generator, the time, and the implementation class. -/
def render (label : GeneratorLabel) (moment : Moment) (className : String) : String :=
  "# Generated by " ++ label.text ++ "\n# Generated on " ++ moment.rfc3339 ++
    "\nimplementation-class = " ++ className ++ "\n"

/-- Writes a descriptor's bytes to the file of its id, creating the directory if it is missing. -/
def write (tree : FileTree) (directory : Path) (id : PluginId) (bytes : List UInt8) :
    Except DescriptorError Path × FileTree :=
  match tree.createDirectories directory with
  | (.error cause, made) => (.error (.createDirectory directory cause), made)
  | (.ok (), made) =>
    let target := directory.join ⟨id.fileName⟩
    match made.replaceFile directory id.fileName bytes with
    | .error cause => (.error (.write target cause), made)
    | .ok written => (.ok target, written)

/-- A write fails to create its directory, or fails to put its file into the directory, or succeeds
at both. -/
theorem write_cases (tree : FileTree) (directory : Path) (id : PluginId) (bytes : List UInt8) :
    (∃ cause left, tree.createDirectories directory = (.error cause, left) ∧
      write tree directory id bytes = (.error (.createDirectory directory cause), left)) ∨
    ∃ ready, tree.createDirectories directory = (.ok (), ready) ∧
      ((∃ cause, ready.replaceFile directory id.fileName bytes = .error cause ∧
        write tree directory id bytes =
          (.error (.write (directory.join ⟨id.fileName⟩) cause), ready)) ∨
      ∃ written, ready.replaceFile directory id.fileName bytes = .ok written ∧
        write tree directory id bytes = (.ok (directory.join ⟨id.fileName⟩), written)) := by
  unfold write
  cases tree.createDirectories directory with
  | mk created ready =>
      cases created with
      | error cause => exact Or.inl ⟨cause, ready, rfl, rfl⟩
      | ok =>
          refine Or.inr ⟨ready, rfl, ?_⟩
          dsimp only
          cases ready.replaceFile directory id.fileName bytes with
          | error cause => exact Or.inl ⟨cause, rfl, rfl⟩
          | ok written => exact Or.inr ⟨written, rfl, rfl⟩

end Descriptor

end PluginDescriptor
