import PluginDescriptor.Path

/-!
# Configuration

What the host decides about a generation pass: where descriptors go, how they are encoded, and what
the generator calls itself in their first line.
-/

namespace PluginDescriptor

/-- The version of this generator. -/
def toolVersion : String := "0.1.0"

/-- The name of this generator. -/
def toolName : String := "gpdgen"

/-- The name a generator goes by, with a version or without. -/
structure GeneratorLabel where
  name : String
  version : Option String := none
deriving DecidableEq

namespace GeneratorLabel

/-- This generator with its version. -/
def standard : GeneratorLabel :=
  { name := toolName, version := some toolVersion }

/-- The label with this version. -/
def withVersion (label : GeneratorLabel) (version : String) : GeneratorLabel :=
  { label with version := some version }

/-- The label without a version. -/
def withoutVersion (label : GeneratorLabel) : GeneratorLabel :=
  { label with version := none }

/-- The name, followed by the version in parentheses if there is one. -/
def text (label : GeneratorLabel) : String :=
  match label.version with
  | none => label.name
  | some version => s!"{label.name} (version: {version})"

end GeneratorLabel

/-- The settings of a generation pass. -/
structure Config where
  /-- The directory the descriptor directory lies in. -/
  outputRoot : Path
  /-- The name of the charset descriptors are written in. -/
  encoding : String := "UTF-8"
  label : GeneratorLabel := .standard
deriving DecidableEq

namespace Config

/-- The directory of descriptors below an output root. -/
def descriptorFolder : Path := ⟨"META-INF/gradle-plugins"⟩

/-- The directory descriptors are written to. -/
def descriptorDirectory (config : Config) : Path :=
  config.outputRoot.join descriptorFolder

/-- Whether two configurations agree, the output roots as paths and the rest literally. -/
def same (config other : Config) : Bool :=
  config.outputRoot.same other.outputRoot && config.encoding = other.encoding &&
    config.label = other.label

end Config

end PluginDescriptor
