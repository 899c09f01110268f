/-!
# Plugin ids

A plugin id is two or more segments joined by single dots, where a segment is one or more ASCII
lower-case letters, ASCII digits or hyphens. `PluginId.isValid` decides this in one pass over the
text, and a `PluginId` carries the proof that its text passed.
-/

namespace PluginDescriptor

/-- The characters of a segment: ASCII lower-case letters, ASCII digits and the hyphen. -/
def PluginId.isSegmentChar (c : Char) : Bool :=
  c.isLower || c.isDigit || c = '-'

/-- How far a text has been read as a plugin id. `dotted` tells whether a dot has been passed. -/
inductive PluginId.Progress where
  /-- A segment has to start here. -/
  | expecting (dotted : Bool)
  /-- At least one character of the current segment has been read. -/
  | inside (dotted : Bool)
  /-- No continuation is a plugin id. -/
  | failed
deriving DecidableEq

/-- Reads one more character of a plugin id. -/
def PluginId.Progress.next : Progress → Char → Progress
  | .expecting dotted, c => if isSegmentChar c then .inside dotted else .failed
  | .inside dotted, c =>
    if isSegmentChar c then .inside dotted else if c = '.' then .expecting true else .failed
  | .failed, _ => .failed

/-- Whether the whole text is a plugin id. -/
def PluginId.isValid (text : String) : Bool :=
  text.toList.foldl Progress.next (.expecting false) = .inside true

/-- A text that is a plugin id. It is the base name of a descriptor file, so it never holds a
path separator. -/
structure PluginId where
  text : String
  valid : PluginId.isValid text = true
deriving DecidableEq

/-- A text that was refused as a plugin id, kept as it was given. -/
structure InvalidPluginId where
  text : String
deriving DecidableEq

/-- What is reported about a refused text. -/
def InvalidPluginId.message (invalid : InvalidPluginId) : String :=
  s!"the plugin id '{invalid.text}' is not a valid Gradle plugin id"

namespace PluginId

/-- Accepts a text that is a plugin id as it stands; nothing is trimmed. -/
def parse (text : String) : Except InvalidPluginId PluginId :=
  if h : isValid text = true then .ok ⟨text, h⟩ else .error ⟨text⟩

/-- The name of the descriptor file of the id. -/
def fileName (id : PluginId) : String :=
  id.text ++ ".properties"

end PluginId

end PluginDescriptor
