import PluginDescriptor.Descriptor

/-!
# Log events

Everything a run logs. An event is a value; its level, target, message and fields are read off it,
and `Event.text` and `Event.line` are its two written forms.
-/

namespace PluginDescriptor

/-- How important an event is. -/
inductive Level where
  | error
  | warning
  | info
  | debug
deriving DecidableEq

namespace Level

/-- The name of a level. -/
def name : Level → String
  | .error => "ERROR"
  | .warning => "WARN"
  | .info => "INFO"
  | .debug => "DEBUG"

/-- How far down a level is: the higher, the more detail it stands for. -/
def rank : Level → Nat
  | .error => 1
  | .warning => 2
  | .info => 3
  | .debug => 4

end Level

/-- Something a run logs. -/
inductive Event where
  /-- A run starts with these settings. -/
  | configured (output : Path) (encoding : String) (label : GeneratorLabel)
  /-- A declaration is looked at. -/
  | processing (declaration : String) (markers : Nat)
  /-- A declaration may not be a plugin. -/
  | skipping (declaration : String)
  /-- An annotation's value is a plugin id. -/
  | accepted (declaration : String) (id : PluginId)
  /-- A descriptor is in place. -/
  | wrote (id : PluginId) (path : Path)
  /-- A descriptor could not be written. -/
  | aborting (id : PluginId) (error : DescriptorError)
  /-- A descriptor replaced one of the same pass. -/
  | overwritten (id : PluginId) (previous current : String)
  /-- The pass over a manifest is complete. -/
  | unitDone (manifest : Path) (declarations descriptors : Nat)
  /-- The pass over a manifest failed. -/
  | stopping (manifest : Path) (error : DescriptorError)
  /-- The run is over. -/
  | finished (units descriptors diagnostics : Nat) (aborted : Bool)
deriving DecidableEq

namespace Event

/-- The level of an event. -/
def level : Event → Level
  | configured .. => .debug
  | processing .. => .debug
  | skipping .. => .debug
  | accepted .. => .debug
  | wrote .. => .info
  | aborting .. => .error
  | overwritten .. => .warning
  | unitDone .. => .debug
  | stopping .. => .warning
  | finished .. => .info

/-- The part of the program an event is attributed to. -/
def target : Event → String
  | configured .. => "gpdgen"
  | processing .. => "gpdgen_descriptor::driver"
  | skipping .. => "gpdgen_descriptor::service"
  | accepted .. => "gpdgen_descriptor::service"
  | wrote .. => "gpdgen_descriptor::service"
  | aborting .. => "gpdgen_descriptor::service"
  | overwritten .. => "gpdgen_descriptor::driver"
  | unitDone .. => "gpdgen::run"
  | stopping .. => "gpdgen::run"
  | finished .. => "gpdgen"

/-- What happened. -/
def message : Event → String
  | configured .. => "descriptor generation configured"
  | processing .. => "processing plugin declaration"
  | skipping .. => "skipping ineligible plugin declaration"
  | accepted .. => "accepted plugin id"
  | wrote .. => "wrote plugin descriptor"
  | aborting .. => "aborting descriptor generation"
  | overwritten .. => "plugin descriptor overwritten in the same pass"
  | unitDone .. => "compilation unit done"
  | stopping .. => "stopping after fatal error"
  | finished .. => "descriptor generation finished"

/-- The values an event carries, with their names. -/
def fields : Event → List (String × String)
  | configured output encoding label =>
    [("output", output.text), ("encoding", encoding), ("generator", label.text)]
  | processing declaration markers =>
    [("declaration", declaration), ("annotations", toString markers)]
  | skipping declaration => [("declaration", declaration)]
  | accepted declaration id => [("declaration", declaration), ("plugin_id", id.text)]
  | wrote id path => [("plugin_id", id.text), ("path", path.text)]
  | aborting id error => [("plugin_id", id.text), ("error", error.message)]
  | overwritten id previous current =>
    [("plugin_id", id.text), ("previous", previous), ("current", current)]
  | unitDone manifest declarations descriptors =>
    [("manifest", manifest.text), ("declarations", toString declarations),
      ("descriptors", toString descriptors)]
  | stopping manifest error => [("manifest", manifest.text), ("error", error.message)]
  | finished units descriptors diagnostics aborted =>
    [("units", toString units), ("descriptors", toString descriptors),
      ("diagnostics", toString diagnostics), ("aborted", if aborted then "true" else "false")]

/-- The names of the fields of an event, of which the message is the first. -/
def fieldNames (event : Event) : List String :=
  "message" :: event.fields.map Prod.fst

/-- The message followed by the fields. -/
def body (event : Event) : String :=
  event.fields.foldl (fun text field => text ++ " " ++ field.1 ++ "=" ++ field.2) event.message

/-- The event led by its level. -/
def text (event : Event) : String :=
  event.level.name ++ " " ++ event.body

/-- The event as a line of a log: the level in five columns, the target, and the event. -/
def line (event : Event) : String :=
  let level := event.level.name
  (if level.length < 5 then " " else "") ++ level ++ " " ++ event.target ++ ": " ++ event.body

end Event

end PluginDescriptor
