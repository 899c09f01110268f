import PluginDescriptor.Declaration
import PluginDescriptor.Descriptor

/-!
# Diagnostics

What a pass reports to its host. A recoverable diagnostic has a position and never changes what
happens next. A fatal one has none and accompanies the failure that ends the pass.
-/

namespace PluginDescriptor

/-- Whether the pass goes on after a diagnostic. -/
inductive Severity where
  | recoverable
  | fatal
deriving DecidableEq

/-- A reported problem. -/
structure Diagnostic where
  severity : Severity
  message : String
  position : Option Position
deriving DecidableEq

namespace Diagnostic

/-- Whether the diagnostic accompanies the end of the pass. -/
def isFatal (diagnostic : Diagnostic) : Bool :=
  diagnostic.severity = .fatal

/-- The text of a diagnostic, led by its position if it is recoverable and has one. -/
def text (diagnostic : Diagnostic) : String :=
  match diagnostic.severity, diagnostic.position with
  | .fatal, _ => s!"fatal: {diagnostic.message}"
  | .recoverable, some position =>
    s!"{position.line}:{position.column}: error: {diagnostic.message}"
  | .recoverable, none => s!"error: {diagnostic.message}"

end Diagnostic

/-- The diagnostics of a compilation unit in the order they were reported. -/
structure Diagnostics where
  entries : List Diagnostic := []
deriving DecidableEq

namespace Diagnostics

/-- Reports a problem at a position. -/
def addError (diagnostics : Diagnostics) (message : String) (position : Position) : Diagnostics :=
  ⟨diagnostics.entries ++ [⟨.recoverable, message, some position⟩]⟩

/-- Reports the failure that ends the pass. -/
def addFatal (diagnostics : Diagnostics) (message : String) (cause : DescriptorError) :
    Diagnostics :=
  ⟨diagnostics.entries ++ [⟨.fatal, s!"{message}: {cause.message}", none⟩]⟩

/-- The number of diagnostics. -/
def size (diagnostics : Diagnostics) : Nat :=
  diagnostics.entries.length

/-- The recoverable diagnostics. -/
def errors (diagnostics : Diagnostics) : List Diagnostic :=
  diagnostics.entries.filter fun diagnostic => !diagnostic.isFatal

/-- The first fatal diagnostic. -/
def fatal? (diagnostics : Diagnostics) : Option Diagnostic :=
  diagnostics.entries.find? Diagnostic.isFatal

end Diagnostics

end PluginDescriptor
