import PluginDescriptor.Manifest
import PluginDescriptor.Pass

/-!
# Runs

A run makes one pass over each manifest in order, every pass on the file tree its predecessors
left. The diagnostics of a pass are printed after it. A manifest that cannot be loaded and a pass
that fails both end the run.
-/

namespace PluginDescriptor

namespace Run

/-- The totals of a run. -/
structure Summary where
  /-- The passes that were made, the failed one included. -/
  units : Nat := 0
  /-- The descriptors that completed passes report. -/
  descriptors : Nat := 0
  diagnostics : Nat := 0
  /-- Whether a failed pass ended the run. -/
  aborted : Bool := false
deriving DecidableEq

/-- Whether there was nothing to report. -/
def Summary.isClean (summary : Summary) : Bool :=
  summary.diagnostics = 0

/-- One item of what a run puts out. -/
inductive Output where
  | event (event : Event)
  | diagnostic (manifest : Path) (diagnostic : Diagnostic)
deriving DecidableEq

/-- The line that prints a diagnostic of a manifest. -/
def diagnosticLine (manifest : Path) (diagnostic : Diagnostic) : String :=
  if diagnostic.position.isSome && !diagnostic.isFatal then
    manifest.text ++ ":" ++ diagnostic.text
  else manifest.text ++ ": " ++ diagnostic.text

/-- The text that is printed: a line for each diagnostic. -/
def printed (output : List Output) : String :=
  String.join (output.filterMap fun
    | .diagnostic manifest diagnostic => some (diagnosticLine manifest diagnostic ++ "\n")
    | .event _ => none)

/-- The events that are logged. -/
def logged (output : List Output) : List Event :=
  output.filterMap fun
    | .event event => some event
    | .diagnostic .. => none

/-- Output is printed piece by piece. -/
theorem printed_append (first second : List Output) :
    printed (first ++ second) = printed first ++ printed second := by
  simp [printed, List.filterMap_append, String.join_append]

/-- Output is logged piece by piece. -/
theorem logged_append (first second : List Output) :
    logged (first ++ second) = logged first ++ logged second := by
  simp [logged, List.filterMap_append]

/-- What a run works on. -/
structure World where
  tree : FileTree
  clock : Clock
  /-- What has been put out so far. -/
  output : List Output := []

/-- The world after a pass over a manifest, with the diagnostics of the pass printed. -/
def World.afterPass (world : World) (manifest : Path) (session : Session) : World where
  tree := session.tree
  clock := session.clock
  output :=
    world.output ++ session.log.map .event ++
      session.diagnostics.entries.map (.diagnostic manifest)

/-- Puts out an event. -/
def World.emit (world : World) (event : Event) : World :=
  { world with output := world.output ++ [.event event] }

/-- The manifests of a run, with the totals so far. -/
def runUnits (config : Config) (summary : Summary) :
    List Path → World → Except Manifest.LoadError Summary × World
  | [], world => (.ok summary, world)
  | manifest :: rest, world =>
    match Manifest.load world.tree manifest with
    | .error error => (.error error, world)
    | .ok declarations =>
      let (outcome, session) :=
        Pass.run config declarations { tree := world.tree, clock := world.clock }
      let world := world.afterPass manifest session
      let summary :=
        { summary with
          units := summary.units + 1
          diagnostics := summary.diagnostics + session.diagnostics.size }
      match outcome with
      | .ok report =>
        runUnits config { summary with descriptors := summary.descriptors + report.written.length }
          rest (world.emit (.unitDone manifest report.processed report.written.length))
      | .error error =>
        (.ok { summary with aborted := true }, world.emit (.stopping manifest error))

/-- Makes a pass over each manifest. -/
def units (config : Config) (manifests : List Path) (world : World) :
    Except Manifest.LoadError Summary × World :=
  runUnits config {} manifests world

end Run

end PluginDescriptor
