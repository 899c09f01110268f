import PluginDescriptor.CommandLine
import PluginDescriptor.LogFilter
import PluginDescriptor.Run

/-!
# The program

The whole program as a function of its arguments, its logging setting, its clock and the file tree.
It exits with 0 exactly when nothing had to be reported.
-/

namespace PluginDescriptor

namespace Program

/-- The text that reports a failure and its cause. Every line of the cause is indented. -/
def failureText (failure cause : String) : String :=
  let lines := (cause.toList.splitOn '\n').map fun line => "    " ++ String.ofList line
  "Error: " ++ failure ++ "\n\nCaused by:\n" ++ "\n".intercalate lines

/-- One item of the error output, which ends with a line break. -/
inductive Line where
  /-- A logged event. -/
  | event (event : Event)
  | text (text : String)
  /-- The report of a manifest that cannot be loaded. -/
  | failure (error : Manifest.LoadError)

/-- The text of an item without the time that a logged event may be led by. -/
def Line.render : Line → String
  | .event logged => logged.line
  | .text plain => plain
  | .failure error => failureText error.message error.cause

/-- What a call of the program comes to. -/
structure Outcome where
  exitCode : UInt32
  standardOutput : String := ""
  errorLines : List Line := []
  tree : FileTree

/-- The lines that logging lets through. -/
def visible (filter : LogFilter) : Run.Output → Option Line
  | .event event => if filter.allows event then some (.event event) else none
  | .diagnostic manifest diagnostic => some (.text (Run.diagnosticLine manifest diagnostic))

/-- A run that the command line asks for. -/
def generate (commandLine : CommandLine) (logging : Option String) (clock : Clock)
    (tree : FileTree) : Outcome :=
  let filter := LogFilter.choose logging commandLine.verbose
  let config := commandLine.config
  let start : Run.World :=
    { tree, clock, output := [.event (.configured config.outputRoot config.encoding config.label)] }
  match Run.units config commandLine.manifests start with
  | (.error error, world) =>
    { exitCode := 1
      errorLines := world.output.filterMap (visible filter) ++ [.failure error]
      tree := world.tree }
  | (.ok summary, world) =>
    let finished :=
      world.emit
        (.finished summary.units summary.descriptors summary.diagnostics summary.aborted)
    { exitCode := if summary.isClean then 0 else 1
      errorLines := finished.output.filterMap (visible filter)
      tree := finished.tree }

/-- A call of the program. -/
def run (arguments : List String) (logging : Option String) (clock : Clock) (tree : FileTree) :
    Outcome :=
  match CommandLine.parse arguments with
  | .error (.inquiry inquiry) => { exitCode := 0, standardOutput := inquiry.answer, tree }
  | .error (.usage error) =>
    { exitCode := 2
      errorLines :=
        [.text ("error: " ++ error.message), .text "", .text CommandLine.usage, .text "",
          .text "For more information, try '--help'."]
      tree }
  | .ok commandLine => generate commandLine logging clock tree

end Program

end PluginDescriptor
