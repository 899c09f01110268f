import PluginDescriptor.Program
import Std.Time.Zoned

/-!
# Entry point

Looks at the part of the disk that a call of the program names, runs the program on it, and carries
the changes over to the disk.
-/

namespace PluginDescriptor.Host

/-- The path of the current directory. -/
def currentDirectory : IO Path := do
  return ⟨toString (← IO.currentDir)⟩

/-- A path seen from the top of the disk. -/
def absolute (here path : Path) : Path :=
  here.join path

/-- Adds what stands at an absolute path. Nothing is added where nothing stands. -/
def observeEntry (tree : FileTree) (path : Path) : IO FileTree := do
  let place := (← IO.currentDir) / path.text
  if ← place.isDir then return (tree.createDirectories path).2
  else if ← place.pathExists then
    match path.names.reverse with
    | [] => return tree
    | name :: outer =>
      let content ← IO.FS.readBinFile place
      match tree.replaceFile (FileTree.pathOf outer) name content.toList with
      | .ok observed => return observed
      | .error _ => return tree
  else return tree

/-- Adds everything on the way to an absolute path. -/
def observe (tree : FileTree) (path : Path) : IO FileTree :=
  let ways := (Path.outwards path.trail.reverse).reverse
  ways.foldlM (fun tree way => observeEntry tree (FileTree.pathOf way.reverse)) tree

/-- Adds everything in the directory at an absolute path, if it is one. -/
def observeInside (tree : FileTree) (path : Path) : IO FileTree := do
  let place := (← IO.currentDir) / path.text
  if ← place.isDir then
    (← place.readDir).foldlM (fun tree entry => observeEntry tree (path.join ⟨entry.fileName⟩)) tree
  else return tree

/-- The part of the disk that a call of the program can depend on. -/
def snapshot (arguments : List String) : IO FileTree := do
  let here ← currentDirectory
  let tree ← observe .empty here
  let tree :=
    match tree.walk tree.top here.trail with
    | .ok directory => tree.withWorking directory
    | .error _ => tree
  match CommandLine.parse arguments with
  | .error _ => return tree
  | .ok commandLine =>
    let target := absolute here commandLine.config.descriptorDirectory
    let paths := target :: commandLine.manifests.map (absolute here)
    let tree ← paths.foldlM observe tree
    observeInside tree target

/-- Carries one change over to the disk. A file is written next to its place and then moved
there. -/
def carryOut (change : Location × Entry) : IO Unit := do
  let path := FileTree.pathOf change.1
  match change.2 with
  | .directory => IO.FS.createDir path.text
  | .file bytes =>
    let draft := (FileTree.pathOf change.1.tail).join ⟨".unfinished-descriptor"⟩
    IO.FS.writeBinFile draft.text ⟨bytes.toArray⟩
    IO.FS.rename draft.text path.text

/-- The present moment in local time. -/
def now : IO Moment := do
  let stamp ← Std.Time.Timestamp.now
  let rules ← Std.Time.Database.defaultGetLocalZoneRules
  let nanoseconds := stamp.toNanosecondsSinceUnixEpoch.val
  return ⟨nanoseconds / 1000000000, (nanoseconds % 1000000000).toNat,
    (rules.timezoneAt stamp).offset.second.val⟩

end PluginDescriptor.Host

open PluginDescriptor in
/-- Runs the program. -/
def main (arguments : List String) : IO UInt32 := do
  let moment ← Host.now
  let before ← Host.snapshot arguments
  let outcome :=
    Program.run arguments (← IO.getEnv "RUST_LOG") (.constant moment) before
  (outcome.tree.changesSince before).forM Host.carryOut
  IO.print outcome.standardOutput
  for line in outcome.errorLines do
    match line with
    | .event event => IO.eprintln (moment.logStamp ++ " " ++ event.line)
    | other => IO.eprintln other.render
  return outcome.exitCode
