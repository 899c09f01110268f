import Std.Data.ExtTreeMap
import PluginDescriptor.FileError
import PluginDescriptor.Path

/-!
# File trees

A file tree is a finite map from locations to entries in which everything lies in a directory.
Paths are followed name by name, so that the first obstacle on the way decides how an operation
fails. The operations are the ones a descriptor needs: reading a file, creating a directory and all
directories above it, and putting a file in place as a whole.
-/

namespace PluginDescriptor

/-- The place of an entry: its name, then the names of the directories around it from the innermost
outwards. The top of the tree is the empty location. -/
abbrev Location := List String

/-- What stands at a location. -/
inductive Entry where
  | file (bytes : List UInt8)
  | directory
deriving DecidableEq

/-- A file tree together with the directory that relative paths start from. -/
structure FileTree where
  entries : Std.ExtTreeMap Location Entry compare
  working : Location
  top_directory : entries[([] : Location)]? = some .directory
  working_directory : entries[working]? = some .directory
  parent_directory : ∀ (name : String) (parent : Location) (entry : Entry),
    entries[name :: parent]? = some entry → entries[parent]? = some .directory

namespace FileTree

/-- The longest name a directory can hold, in bytes. -/
def longestName : Nat := 255

/-- The longest path the system follows, in bytes. -/
def longestPath : Nat := 4095

/-- The entry at a location. -/
def entryAt? (tree : FileTree) (location : Location) : Option Entry :=
  tree.entries[location]?

/-- A tree with nothing in it but its top directory. -/
def empty : FileTree where
  entries := (∅ : Std.ExtTreeMap Location Entry compare).insert [] .directory
  working := []
  top_directory := by simp
  working_directory := by simp
  parent_directory := by
    intro name parent entry h
    rw [Std.ExtTreeMap.getElem?_insert] at h
    split at h <;> simp_all

instance : Inhabited FileTree := ⟨empty⟩

/-- Two trees with the same entries and the same working directory are equal. -/
theorem eq_of_entryAt?_eq {tree other : FileTree}
    (same : ∀ location, tree.entryAt? location = other.entryAt? location)
    (working : tree.working = other.working) : tree = other := by
  have entries : tree.entries = other.entries := Std.ExtTreeMap.ext_getElem? fun {k} => same k
  cases tree
  cases other
  simp_all

/-- A location of `tree` that is known to be a directory. -/
structure Directory (tree : FileTree) where
  location : Location
  isDirectory : tree.entryAt? location = some .directory

/-- The top of the tree. -/
def top (tree : FileTree) : tree.Directory := ⟨[], tree.top_directory⟩

/-- The directory that relative paths start from. -/
def workingDirectory (tree : FileTree) : tree.Directory := ⟨tree.working, tree.working_directory⟩

/-- The directory around a directory; the top is its own. -/
def Directory.outer {tree : FileTree} : tree.Directory → tree.Directory
  | ⟨[], h⟩ => ⟨[], h⟩
  | ⟨name :: parent, h⟩ => ⟨parent, tree.parent_directory name parent _ h⟩

/-- The directory called `name` in `here`. -/
def enter (tree : FileTree) (here : tree.Directory) (name : String) :
    Except FileError tree.Directory :=
  if longestName < name.utf8ByteSize then .error .nameTooLong
  else
    match h : tree.entryAt? (name :: here.location) with
    | none => .error .notFound
    | some (.file _) => .error .notADirectory
    | some .directory => .ok ⟨name :: here.location, h⟩

/-- The directory reached from `here` by a list of names. -/
def walk (tree : FileTree) (here : tree.Directory) : List String → Except FileError tree.Directory
  | [] => .ok here
  | name :: rest =>
    if name = "." then tree.walk here rest
    else if name = ".." then tree.walk here.outer rest
    else
      match tree.enter here name with
      | .ok there => tree.walk there rest
      | .error error => .error error

/-- The directory a path starts from. -/
def start (tree : FileTree) (path : Path) : tree.Directory :=
  if path.isAbsolute then tree.top else tree.workingDirectory

/-- Why a path is refused before anything is looked up, if it is. -/
def refusal? (path : Path) : Option FileError :=
  if path.text.toList.contains '\x00' then some .nulInPath
  else if longestPath < path.text.utf8ByteSize then some .nameTooLong
  else none

/-- What a walk of names ends at. -/
def find (tree : FileTree) (here : tree.Directory) (trail : List String) : Except FileError Entry :=
  match trail.getLast? with
  | none => .ok .directory
  | some last =>
    if last = "." || last = ".." then (tree.walk here trail).map fun _ => .directory
    else
      match tree.walk here trail.dropLast with
      | .error error => .error error
      | .ok parent =>
        if longestName < last.utf8ByteSize then .error .nameTooLong
        else
          match tree.entryAt? (last :: parent.location) with
          | none => .error .notFound
          | some entry => .ok entry

/-- The bytes of the file at a path. -/
def readFile (tree : FileTree) (path : Path) : Except FileError (List UInt8) :=
  match refusal? path with
  | some error => .error error
  | none =>
    if path.text = "" then .error .notFound
    else
      match tree.find (tree.start path) path.trail with
      | .error error => .error error
      | .ok .directory => .error .isADirectory
      | .ok (.file bytes) => if path.endsWithSeparator then .error .notADirectory else .ok bytes

/-- The text of the file at a path. -/
def readText (tree : FileTree) (path : Path) : Except FileError String :=
  match tree.readFile path with
  | .error error => .error error
  | .ok bytes =>
    match String.fromUTF8? ⟨bytes.toArray⟩ with
    | some text => .ok text
    | none => .error .invalidUtf8

/-- An entry is found where it has been inserted, and nothing else is different. -/
theorem lookup_insert (entries : Std.ExtTreeMap Location Entry compare)
    (location other : Location) (entry : Entry) :
    (entries.insert location entry)[other]? =
      if other = location then some entry else entries[other]? := by
  have hsame : compare location other = .eq ↔ other = location := by
    rw [Std.compare_eq_iff_eq, eq_comm]
  simp only [Std.ExtTreeMap.getElem?_insert, hsame]

/-- The tree with `entry` in the directory `parent`. A directory is only ever replaced by a
directory, so nothing loses the directory it lies in. -/
def place (tree : FileTree) (name : String) (parent : tree.Directory) (entry : Entry)
    (keeps : tree.entryAt? (name :: parent.location) = some .directory → entry = .directory) :
    FileTree where
  entries := tree.entries.insert (name :: parent.location) entry
  working := tree.working
  top_directory := by simp [lookup_insert, tree.top_directory]
  working_directory := by
    rw [lookup_insert]
    by_cases h : tree.working = name :: parent.location
    · have replaced := tree.working_directory
      rw [h] at replaced
      rw [if_pos h, keeps replaced]
    · rw [if_neg h]
      exact tree.working_directory
  parent_directory := by
    intro inner outer found h
    have key : tree.entries[outer]? = some Entry.directory := by
      rw [lookup_insert] at h
      by_cases same : inner :: outer = name :: parent.location
      · rw [(List.cons.inj same).2]
        exact parent.isDirectory
      · rw [if_neg same] at h
        exact tree.parent_directory inner outer found h
    rw [lookup_insert]
    by_cases same : outer = name :: parent.location
    · rw [same] at key
      rw [if_pos same, keeps key]
    · rw [if_neg same]
      exact key

/-- Placing an entry changes what stands at its location and nothing else. -/
theorem entryAt?_place (tree : FileTree) (name : String) (parent : tree.Directory) (entry : Entry)
    (keeps : tree.entryAt? (name :: parent.location) = some .directory → entry = .directory)
    (location : Location) :
    (tree.place name parent entry keeps).entryAt? location =
      if location = name :: parent.location then some entry else tree.entryAt? location :=
  lookup_insert tree.entries (name :: parent.location) location entry

/-- Creates the directory a walk of names ends at, inside an existing directory. -/
def makeDirectory (tree : FileTree) (path : Path) (trail : List String) :
    Except FileError FileTree :=
  match trail.getLast? with
  | none => .error .alreadyExists
  | some last =>
    match tree.walk (tree.start path) trail.dropLast with
    | .error error => .error error
    | .ok parent =>
      if last = "." || last = ".." then .error .alreadyExists
      else if longestName < last.utf8ByteSize then .error .nameTooLong
      else
        match tree.entryAt? (last :: parent.location) with
        | some _ => .error .alreadyExists
        | none => .ok (tree.place last parent .directory fun _ => rfl)

/-- Creates a directory like `makeDirectory`, and is content with one that is already there. -/
def ensureDirectory (tree : FileTree) (path : Path) (trail : List String) :
    Except FileError FileTree :=
  match tree.makeDirectory path trail with
  | .ok made => .ok made
  | .error error =>
    match tree.find (tree.start path) trail with
    | .ok .directory => .ok tree
    | _ => .error error

/-- Creates the directory of the first trail. Where a directory on the way is missing, the
remaining trails lead to it: they are created first, and the first trail is tried once more.
Directories made before a failure stay. -/
def ensureTrails (tree : FileTree) (path : Path) :
    List (List String) → Except FileError Unit × FileTree
  | [] => (.ok (), tree)
  | trail :: shorter =>
    match tree.ensureDirectory path trail with
    | .ok made => (.ok (), made)
    | .error .notFound =>
      match tree.ensureTrails path shorter with
      | (.error error, made) => (.error error, made)
      | (.ok (), made) =>
        match made.ensureDirectory path trail with
        | .ok complete => (.ok (), complete)
        | .error error => (.error error, made)
    | .error error => (.error error, tree)

/-- Creates a directory and every missing directory above it. -/
def createDirectories (tree : FileTree) (path : Path) : Except FileError Unit × FileTree :=
  match refusal? path with
  | some error => (.error error, tree)
  | none => tree.ensureTrails path path.creationTrails

/-- Puts a file called `name` into an existing directory as a whole, over a file that may be there.
A failure changes nothing. -/
def replaceFile (tree : FileTree) (directory : Path) (name : String) (bytes : List UInt8) :
    Except FileError FileTree :=
  match refusal? (directory.join ⟨name⟩) with
  | some error => .error error
  | none =>
    match tree.walk (tree.start directory) directory.trail with
    | .error error => .error error
    | .ok parent =>
      if longestName < name.utf8ByteSize then .error .nameTooLong
      else if h : tree.entryAt? (name :: parent.location) = some .directory then
        .error .isADirectory
      else .ok (tree.place name parent (.file bytes) fun found => absurd found h)

/-- The tree with another directory that relative paths start from. -/
def withWorking (tree : FileTree) (directory : tree.Directory) : FileTree :=
  { tree with working := directory.location, working_directory := directory.isDirectory }

/-- The entries of the tree with their locations. -/
def toList (tree : FileTree) : List (Location × Entry) :=
  tree.entries.toList

/-- What is new or different in `tree` as against `before`, outer directories first. -/
def changesSince (tree before : FileTree) : List (Location × Entry) :=
  let changed := tree.toList.filter fun (location, entry) => before.entryAt? location ≠ some entry
  changed.mergeSort fun a b => a.1.length ≤ b.1.length

/-- The absolute path of a location. -/
def pathOf (location : Location) : Path :=
  ⟨"/" ++ "/".intercalate location.reverse⟩

end FileTree

end PluginDescriptor
