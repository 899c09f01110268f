/-!
# Paths

A path is kept as it was written. `Path.join` appends without normalising; `Path.components` is the
reading under which two spellings name the same path: repeated and trailing separators and inner
`.` do not count, while a leading `.` does.
-/

namespace PluginDescriptor

/-- A path as it was written. -/
structure Path where
  text : String
deriving DecidableEq

/-- One part of a path. -/
inductive Path.Component where
  /-- The leading separator of an absolute path. -/
  | root
  /-- A leading `.`. -/
  | current
  /-- A `..` anywhere. -/
  | parent
  /-- An ordinary name. -/
  | name (text : String)
deriving DecidableEq

namespace Path

/-- Whether the path starts at the top of the file tree. -/
def isAbsolute (path : Path) : Bool :=
  path.text.toList.head? = some '/'

/-- Whether the path is written with a separator at its end. -/
def endsWithSeparator (path : Path) : Bool :=
  path.text.toList.getLast? = some '/'

/-- The path followed by `rest`. An absolute `rest` stands alone, and a separator is written
between the two unless the first is empty or already ends in one. -/
def join (path rest : Path) : Path :=
  if rest.isAbsolute then rest
  else if path.text = "" || path.endsWithSeparator then ⟨path.text ++ rest.text⟩
  else ⟨path.text ++ "/" ++ rest.text⟩

/-- The texts between separators, empty ones included. -/
def segments (path : Path) : List String :=
  (path.text.toList.splitOn '/').map String.ofList

/-- The names a walk along the path passes, `.` and `..` included. -/
def trail (path : Path) : List String :=
  path.segments.filter (· ≠ "")

/-- The names of the path without any `.`. -/
def names (path : Path) : List String :=
  path.trail.filter (· ≠ ".")

/-- The component a name stands for. -/
def Component.ofName (name : String) : Component :=
  if name = ".." then .parent else .name name

/-- The components of the path. Two spellings with the same components name the same path. -/
def components (path : Path) : List Component :=
  let named := path.names.map Component.ofName
  if path.isAbsolute then .root :: named
  else if path.segments.head? = some "." then .current :: named
  else named

/-- Whether two spellings name the same path. -/
def same (path other : Path) : Bool :=
  path.components = other.components

/-- The names of a path and of each path above it, the longest first. The names are given from the
last to the first. -/
def outwards : List String → List (List String)
  | [] => []
  | name :: outer => (name :: outer).reverse :: outwards outer

/-- The walks that create the path as a directory, in the order they are tried: the path as
written, then the paths above it. -/
def creationTrails (path : Path) : List (List String) :=
  if path.trail = [] then [] else path.trail :: outwards path.names.reverse.tail

end Path

end PluginDescriptor
