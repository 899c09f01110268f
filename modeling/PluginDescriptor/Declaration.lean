/-!
# Declarations

The type declarations of a compilation unit, already resolved: what a plugin class is called, how
it is declared, which interfaces it implements, and which plugin ids it is annotated with.
-/

namespace PluginDescriptor

/-- A place in a source file. -/
structure Position where
  line : UInt32
  column : UInt32
deriving DecidableEq, Inhabited

/-- The access modifier of a declaration. -/
inductive Visibility where
  | isPublic
  | isProtected
  /-- No modifier. -/
  | package
  | isPrivate
deriving DecidableEq

namespace Visibility

/-- Every access modifier, in the order they are listed to a user. -/
def all : List Visibility :=
  [.isPublic, .isProtected, .package, .isPrivate]

/-- The word for an access modifier. -/
def name : Visibility → String
  | .isPublic => "public"
  | .isProtected => "protected"
  | .package => "package"
  | .isPrivate => "private"

end Visibility

/-- The kind of a type declaration. -/
inductive Kind where
  | isClass
  | isInterface
  | isEnum
deriving DecidableEq

namespace Kind

/-- Every kind, in the order they are listed to a user. -/
def all : List Kind :=
  [.isClass, .isInterface, .isEnum]

/-- The word for a kind. -/
def name : Kind → String
  | .isClass => "class"
  | .isInterface => "interface"
  | .isEnum => "enum"

end Kind

/-- One plugin annotation of a declaration. -/
structure Marker where
  /-- The annotation's value as written, if it has one. -/
  value : Option String := none
  position : Position := ⟨0, 0⟩
deriving DecidableEq

/-- A type declaration. -/
structure Declaration where
  /-- The fully qualified name. -/
  name : String
  visibility : Visibility := .package
  kind : Kind := .isClass
  isAbstract : Bool := false
  /-- The fully qualified names of all implemented interfaces, inherited ones included. -/
  implements : List String := []
  /-- The fully qualified name of the declaration around this one, if there is one. -/
  enclosing : Option String := none
  /-- The plugin annotations in the order they are written. -/
  markers : List Marker := []
  position : Position := ⟨0, 0⟩
deriving DecidableEq

namespace Declaration

/-- The simple name of the annotation that marks a plugin class. -/
def pluginMarker : String := "GradlePlugin"

/-- The interface every plugin class has to implement. -/
def pluginInterface : String := "org.gradle.api.Plugin"

/-- Whether the declaration is accessible from everywhere. -/
def isPublic (declaration : Declaration) : Bool :=
  declaration.visibility = .isPublic

/-- Whether instances can be made: a class that is not abstract. -/
def isConcrete (declaration : Declaration) : Bool :=
  !declaration.isAbstract && declaration.kind = .isClass

/-- Whether the interface is among the implemented ones. -/
def hasInterface (declaration : Declaration) (name : String) : Bool :=
  declaration.implements.contains name

/-- Whether the declaration implements the plugin interface. -/
def isPlugin (declaration : Declaration) : Bool :=
  declaration.hasInterface pluginInterface

/-- Whether the declaration lies inside another one. -/
def isNested (declaration : Declaration) : Bool :=
  declaration.enclosing.isSome

/-- Whether the declaration is looked at at all: it is not nested and has an annotation. -/
def isCandidate (declaration : Declaration) : Bool :=
  !declaration.isNested && !declaration.markers.isEmpty

/-- Where problems of the declaration as a whole are reported: at its first annotation, or at the
declaration itself if it has none. -/
def reportPosition (declaration : Declaration) : Position :=
  match declaration.markers with
  | [] => declaration.position
  | marker :: _ => marker.position

end Declaration

end PluginDescriptor
