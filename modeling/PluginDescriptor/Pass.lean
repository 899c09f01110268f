import PluginDescriptor.Session

/-!
# Generation passes

A pass goes over the declarations of a compilation unit in order. Each candidate is checked against
three rules; one that meets them all gets a descriptor for each of its annotations whose value is a
plugin id. Problems with a declaration or a value are reported and skip only what they concern. A
descriptor that cannot be written ends the pass.
-/

namespace PluginDescriptor

/-- A condition that an annotated declaration has to meet. -/
inductive Rule where
  | mustBePublic
  | mustBeConcrete
  | mustBePlugin
deriving DecidableEq

namespace Rule

/-- Every rule, in the order they are checked. -/
def all : List Rule :=
  [.mustBePublic, .mustBeConcrete, .mustBePlugin]

/-- Whether a declaration meets the rule. -/
def isMet (declaration : Declaration) : Rule → Bool
  | .mustBePublic => declaration.isPublic
  | .mustBeConcrete => declaration.isConcrete
  | .mustBePlugin => declaration.isPlugin

/-- What is reported about a declaration that breaks the rule. -/
def message : Rule → String
  | .mustBePublic =>
    "Illegal annotation location: Only public implementations may be annotated with @" ++
      Declaration.pluginMarker
  | .mustBeConcrete =>
    "Illegal annotation location: Only non-abstract classes may be annotated with @" ++
      Declaration.pluginMarker ++ "!"
  | .mustBePlugin =>
    "Illegal annotation location: Only subtypes of " ++ Declaration.pluginInterface ++
      " may be annotated with @" ++ Declaration.pluginMarker ++ "!"

end Rule

/-- The rules a declaration breaks. -/
def Declaration.violations (declaration : Declaration) : List Rule :=
  Rule.all.filter fun rule => !rule.isMet declaration

/-- Why an annotation gives no plugin id. -/
inductive MarkerError where
  | missingValue
  | invalidId (cause : InvalidPluginId)
deriving DecidableEq

/-- What is reported about an annotation without a plugin id. -/
def MarkerError.message : MarkerError → String
  | .missingValue =>
    "annotation @" ++ Declaration.pluginMarker ++
      " is missing a default value for the element 'value'"
  | .invalidId cause => cause.message

/-- The plugin id of an annotation: its value without surrounding control characters. -/
def Marker.pluginId (marker : Marker) : Except MarkerError PluginId :=
  match marker.value with
  | none => .error .missingValue
  | some value =>
    match PluginId.parse (Text.trimControl value) with
    | .ok id => .ok id
    | .error invalid => .error (.invalidId invalid)

namespace Pass

/-- What a completed pass has done. -/
structure Report where
  /-- The number of candidates. -/
  processed : Nat := 0
  /-- The descriptors in the order they were written; an id written twice is listed twice. -/
  written : List WrittenDescriptor := []
deriving DecidableEq

/-- Handles the annotations of a declaration that meets the rules. -/
def processMarkers (config : Config) (declaration : Declaration) :
    List Marker → Session → Except DescriptorError (List WrittenDescriptor) × Session
  | [], session => (.ok [], session)
  | marker :: rest, session =>
    match marker.pluginId with
    | .error problem =>
      processMarkers config declaration rest
        (session.addError problem.message marker.position)
    | .ok id =>
      match (session.emit (.accepted declaration.name id)).writeDescriptor config
          declaration.name id with
      | (.error error, session) =>
        (.error error,
          (session.emit (.aborting id error)).addFatal
            s!"failed to write the plugin descriptor for '{id.text}'" error)
      | (.ok descriptor, session) =>
        match processMarkers config declaration rest
            (session.emit (.wrote id descriptor.path)) with
        | (.error error, session) => (.error error, session)
        | (.ok written, session) => (.ok (descriptor :: written), session)

section

variable {config : Config} {declaration : Declaration} {marker : Marker}

/-- An annotation without a plugin id is reported, and the others are handled. -/
theorem process_markers_of_error {problem : MarkerError} (h : marker.pluginId = .error problem)
    (rest : List Marker) (session : Session) :
    processMarkers config declaration (marker :: rest) session =
      processMarkers config declaration rest
        (session.addError problem.message marker.position) := by
  rw [processMarkers, h]

/-- The descriptor of an annotation with a plugin id cannot be written and that is the end, or it is
written and listed before those of the other annotations. -/
theorem process_markers_of_ok {id : PluginId} (h : marker.pluginId = .ok id) (rest : List Marker)
    (session : Session) :
    (∃ error next,
      (session.emit (.accepted declaration.name id)).writeDescriptor config declaration.name id =
        (.error error, next) ∧
      processMarkers config declaration (marker :: rest) session =
        (.error error, (next.emit (.aborting id error)).addFatal
          s!"failed to write the plugin descriptor for '{id.text}'" error)) ∨
    ∃ descriptor next,
      (session.emit (.accepted declaration.name id)).writeDescriptor config declaration.name id =
        (.ok descriptor, next) ∧
      processMarkers config declaration (marker :: rest) session =
        ((processMarkers config declaration rest (next.emit (.wrote id descriptor.path))).1.map
            (descriptor :: ·),
          (processMarkers config declaration rest (next.emit (.wrote id descriptor.path))).2) := by
  rw [processMarkers, h]
  dsimp only
  cases (session.emit (.accepted declaration.name id)).writeDescriptor config
      declaration.name id with
  | mk outcome next =>
      cases outcome with
      | error error => exact Or.inl ⟨error, next, rfl, rfl⟩
      | ok descriptor =>
          refine Or.inr ⟨descriptor, next, rfl, ?_⟩
          dsimp only
          cases processMarkers config declaration rest
              (next.emit (.wrote id descriptor.path)) with
          | mk handled last => cases handled <;> rfl

end

/-- Checks a declaration and handles its annotations if it meets the rules. -/
def processDeclaration (config : Config) (declaration : Declaration) (session : Session) :
    Except DescriptorError (List WrittenDescriptor) × Session :=
  match declaration.violations with
  | [] => processMarkers config declaration declaration.markers session
  | violations =>
    let reported := violations.foldl
      (fun session rule => session.addError rule.message declaration.reportPosition) session
    (.ok [], reported.emit (.skipping declaration.name))

/-- Adds descriptors to those written before. A descriptor whose id is already among them is logged
with the class that was first written for the id. -/
def recordWritten (written : List WrittenDescriptor) :
    List WrittenDescriptor → Session → List WrittenDescriptor × Session
  | [], session => (written, session)
  | descriptor :: rest, session =>
    match written.find? fun earlier => earlier.id = descriptor.id with
    | some earlier =>
      recordWritten (written ++ [descriptor]) rest
        (session.emit (.overwritten descriptor.id earlier.className descriptor.className))
    | none => recordWritten (written ++ [descriptor]) rest session

/-- Goes over declarations, adding to a report. -/
def runFrom (config : Config) (report : Report) :
    List Declaration → Session → Except DescriptorError Report × Session
  | [], session => (.ok report, session)
  | declaration :: rest, session =>
    if declaration.isCandidate then
      match processDeclaration config declaration
          (session.emit (.processing declaration.name declaration.markers.length)) with
      | (.error error, session) => (.error error, session)
      | (.ok descriptors, session) =>
        let (written, session) := recordWritten report.written descriptors session
        runFrom config { processed := report.processed + 1, written } rest session
    else runFrom config report rest session

/-- Goes over the declarations of a compilation unit. -/
def run (config : Config) (declarations : List Declaration) (session : Session) :
    Except DescriptorError Report × Session :=
  runFrom config {} declarations session

end Pass

end PluginDescriptor
