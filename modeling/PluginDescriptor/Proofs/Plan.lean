import PluginDescriptor.Pass
import PluginDescriptor.Proofs.Descriptors

/-!
# The flat plan of a pass

A pass goes over declarations and, inside them, over annotations, and leaves either loop early when
a descriptor cannot be written. `Plan.ofUnit` lays out the same work as one list of steps that is
known before anything is touched, and `Plan.execute` performs such a list up to the first write that
fails: `perform_write_ok` and `perform_write_error` say what can come of a write, `execute_error`
how a list is cut short.
-/

namespace PluginDescriptor.Plan

/-- One thing a pass sets out to do. -/
inductive Step where
  /-- Report a problem at a position. -/
  | report (message : String) (position : Position)
  /-- Write the descriptor of an id for a class. -/
  | write (id : PluginId) (className : String)
deriving DecidableEq

/-- The step an annotation of an eligible class calls for. -/
def Step.ofMarker (className : String) (marker : Marker) : Step :=
  match marker.value with
  | none => .report MarkerError.missingValue.message marker.position
  | some value =>
    if h : PluginId.isValid (Text.trimControl value) = true then
      .write ⟨Text.trimControl value, h⟩ className
    else .report (InvalidPluginId.message ⟨Text.trimControl value⟩) marker.position

/-- A report for each rule that a declaration violates: it has to be public, a class that is not
abstract, and an implementation of the plugin interface. -/
def complaints (declaration : Declaration) (position : Position) : List Step :=
  (if declaration.visibility = .isPublic then []
    else [.report Rule.mustBePublic.message position]) ++
  (if declaration.isAbstract = false ∧ declaration.kind = .isClass then []
    else [.report Rule.mustBeConcrete.message position]) ++
  (if Declaration.pluginInterface ∈ declaration.implements then []
    else [.report Rule.mustBePlugin.message position])

/-- The steps for one declaration. A declaration that violates a rule is reported at its first
annotation, and nothing else is done for it. -/
def ofDeclaration (declaration : Declaration) : List Step :=
  match declaration.markers with
  | [] => []
  | first :: _ =>
    if complaints declaration first.position = [] then
      declaration.markers.map (Step.ofMarker declaration.name)
    else complaints declaration first.position

/-- The steps for the declarations of a compilation unit. -/
def ofUnit (declarations : List Declaration) : List Step :=
  (declarations.filter Declaration.isCandidate).flatMap ofDeclaration

/-- The descriptors that steps ask for, each with its class. -/
def writes (steps : List Step) : List (PluginId × String) :=
  steps.filterMap fun
    | .write id className => some (id, className)
    | .report .. => none

/-- The diagnostics that steps ask for. -/
def reports (steps : List Step) : List Diagnostic :=
  steps.filterMap fun
    | .write .. => none
    | .report message position => some ⟨.recoverable, message, some position⟩

/-- A descriptor that was put in place: what it says and how it was encoded. -/
structure Writing where
  id : PluginId
  className : String
  label : GeneratorLabel
  moment : Moment
  charset : Charset
deriving DecidableEq

/-- The bytes of a descriptor that was put in place. -/
def Writing.bytes (writing : Writing) : List UInt8 :=
  writing.charset.encode (Descriptor.render writing.label writing.moment writing.className)

/-- How a descriptor that was put in place is listed in a report. -/
def Writing.descriptor (writing : Writing) (directory : Path) : WrittenDescriptor :=
  ⟨writing.id, writing.className, directory.join ⟨writing.id.fileName⟩⟩

/-- What steps work on, with the descriptors they have put in place so far. -/
structure State where
  tree : FileTree
  clock : Clock
  diagnostics : Diagnostics
  writings : List Writing := []

/-- Reports that the descriptor of an id could not be written. -/
def State.refuse (state : State) (id : PluginId) (error : DescriptorError) : State :=
  { state with
    diagnostics := state.diagnostics.addFatal
      s!"failed to write the plugin descriptor for '{id.text}'" error }

/-- Goes on with a file tree, after the clock has been read. -/
def State.proceed (state : State) (tree : FileTree) : State :=
  { state with tree, clock := state.clock.later }

/-- Performs one step. The charset is resolved and the clock is read for each write. -/
def perform (config : Config) (state : State) : Step → Except DescriptorError Unit × State
  | .report message position =>
    (.ok (), { state with diagnostics := state.diagnostics.addError message position })
  | .write id className =>
    match Charset.ofName config.encoding with
    | .error cause =>
      (.error (.unsupportedCharset cause), state.refuse id (.unsupportedCharset cause))
    | .ok charset =>
      let writing : Writing := ⟨id, className, config.label, state.clock.now, charset⟩
      match Descriptor.write state.tree config.descriptorDirectory id writing.bytes with
      | (.error error, tree) => (.error error, (state.proceed tree).refuse id error)
      | (.ok _, tree) =>
        (.ok (), { state.proceed tree with writings := state.writings ++ [writing] })

/-- Performs steps in order, up to the first that fails. -/
def execute (config : Config) : List Step → State → Except DescriptorError Unit × State
  | [], state => (.ok (), state)
  | step :: rest, state =>
    match perform config state step with
    | (.ok (), next) => execute config rest next
    | (.error error, last) => (.error error, last)

/-- What of a session steps work on. -/
def ofSession (session : Session) (writings : List Writing) : State :=
  ⟨session.tree, session.clock, session.diagnostics, writings⟩

variable {config : Config} {state after : State}

/-! ## What is planned -/

/-- What an annotation calls for is decided by its plugin id. -/
theorem of_marker_eq (className : String) (marker : Marker) :
    Step.ofMarker className marker =
      match marker.pluginId with
      | .ok id => .write id className
      | .error problem => .report problem.message marker.position := by
  unfold Step.ofMarker Marker.pluginId PluginId.parse
  cases marker.value with
  | none => rfl
  | some value =>
      by_cases hvalid : PluginId.isValid (Text.trimControl value) = true
      · simp only [hvalid, dite_true]
      · simp only [hvalid, Bool.false_eq_true, dite_false]
        rfl

/-- The complaints about a declaration are those about the rules it violates. -/
theorem complaints_eq (declaration : Declaration) (position : Position) :
    complaints declaration position =
      declaration.violations.map fun rule => .report rule.message position := by
  have hpublic : declaration.isPublic = true ↔ declaration.visibility = .isPublic := by
    simp [Declaration.isPublic]
  have hconcrete : declaration.isConcrete = true ↔
      declaration.isAbstract = false ∧ declaration.kind = .isClass := by
    simp [Declaration.isConcrete]
  have hplugin : declaration.isPlugin = true ↔
      Declaration.pluginInterface ∈ declaration.implements := by
    simp [Declaration.isPlugin, Declaration.hasInterface]
  simp only [complaints, ← hpublic, ← hconcrete, ← hplugin, Declaration.violations, Rule.all,
    List.filter_cons, List.filter_nil, Rule.isMet]
  cases declaration.isPublic <;> cases declaration.isConcrete <;>
    cases declaration.isPlugin <;> rfl

/-! ## One step -/

/-- A report changes the diagnostics only, and never fails. -/
theorem perform_report (message : String) (position : Position) :
    perform config state (.report message position) =
      (.ok (), { state with diagnostics := state.diagnostics.addError message position }) :=
  rfl

/-- A write that succeeds has put a descriptor in place that names the class and the moment. -/
theorem perform_write_ok {id : PluginId} {className : String}
    (h : perform config state (.write id className) = (.ok (), after)) :
    ∃ writing tree, writing.id = id ∧ writing.className = className ∧
      writing.label = config.label ∧ writing.moment = state.clock.now ∧
      Charset.ofName config.encoding = .ok writing.charset ∧
      Descriptor.write state.tree config.descriptorDirectory id writing.bytes =
        (.ok (config.descriptorDirectory.join ⟨id.fileName⟩), tree) ∧
      after = { state.proceed tree with writings := state.writings ++ [writing] } := by
  simp only [perform] at h
  cases hcharset : Charset.ofName config.encoding with
  | error cause =>
      rw [hcharset] at h
      cases h
  | ok charset =>
      rw [hcharset] at h
      let writing : Writing := ⟨id, className, config.label, state.clock.now, charset⟩
      cases hwrite : Descriptor.write state.tree config.descriptorDirectory id writing.bytes with
      | mk outcome tree =>
          simp only [writing] at hwrite
          simp only [hwrite] at h
          cases outcome with
          | error error => cases h
          | ok target =>
              cases h
              obtain ⟨rfl, _⟩ := Descriptor.write_ok hwrite
              exact ⟨writing, tree, rfl, rfl, rfl, rfl, rfl, hwrite, rfl⟩

/-- A write fails for want of a charset, before anything is touched, or because the descriptor
could not be put in place. Either way the failure is reported. -/
theorem perform_write_error {id : PluginId} {className : String} {error : DescriptorError}
    (h : perform config state (.write id className) = (.error error, after)) :
    (∃ cause, Charset.ofName config.encoding = .error cause ∧
      error = .unsupportedCharset cause ∧ after = state.refuse id error) ∨
      ∃ bytes tree, Descriptor.write state.tree config.descriptorDirectory id bytes =
        (.error error, tree) ∧ after = (state.proceed tree).refuse id error := by
  simp only [perform] at h
  cases hcharset : Charset.ofName config.encoding with
  | error cause =>
      rw [hcharset] at h
      cases h
      exact Or.inl ⟨cause, rfl, rfl, rfl⟩
  | ok charset =>
      rw [hcharset] at h
      let writing : Writing := ⟨id, className, config.label, state.clock.now, charset⟩
      cases hwrite : Descriptor.write state.tree config.descriptorDirectory id writing.bytes with
      | mk outcome tree =>
          simp only [writing] at hwrite
          simp only [hwrite] at h
          cases outcome with
          | error error =>
              cases h
              exact Or.inr ⟨writing.bytes, tree, hwrite, rfl⟩
          | ok target => cases h

/-- A failure is reported after everything that was reported before. -/
theorem refuse_entries (state : State) (id : PluginId) (error : DescriptorError) :
    (state.refuse id error).diagnostics.entries = state.diagnostics.entries ++
      [⟨.fatal, s!"failed to write the plugin descriptor for '{id.text}': {error.message}",
        none⟩] := by
  have hquote : "': " = "'" ++ ": " := rfl
  have hmessage : "failed to write the plugin descriptor for '" ++ id.text ++ "'" ++ ": " ++
      error.message =
      "failed to write the plugin descriptor for '" ++ id.text ++ "': " ++ error.message := by
    rw [hquote]
    simp only [String.append_assoc]
  show state.diagnostics.entries ++ [⟨.fatal, "failed to write the plugin descriptor for '" ++
    id.text ++ "'" ++ ": " ++ error.message, none⟩] = _
  rw [hmessage]
  rfl

/-- Only a write can fail. -/
theorem perform_error {step : Step} {error : DescriptorError}
    (h : perform config state step = (.error error, after)) :
    ∃ id className, step = .write id className := by
  cases step with
  | report message position => cases h
  | write id className => exact ⟨id, className, rfl⟩

/-! ## Executing a plan -/

/-- Steps can be performed one part after the other. -/
theorem execute_append (first second : List Step) :
    execute config (first ++ second) state =
      match execute config first state with
      | (.ok (), next) => execute config second next
      | (.error error, last) => (.error error, last) := by
  induction first generalizing state with
  | nil => rfl
  | cons step rest ih =>
      simp only [List.cons_append, execute]
      cases hstep : perform config state step with
      | mk outcome next =>
          cases outcome with
          | error error => rfl
          | ok => exact ih

/-- The first step succeeds and the others go on from what it leaves, or it fails and is the only
one that is performed. -/
theorem execute_cons_cases (config : Config) (step : Step) (rest : List Step) (state : State) :
    (∃ next, perform config state step = (.ok (), next) ∧
      execute config (step :: rest) state = execute config rest next) ∨
    ∃ error last, perform config state step = (.error error, last) ∧
      execute config (step :: rest) state = (.error error, last) := by
  rw [execute]
  cases perform config state step with
  | mk outcome next =>
      cases outcome with
      | ok => exact Or.inl ⟨next, rfl, rfl⟩
      | error error => exact Or.inr ⟨error, next, rfl, rfl⟩

/-- If a step fails, it is a write, all steps before it have succeeded, and it is the last one that
is performed. -/
theorem execute_error {steps : List Step} {error : DescriptorError}
    (h : execute config steps state = (.error error, after)) :
    ∃ done id className rest ready, steps = done ++ .write id className :: rest ∧
      execute config done state = (.ok (), ready) ∧
      perform config ready (.write id className) = (.error error, after) := by
  induction steps generalizing state with
  | nil => cases h
  | cons step rest ih =>
      rcases execute_cons_cases config step rest state with
        ⟨next, hstep, hrun⟩ | ⟨cause, last, hstep, hfailed⟩
      · rw [hrun] at h
        obtain ⟨done, id, className, left, ready, rfl, hdone, hlast⟩ := ih h
        refine ⟨step :: done, id, className, left, ready, rfl, ?_, hlast⟩
        rw [execute, hstep]
        exact hdone
      · rw [hfailed] at h
        cases h
        obtain ⟨id, className, rfl⟩ := perform_error hstep
        exact ⟨[], id, className, rest, state, rfl, rfl, hstep⟩

end PluginDescriptor.Plan
