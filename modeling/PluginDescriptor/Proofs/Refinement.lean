import PluginDescriptor.Proofs.Executed

/-!
# A pass executes its plan

The two loops of a pass, over declarations and over annotations, come to executing one flat list of
steps. `Simulated` relates what a part of the pass leaves to what its steps leave, and there is one
lemma for each thing that can happen next. The main statement, `run_refines_plan`, says that a pass
leaves what executing its plan leaves, from any session: the same file tree, clock and diagnostics,
and the same result.
-/

namespace PluginDescriptor.Plan

variable {config : Config} {session : Session} {after : State} {writings : List Writing}

/-- A descriptor that a session cannot write is one that a step refuses. -/
theorem perform_of_write_error {className : String} {id : PluginId} {error : DescriptorError}
    {next : Session} (h : session.writeDescriptor config className id = (.error error, next))
    (writings : List Writing) : perform config (ofSession session writings) (.write id className) =
      (.error error, ofSession (next.addFatal
        s!"failed to write the plugin descriptor for '{id.text}'" error) writings) := by
  rcases session.write_descriptor_cases config className id with
    ⟨cause, hcharset, hresult⟩ | ⟨charset, outcome, tree, hcharset, hwrite, hresult⟩
  · rw [hresult] at h
    cases h
    simp only [perform, hcharset]
    rfl
  · rw [hresult] at h
    cases outcome with
    | error cause =>
        cases h
        simp only [perform, hcharset, ofSession, Writing.bytes, hwrite]
        rfl
    | ok path => cases h

/-- A descriptor that a session writes is one that a step puts in place. -/
theorem perform_of_write_ok {className : String} {id : PluginId} {descriptor : WrittenDescriptor}
    {next : Session} (h : session.writeDescriptor config className id = (.ok descriptor, next))
    (writings : List Writing) :
    ∃ writing : Writing, descriptor = writing.descriptor config.descriptorDirectory ∧
      perform config (ofSession session writings) (.write id className) =
        (.ok (), ofSession next (writings ++ [writing])) := by
  rcases session.write_descriptor_cases config className id with
    ⟨cause, _, hresult⟩ | ⟨charset, outcome, tree, hcharset, hwrite, hresult⟩
  · rw [hresult] at h
    cases h
  · rw [hresult] at h
    cases outcome with
    | error cause => cases h
    | ok path =>
        cases h
        obtain ⟨rfl, _⟩ := Descriptor.write_ok hwrite
        refine ⟨⟨id, className, config.label, session.clock.now, charset⟩, rfl, ?_⟩
        simp only [perform, hcharset, ofSession, Writing.bytes, hwrite]
        rfl

/-- `Simulated config steps session writings result` says that executing `steps` from `session`
leaves what `result` leaves, and lists the descriptors it puts in place if `result` succeeds. -/
def Simulated (config : Config) (steps : List Step) (session : Session) (writings : List Writing)
    (result : Except DescriptorError (List WrittenDescriptor) × Session) : Prop :=
  ∃ recorded : List Writing,
    execute config steps (ofSession session writings) =
      (result.1.map fun _ => (), ofSession result.2 (writings ++ recorded)) ∧
    ∀ descriptors, result.1 = .ok descriptors →
      descriptors = recorded.map (·.descriptor config.descriptorDirectory)

/-- Nothing to do leaves the session as it is. -/
theorem Simulated.nothing : Simulated config [] session writings (.ok [], session) := by
  refine ⟨[], by simp [execute, Except.map], ?_⟩
  intro descriptors hdescriptors
  cases hdescriptors
  rfl

/-- A logged event makes no difference to the steps. -/
theorem Simulated.emit {steps : List Step} (event : Event)
    {result : Except DescriptorError (List WrittenDescriptor) × Session}
    (h : Simulated config steps (session.emit event) writings result) :
    Simulated config steps session writings result :=
  h

/-- A report goes before what follows it. -/
theorem Simulated.report {steps : List Step} {message : String} {position : Position}
    {result : Except DescriptorError (List WrittenDescriptor) × Session}
    (h : Simulated config steps (session.addError message position) writings result) :
    Simulated config (.report message position :: steps) session writings result :=
  h

/-- A write that fails ends it all. -/
theorem Simulated.failed {steps : List Step} {step : Step} {error : DescriptorError}
    {next : Session}
    (h : perform config (ofSession session writings) step =
      (.error error, ofSession next writings)) :
    Simulated config (step :: steps) session writings (.error error, next) := by
  refine ⟨[], ?_, ?_⟩
  · rw [execute, h, List.append_nil]
    rfl
  · intro descriptors hdescriptors
    cases hdescriptors

/-- A descriptor that is put in place is listed before those that follow. -/
theorem Simulated.written {steps : List Step} {step : Step} {writing : Writing} {next : Session}
    {result : Except DescriptorError (List WrittenDescriptor) × Session}
    (h : perform config (ofSession session writings) step =
      (.ok (), ofSession next (writings ++ [writing])))
    (hrest : Simulated config steps next (writings ++ [writing]) result) :
    Simulated config (step :: steps) session writings
      (result.1.map (writing.descriptor config.descriptorDirectory :: ·), result.2) := by
  obtain ⟨recorded, hexecute, hlisted⟩ := hrest
  obtain ⟨outcome, last⟩ := result
  refine ⟨writing :: recorded, ?_, ?_⟩
  · rw [execute, h, ← List.append_cons] at *
    simp only [hexecute]
    cases outcome <;> rfl
  · intro descriptors hdescriptors
    cases outcome with
    | error error => cases hdescriptors
    | ok listed =>
        cases hdescriptors
        rw [List.map_cons, ← hlisted listed rfl]

/-- Handling annotations is executing the steps they call for. -/
theorem process_markers_simulated (declaration : Declaration) (markers : List Marker) :
    Simulated config (markers.map (Step.ofMarker declaration.name)) session writings
      (Pass.processMarkers config declaration markers session) := by
  induction markers generalizing session writings with
  | nil => exact .nothing
  | cons marker rest ih =>
      rw [List.map_cons, of_marker_eq]
      cases hmarker : marker.pluginId with
      | error problem =>
          rw [Pass.process_markers_of_error hmarker]
          exact .report ih
      | ok id =>
          apply Simulated.emit (.accepted declaration.name id)
          rcases Pass.process_markers_of_ok hmarker rest session with
            ⟨error, next, hwrite, hresult⟩ | ⟨descriptor, next, hwrite, hresult⟩
          · rw [hresult]
            have hstep := perform_of_write_error hwrite writings
            exact .failed hstep
          · obtain ⟨writing, rfl, hstep⟩ := perform_of_write_ok hwrite writings
            rw [hresult]
            exact .written hstep (.emit _ ih)

/-- Complaints are reported one after the other. -/
theorem complaints_simulated (rules : List Rule) (position : Position) :
    Simulated config (rules.map fun rule => .report rule.message position) session writings
      (.ok [],
        rules.foldl (fun session rule => session.addError rule.message position) session) := by
  induction rules generalizing session with
  | nil => exact .nothing
  | cons rule rest ih => exact .report ih

/-- Handling an annotated declaration is executing the steps for it. -/
theorem process_declaration_simulated {declaration : Declaration} (h : declaration.markers ≠ []) :
    Simulated config (ofDeclaration declaration) session writings
      (Pass.processDeclaration config declaration session) := by
  obtain ⟨first, rest, hmarkers⟩ := List.exists_cons_of_ne_nil h
  have hposition : declaration.reportPosition = first.position := by
    simp [Declaration.reportPosition, hmarkers]
  simp only [ofDeclaration, hmarkers, complaints_eq, List.map_eq_nil_iff]
  rw [← hmarkers, Pass.processDeclaration, hposition]
  cases hviolations : declaration.violations with
  | nil =>
      rw [if_pos rfl]
      exact process_markers_simulated declaration declaration.markers
  | cons rule rules =>
      rw [if_neg (List.cons_ne_nil _ _)]
      exact complaints_simulated (rule :: rules) first.position

/-- Recording descriptors appends them to those written before, and logs at most. -/
theorem record_written_eq (written descriptors : List WrittenDescriptor) (session : Session)
    (writings : List Writing) :
    (Pass.recordWritten written descriptors session).1 = written ++ descriptors ∧
      ofSession (Pass.recordWritten written descriptors session).2 writings =
        ofSession session writings := by
  induction descriptors generalizing written session with
  | nil => exact ⟨(List.append_nil _).symm, rfl⟩
  | cons descriptor rest ih =>
      rw [Pass.recordWritten, List.append_cons written descriptor rest]
      split
      · exact ih (written ++ [descriptor]) _
      · exact ih (written ++ [descriptor]) session

/-- Going over declarations is executing the plan for them. A pass that is completed has counted
the candidates and listed the descriptors that were put in place. -/
theorem run_from_execute (config : Config) (report : Pass.Report) (declarations : List Declaration)
    (session : Session) (writings : List Writing) :
    ∃ recorded : List Writing,
      execute config (ofUnit declarations) (ofSession session writings) =
        ((Pass.runFrom config report declarations session).1.map fun _ => (),
          ofSession (Pass.runFrom config report declarations session).2 (writings ++ recorded)) ∧
      ∀ last, (Pass.runFrom config report declarations session).1 = .ok last →
        last.processed =
          report.processed + (declarations.filter Declaration.isCandidate).length ∧
        last.written =
          report.written ++ recorded.map (·.descriptor config.descriptorDirectory) := by
  induction declarations generalizing report session writings with
  | nil =>
      refine ⟨[], by simp [ofUnit, execute, Pass.runFrom, Except.map], ?_⟩
      intro last hlast
      cases hlast
      simp
  | cons declaration rest ih =>
      by_cases hcandidate : declaration.isCandidate = true
      case neg =>
        -- There are no steps for a declaration that is not looked at.
        simp only [Pass.runFrom, hcandidate, ofUnit, List.filter_cons_of_neg,
          not_false_eq_true, Bool.false_eq_true, if_false]
        exact ih report session writings
      have hmarkers : declaration.markers ≠ [] := by
        simp only [Declaration.isCandidate, Bool.and_eq_true] at hcandidate
        simpa using hcandidate.2
      have hplan : ofUnit (declaration :: rest) = ofDeclaration declaration ++ ofUnit rest := by
        simp [ofUnit, List.filter_cons_of_pos hcandidate]
      let started := session.emit (.processing declaration.name declaration.markers.length)
      have hdeclaration :
          Simulated config (ofDeclaration declaration) session writings
            (Pass.processDeclaration config declaration started) :=
        .emit _ (process_declaration_simulated hmarkers)
      obtain ⟨recorded, hexecute, hlisted⟩ := hdeclaration
      rw [hplan, execute_append, hexecute, Pass.runFrom, if_pos hcandidate]
      cases hresult : Pass.processDeclaration config declaration started with
      | mk outcome next =>
          rw [hresult] at hlisted
          cases outcome with
          | error error =>
              -- The pass ends here, and so do its steps: what is left of the plan is not performed.
              refine ⟨recorded, rfl, ?_⟩
              intro last hlast
              cases hlast
          | ok descriptors =>
              have hdescriptors := hlisted descriptors rfl
              obtain ⟨hwritten, hsession⟩ :=
                record_written_eq report.written descriptors next (writings ++ recorded)
              obtain ⟨later, hlater, hreport⟩ := ih
                { processed := report.processed + 1
                  written := (Pass.recordWritten report.written descriptors next).1 }
                (Pass.recordWritten report.written descriptors next).2 (writings ++ recorded)
              rw [hsession] at hlater
              refine ⟨recorded ++ later, ?_, ?_⟩
              · rw [← List.append_assoc]
                exact hlater
              · intro last hlast
                obtain ⟨hprocessed, hlastWritten⟩ := hreport last hlast
                rw [List.filter_cons_of_pos hcandidate, List.length_cons, List.map_append]
                dsimp only at hprocessed
                refine ⟨by omega, ?_⟩
                rw [hlastWritten, hwritten, hdescriptors, List.append_assoc]

/-- A pass leaves the file tree that its steps leave. -/
theorem run_tree (config : Config) (declarations : List Declaration) (session : Session) :
    (Pass.run config declarations session).2.tree =
      (execute config (ofUnit declarations) (ofSession session [])).2.tree := by
  obtain ⟨recorded, hexecute, _⟩ := run_from_execute config {} declarations session []
  rw [hexecute]
  rfl

/-- The descriptors that a pass puts in place, in order, whether or not it is completed. -/
def placed (config : Config) (declarations : List Declaration) (session : Session) :
    List Writing :=
  (execute config (ofUnit declarations) (ofSession session [])).2.writings

/-- The descriptors that a pass puts in place are writes of its plan from the first on. They carry
the label of the configuration, the readings of the clock in order, and the charset of the
encoding. -/
theorem writing_of_placed {declarations : List Declaration} {session : Session} {place : Nat}
    {writing : Writing} (h : (placed config declarations session)[place]? = some writing) :
    (writes (ofUnit declarations))[place]? = some (writing.id, writing.className) ∧
      writing.label = config.label ∧ writing.moment = session.clock.reading place ∧
      Charset.ofName config.encoding = .ok writing.charset := by
  obtain ⟨recorded, hwritings, hrecorded⟩ :=
    (execute_executed config (ofUnit declarations) (ofSession session [])).writings
  rw [placed, hwritings] at h
  exact hrecorded place writing h

/-- The steps of a pass end as the pass does, and leave what it leaves. -/
theorem execute_of_run (config : Config) (declarations : List Declaration) (session : Session) :
    execute config (ofUnit declarations) (ofSession session []) =
      ((Pass.run config declarations session).1.map fun _ => (),
        ofSession (Pass.run config declarations session).2
          (placed config declarations session)) := by
  obtain ⟨recorded, hexecute, _⟩ := run_from_execute config {} declarations session []
  have hrecorded : placed config declarations session = recorded := by
    rw [placed, hexecute]
    rfl
  rw [hrecorded]
  exact hexecute

/-- A pass leaves what its steps leave. -/
theorem of_session_run (config : Config) (declarations : List Declaration) (session : Session) :
    ofSession (Pass.run config declarations session).2 (placed config declarations session) =
      (execute config (ofUnit declarations) (ofSession session [])).2 := by
  rw [execute_of_run]

/-- A pass ends as its steps do. A completed one has counted the candidates and lists the
descriptors that the steps have put in place. -/
theorem result_of_run (config : Config) (declarations : List Declaration) (session : Session) :
    (Pass.run config declarations session).1 =
      (execute config (ofUnit declarations) (ofSession session [])).1.map fun _ =>
        { processed := (declarations.filter Declaration.isCandidate).length
          written := (placed config declarations session).map
            (·.descriptor config.descriptorDirectory) } := by
  obtain ⟨recorded, hexecute, hreport⟩ := run_from_execute config {} declarations session []
  rw [placed, hexecute, Pass.run]
  cases hrun : (Pass.runFrom config {} declarations session).1 with
  | error error => rfl
  | ok report =>
      obtain ⟨hprocessed, hwritten⟩ := hreport report hrun
      obtain ⟨processed, written⟩ := report
      simp only [Nat.zero_add, List.nil_append] at hprocessed hwritten
      rw [hprocessed, hwritten]
      rfl

/-- A pass whose steps all succeed is completed. It has counted the candidates, listed every write
of the plan and made every report of it. -/
theorem run_of_execute_ok {declarations : List Declaration}
    (h : execute config (ofUnit declarations) (ofSession session []) = (.ok (), after)) :
    (Pass.run config declarations session).1 = .ok
        { processed := (declarations.filter Declaration.isCandidate).length
          written := (writes (ofUnit declarations)).map fun (id, className) =>
            ⟨id, className, config.descriptorDirectory.join ⟨id.fileName⟩⟩ } ∧
      ofSession (Pass.run config declarations session).2 after.writings = after ∧
      (Pass.run config declarations session).2.diagnostics.entries =
        session.diagnostics.entries ++ reports (ofUnit declarations) := by
  obtain ⟨recorded, hexecute, hreport⟩ := run_from_execute config {} declarations session []
  obtain ⟨hdiagnostics, written, hwritings, hwrites⟩ := execute_ok h
  rw [h] at hexecute
  obtain ⟨hresult, rfl⟩ := Prod.mk.inj hexecute
  obtain rfl : recorded = written := hwritings
  refine ⟨?_, rfl, hdiagnostics⟩
  cases hrun : (Pass.runFrom config {} declarations session).1 with
  | error error =>
      rw [hrun] at hresult
      cases hresult
  | ok last =>
      obtain ⟨hprocessed, hlisted⟩ := hreport last hrun
      obtain ⟨processed, listed⟩ := last
      simp only [Nat.zero_add, List.nil_append] at hprocessed hlisted
      rw [Pass.run, hrun, hprocessed, hlisted, ← hwrites, List.map_map]
      rfl

/-- A pass one of whose steps fails ends there, with the same failure. -/
theorem run_of_execute_error {declarations : List Declaration} {error : DescriptorError}
    (h : execute config (ofUnit declarations) (ofSession session []) = (.error error, after)) :
    (Pass.run config declarations session).1 = .error error ∧
      ofSession (Pass.run config declarations session).2 after.writings = after := by
  obtain ⟨recorded, hexecute, _⟩ := run_from_execute config {} declarations session []
  rw [h] at hexecute
  obtain ⟨hresult, rfl⟩ := Prod.mk.inj hexecute
  refine ⟨?_, rfl⟩
  cases hrun : (Pass.runFrom config {} declarations session).1 with
  | error last =>
      rw [hrun] at hresult
      cases hresult
      exact hrun
  | ok last =>
      rw [hrun] at hresult
      cases hresult

/-- A pass over the declarations of a compilation unit leaves what executing their plan leaves. If
no write fails it succeeds, has counted the candidates and lists every write of the plan in order,
and every report of the plan has been made. Otherwise it ends with the failure of the first write
that fails, which is reported after the reports planned before that write and before any other. -/
theorem run_refines_plan (config : Config) (declarations : List Declaration) (session : Session) :
    let steps := ofUnit declarations
    let executed := execute config steps (ofSession session [])
    let result := Pass.run config declarations session
    (result.2.tree = executed.2.tree ∧ result.2.clock = executed.2.clock ∧
      result.2.diagnostics = executed.2.diagnostics) ∧
    match executed.1 with
    | .ok () =>
      result.1 = .ok
        { processed := (declarations.filter Declaration.isCandidate).length
          written := (writes steps).map fun (id, className) =>
            ⟨id, className, config.descriptorDirectory.join ⟨id.fileName⟩⟩ } ∧
      result.2.diagnostics.entries = session.diagnostics.entries ++ reports steps
    | .error error =>
      result.1 = .error error ∧
      ∃ done id className rest ready, steps = done ++ .write id className :: rest ∧
        execute config done (ofSession session []) = (.ok (), ready) ∧
        perform config ready (.write id className) = (.error error, executed.2) ∧
        result.2.diagnostics.entries = session.diagnostics.entries ++ reports done ++
          [⟨.fatal, s!"failed to write the plugin descriptor for '{id.text}': {error.message}",
            none⟩] := by
  intro steps executed result
  cases hexecute : executed with
  | mk outcome after =>
      cases outcome with
      | ok =>
          obtain ⟨hresult, hsession, hdiagnostics⟩ := run_of_execute_ok hexecute
          rw [← hsession]
          exact ⟨⟨rfl, rfl, rfl⟩, hresult, hdiagnostics⟩
      | error error =>
          obtain ⟨hresult, hsession⟩ := run_of_execute_error hexecute
          obtain ⟨done, id, className, rest, ready, hsteps, hdone, hlast⟩ :=
            execute_error hexecute
          have hentries := (perform_refused hlast).2
          rw [(execute_ok hdone).1, ← hsession] at hentries
          rw [← hsession] at hlast ⊢
          exact ⟨⟨rfl, rfl, rfl⟩, hresult, done, id, className, rest, ready, hsteps, hdone, hlast,
            hentries⟩

end PluginDescriptor.Plan
