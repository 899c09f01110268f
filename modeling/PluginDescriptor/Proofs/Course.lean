import Mathlib.Data.List.Forall2
import PluginDescriptor.Proofs.Refinement
import PluginDescriptor.Proofs.Turns

/-!
# The course of a run

A run goes over its manifests in order until one cannot be loaded or a pass fails, and prints the
diagnostics of each pass when the pass is over. `run_course` says where it stops, what has been
printed by then, in which of two forms, and what its totals or its error are. Everything is read off
`Ran`, the ways a run can go on, so each part of the main statement is one induction over these.
-/

namespace PluginDescriptor

open Plan

namespace Run

/-- `Prints manifest diagnostic line` says that `line` prints a diagnostic of a manifest: with its
position if the pass went on after it, and without any if the pass ended. -/
inductive Prints (manifest : Path) : Diagnostic → String → Prop where
  | recoverable (message : String) (position : Position) :
      Prints manifest ⟨.recoverable, message, some position⟩
        s!"{manifest.text}:{position.line}:{position.column}: error: {message}\n"
  | fatal (message : String) :
      Prints manifest ⟨.fatal, message, none⟩ s!"{manifest.text}: fatal: {message}\n"

/-- The diagnostics of passes in the order they are reported, each with the manifest it is for. -/
def attributed (config : Config) (passes : List Turn) : List (Path × Diagnostic) :=
  passes.flatMap fun turn => (turn.diagnostics config).map fun diagnostic =>
    (turn.manifest, diagnostic)

/-- The file tree and the clock that passes leave, if they start from these. -/
def leftBy (config : Config) : FileTree × Clock → List Turn → FileTree × Clock
  | start, [] => start
  | _, turn :: rest =>
    leftBy config ((turn.result config).2.tree, (turn.result config).2.clock) rest

variable {config : Config} {turn : Turn} {passes earlier later : List Turn}
  {manifests : List Path} {summary total : Summary} {world : World}
  {result : Except Manifest.LoadError Summary × World}

/-! ## The diagnostics of one pass -/

/-- A report of a plan is recoverable and has a position. -/
theorem recoverable_of_mem_reports {steps : List Step} {diagnostic : Diagnostic}
    (h : diagnostic ∈ reports steps) :
    ∃ message position, diagnostic = ⟨.recoverable, message, some position⟩ := by
  unfold reports at h
  rw [List.mem_filterMap] at h
  obtain ⟨step, _, hreport⟩ := h
  cases step with
  | write id className => cases hreport
  | report message position =>
      cases hreport
      exact ⟨message, position, rfl⟩

/-- A completed pass has reported what its plan asks for. A pass that fails has reported a part of
that, and then its failure. -/
theorem Turn.diagnostics_cases (turn : Turn) (config : Config) :
    (∃ report, (turn.result config).1 = .ok report ∧
      turn.diagnostics config = reports (ofUnit turn.declarations)) ∨
    ∃ error steps message, (turn.result config).1 = .error error ∧
      turn.diagnostics config = reports steps ++ [⟨.fatal, message, none⟩] := by
  unfold Turn.diagnostics Turn.result
  cases hexecute : execute config (ofUnit turn.declarations) (ofSession turn.start []) with
  | mk outcome after =>
      cases outcome with
      | ok =>
          obtain ⟨hreport, _, hdiagnostics⟩ := run_of_execute_ok hexecute
          exact Or.inl ⟨_, hreport, hdiagnostics⟩
      | error error =>
          obtain ⟨hfailure, hsession⟩ := run_of_execute_error hexecute
          obtain ⟨done, id, _, _, ready, _, hdone, hlast⟩ := execute_error hexecute
          have hentries := (perform_refused hlast).2
          rw [(execute_ok hdone).1, ← hsession] at hentries
          exact Or.inr ⟨error, done, _, hfailure, hentries⟩

/-- Whatever a pass reports is recoverable and has a position, or is fatal and has none. -/
theorem Turn.diagnostic_forms {diagnostic : Diagnostic}
    (h : diagnostic ∈ turn.diagnostics config) :
    (∃ message position, diagnostic = ⟨.recoverable, message, some position⟩) ∨
      ∃ message, diagnostic = ⟨.fatal, message, none⟩ := by
  rcases turn.diagnostics_cases config with ⟨_, _, hreports⟩ | ⟨_, steps, message, _, hreports⟩
  · rw [hreports] at h
    exact Or.inl (recoverable_of_mem_reports h)
  · rw [hreports, List.mem_append, List.mem_singleton] at h
    rcases h with h | rfl
    · exact Or.inl (recoverable_of_mem_reports h)
    · exact Or.inr ⟨message, rfl⟩

/-- A completed pass has nothing fatal to report. -/
theorem Turn.not_fatal_of_completed {report : Pass.Report} {diagnostic : Diagnostic}
    (hresult : (turn.result config).1 = .ok report) (h : diagnostic ∈ turn.diagnostics config) :
    diagnostic.isFatal = false := by
  rcases turn.diagnostics_cases config with ⟨_, _, hreports⟩ | ⟨_, _, _, hfailure, _⟩
  · rw [hreports] at h
    obtain ⟨message, position, rfl⟩ := recoverable_of_mem_reports h
    rfl
  · rw [hresult] at hfailure
    cases hfailure

/-- In a pass nothing is reported after a fatal diagnostic. -/
theorem Turn.fatal_last {diagnostic : Diagnostic} {before after : List Diagnostic}
    (h : turn.diagnostics config = before ++ diagnostic :: after)
    (hfatal : diagnostic.isFatal = true) : after = [] := by
  have hmem : diagnostic ∈ turn.diagnostics config := by rw [h]; simp
  rcases turn.diagnostics_cases config with ⟨_, hresult, _⟩ | ⟨_, steps, message, _, hreports⟩
  · rw [Turn.not_fatal_of_completed hresult hmem] at hfatal
    cases hfatal
  · rw [hreports] at h
    rcases List.eq_nil_or_concat after with rfl | ⟨rest, last, rfl⟩
    · rfl
    · -- Only the last diagnostic is fatal, and this one would stand before it.
      rw [List.concat_eq_append, ← List.cons_append, ← List.append_assoc] at h
      have hsteps := (List.append_inj' h rfl).1
      have hreported : diagnostic ∈ reports steps := by rw [hsteps]; simp
      obtain ⟨_, _, rfl⟩ := recoverable_of_mem_reports hreported
      cases hfatal

/-! ## What is printed -/

/-- A diagnostic of a pass is printed in one of the two forms. -/
theorem prints_diagnostic_line {diagnostic : Diagnostic} (manifest : Path)
    (h : diagnostic ∈ turn.diagnostics config) :
    Prints manifest diagnostic (diagnosticLine manifest diagnostic ++ "\n") := by
  rcases Turn.diagnostic_forms h with ⟨message, position, rfl⟩ | ⟨message, rfl⟩
  · have hline : diagnosticLine manifest ⟨.recoverable, message, some position⟩ ++ "\n" =
        s!"{manifest.text}:{position.line}:{position.column}: error: {message}\n" := by
      show manifest.text ++ ":" ++ (toString position.line ++ ":" ++ toString position.column ++
          ": error: " ++ message) ++ "\n" =
        manifest.text ++ ":" ++ toString position.line ++ ":" ++ toString position.column ++
          ": error: " ++ message ++ "\n"
      simp only [String.append_assoc]
    rw [hline]
    exact .recoverable message position
  · have hline : diagnosticLine manifest ⟨.fatal, message, none⟩ ++ "\n" =
        s!"{manifest.text}: fatal: {message}\n" := by
      have hlead : ": " ++ "fatal: " = ": fatal: " := rfl
      show manifest.text ++ ": " ++ ("fatal: " ++ message) ++ "\n" =
        manifest.text ++ ": fatal: " ++ message ++ "\n"
      rw [← hlead, ← String.append_assoc, ← String.append_assoc]
    rw [hline]
    exact .fatal message

/-- The diagnostics of a first pass stand before those of the rest. -/
theorem attributed_cons (turn : Turn) (passes : List Turn) :
    attributed config (turn :: passes) =
      (turn.diagnostics config).map (fun diagnostic => (turn.manifest, diagnostic)) ++
        attributed config passes :=
  rfl

/-- An event is not printed. -/
theorem printed_emit (world : World) (event : Event) :
    printed (world.emit event).output = printed world.output := by
  show printed (world.output ++ [.event event]) = _
  rw [printed_append]
  exact String.append_empty

/-- After a pass its diagnostics have been printed. -/
theorem printed_after_pass (world : World) (manifest : Path) (session : Session) :
    printed (world.afterPass manifest session).output =
      printed world.output ++ String.join (session.diagnostics.entries.map fun diagnostic =>
        diagnosticLine manifest diagnostic ++ "\n") := by
  have hevents : printed (session.log.map .event) = "" := by
    rw [printed, List.filterMap_map]
    exact congrArg String.join (List.filterMap_eq_nil_iff.mpr fun _ _ => rfl)
  have hdiagnostics : printed (session.diagnostics.entries.map (.diagnostic manifest)) =
      String.join (session.diagnostics.entries.map fun diagnostic =>
        diagnosticLine manifest diagnostic ++ "\n") := by
    rw [printed, List.filterMap_map]
    exact congrArg String.join (congrFun List.filterMap_eq_map' _)
  show printed (world.output ++ session.log.map .event ++
    session.diagnostics.entries.map (.diagnostic manifest)) = _
  rw [printed_append, printed_append, hevents, hdiagnostics, String.append_empty]

/-- A run prints the diagnostics of its passes, a line for each. -/
theorem Ran.printed (h : Ran config summary manifests world passes result) :
    printed result.2.output = printed world.output ++
      String.join ((attributed config passes).map fun item =>
        diagnosticLine item.1 item.2 ++ "\n") := by
  induction h with
  | done _ _ => exact String.append_empty.symm
  | unloaded _ _ _ _ _ _ => exact String.append_empty.symm
  | completed _ manifest _ world declarations _ session _ _ _ hresult _ ih =>
      rw [ih, printed_emit, printed_after_pass, attributed_cons, List.map_append,
        String.join_append, List.map_map, Turn.diagnostics, hresult, String.append_assoc]
      rfl
  | stopped _ manifest _ world declarations _ session _ hresult =>
      rw [printed_emit, printed_after_pass, attributed_cons, List.map_append, List.map_map,
        Turn.diagnostics, hresult]
      simp [attributed, Function.comp_def]

/-- In a run nothing is printed after a fatal diagnostic. -/
theorem Ran.fatal_last (h : Ran config summary manifests world passes result)
    {item : Path × Diagnostic} {before after : List (Path × Diagnostic)}
    (hsplit : attributed config passes = before ++ item :: after)
    (hfatal : item.2.isFatal = true) : after = [] := by
  induction h generalizing before with
  | done _ _ => simp [attributed] at hsplit
  | unloaded _ _ _ _ _ _ => simp [attributed] at hsplit
  | completed _ manifest _ world declarations report session passes _ _ hresult _ ih =>
      rw [attributed_cons] at hsplit
      have hcompleted : ∀ other ∈ (Turn.diagnostics ⟨manifest, declarations, world.tree,
          world.clock⟩ config).map (fun diagnostic => (manifest, diagnostic)),
          other.2.isFatal = false := by
        intro other hother
        obtain ⟨diagnostic, hdiagnostic, rfl⟩ := List.mem_map.mp hother
        exact Turn.not_fatal_of_completed (congrArg Prod.fst hresult) hdiagnostic
      -- The fatal diagnostic is not among those of a completed pass, so it is one of the rest.
      rcases List.append_eq_append_iff.mp hsplit with ⟨middle, rfl, hrest⟩ | ⟨middle, hfirst, hrest⟩
      · exact ih hrest
      · cases middle with
        | nil => exact ih (hrest.symm.trans (List.nil_append _).symm)
        | cons other middle =>
            obtain ⟨rfl, _⟩ := List.cons.inj hrest
            rw [hcompleted item (by rw [hfirst]; simp)] at hfatal
            cases hfatal
  | stopped _ manifest _ world declarations _ session _ hresult =>
      rw [attributed_cons, attributed, List.flatMap_nil, List.append_nil,
        List.map_eq_append_iff] at hsplit
      obtain ⟨front, back, hdiagnostics, _, hback⟩ := hsplit
      obtain ⟨diagnostic, rest, rfl, rfl, rfl⟩ := List.map_eq_cons_iff.mp hback
      rw [Turn.fatal_last hdiagnostics hfatal]
      rfl

/-! ## The passes of a run -/

/-- The passes of a run are for its first manifests. -/
theorem Ran.manifests_eq_take (h : Ran config summary manifests world passes result) :
    passes.map Turn.manifest = manifests.take passes.length := by
  induction h with
  | done _ _ => rfl
  | unloaded _ _ _ _ _ _ => rfl
  | completed _ _ _ _ _ _ _ _ _ _ _ _ ih =>
      rw [List.map_cons, ih, List.length_cons, List.take_succ_cons]
  | stopped _ _ _ _ _ _ _ _ _ => simp

/-- A run leaves what its passes leave. -/
theorem Ran.left (h : Ran config summary manifests world passes result) :
    (result.2.tree, result.2.clock) = leftBy config (world.tree, world.clock) passes := by
  induction h with
  | done _ _ => rfl
  | unloaded _ _ _ _ _ _ => rfl
  | completed _ _ _ _ _ _ _ _ _ _ hresult _ ih =>
      rw [ih, leftBy, hresult]
      rfl
  | stopped _ _ _ _ _ _ _ _ hresult =>
      rw [leftBy, leftBy, hresult]
      rfl

/-- Each pass of a run starts from what those before it have left, with the declarations that its
manifest lists there, and a pass that is followed by another one has been completed. -/
theorem Ran.turn_of_split (h : Ran config summary manifests world passes result)
    (hsplit : passes = earlier ++ turn :: later) :
    (turn.tree, turn.clock) = leftBy config (world.tree, world.clock) earlier ∧
      Manifest.load turn.tree turn.manifest = .ok turn.declarations ∧
      (later ≠ [] → ∃ report, (turn.result config).1 = .ok report) := by
  induction h generalizing earlier with
  | done _ _ => simp at hsplit
  | unloaded _ _ _ _ _ _ => simp at hsplit
  | completed _ _ _ _ _ report _ _ _ hload hresult _ ih =>
      cases earlier with
      | nil =>
          obtain ⟨rfl, _⟩ := List.cons.inj hsplit
          exact ⟨rfl, hload, fun _ => ⟨report, congrArg Prod.fst hresult⟩⟩
      | cons first earlier =>
          obtain ⟨rfl, hrest⟩ := List.cons.inj hsplit
          rw [leftBy, hresult]
          exact ih hrest
  | stopped _ _ _ _ _ _ _ hload _ =>
      cases earlier with
      | nil =>
          obtain ⟨rfl, rfl⟩ := List.cons.inj hsplit
          exact ⟨rfl, hload, fun hmore => absurd rfl hmore⟩
      | cons first earlier => simp at hsplit

/-! ## Where a run stops -/

/-- A run is what the ways it can go on make of it. -/
theorem Ran.eq_run_units (h : Ran config summary manifests world passes result) :
    runUnits config summary manifests world = result := by
  induction h with
  | done _ _ => rfl
  | unloaded _ _ _ _ _ hload => rw [runUnits, hload]
  | completed _ manifest _ world declarations _ _ _ _ hload hresult _ ih =>
      have hrun : Pass.run config declarations { tree := world.tree, clock := world.clock } = _ :=
        hresult
      rw [runUnits, hload]
      simp only [hrun]
      exact ih
  | stopped _ _ _ world declarations _ _ hload hresult =>
      have hrun : Pass.run config declarations { tree := world.tree, clock := world.clock } = _ :=
        hresult
      rw [runUnits, hload]
      simp only [hrun]
      rfl

/-- A run that ends with totals counts its passes. It is aborted exactly if the last of them failed,
and then whatever manifests come later make no difference to it. Otherwise all manifests have had
their passes. -/
theorem Ran.ended (h : Ran config summary manifests world passes result)
    (htotal : result.1 = .ok total) (hsummary : summary.aborted = false) :
    total.units = summary.units + passes.length ∧
      (total.aborted = true ↔
        ∃ turn error, passes.getLast? = some turn ∧ (turn.result config).1 = .error error) ∧
      (total.aborted = false → passes.length = manifests.length) ∧
      (total.aborted = true → ∀ others,
        Ran config summary (manifests.take passes.length ++ others) world passes result) := by
  induction h with
  | done _ _ =>
      cases htotal
      simp [hsummary]
  | unloaded _ _ _ _ _ _ => cases htotal
  | completed summary manifest rest world declarations report session passes _ hload hresult _ ih =>
      obtain ⟨hunits, haborted, hall, hothers⟩ := ih htotal hsummary
      refine ⟨?_, ?_, ?_, ?_⟩
      · rw [hunits]
        show summary.units + 1 + passes.length = summary.units + (passes.length + 1)
        omega
      · rw [haborted, List.getLast?_cons]
        cases passes.getLast? with
        | none => simp [hresult]
        | some last => simp
      · intro hnot
        rw [List.length_cons, List.length_cons, hall hnot]
      · intro hstopped others
        exact .completed _ _ _ _ _ _ _ _ _ hload hresult (hothers hstopped others)
  | stopped summary manifest rest world declarations error session hload hresult =>
      cases htotal
      refine ⟨rfl, ?_, ?_, ?_⟩
      · simp [hresult]
      · intro hnot
        cases hnot
      · intro _ others
        exact .stopped _ _ _ _ _ _ _ hload hresult

/-- A run that ends with an error could not load the manifest after those of its passes, all of
which have been completed, and whatever manifests come later make no difference to it. -/
theorem Ran.failed {error : Manifest.LoadError}
    (h : Ran config summary manifests world passes result) (herror : result.1 = .error error) :
    (∃ manifest, manifests[passes.length]? = some manifest ∧
      Manifest.load result.2.tree manifest = .error error) ∧
      (∀ turn ∈ passes, ∃ report, (turn.result config).1 = .ok report) ∧
      ∀ others, Ran config summary (manifests.take (passes.length + 1) ++ others) world passes
        result := by
  induction h with
  | done _ _ => cases herror
  | unloaded _ manifest _ _ _ hload =>
      cases herror
      refine ⟨⟨manifest, rfl, hload⟩, by simp, ?_⟩
      intro others
      exact .unloaded _ _ _ _ _ hload
  | completed _ _ _ _ _ report _ _ _ hload hresult _ ih =>
      obtain ⟨hmanifest, hcompleted, hothers⟩ := ih herror
      refine ⟨hmanifest, List.forall_mem_cons.mpr ⟨⟨report, congrArg Prod.fst hresult⟩,
        hcompleted⟩, ?_⟩
      intro others
      exact .completed _ _ _ _ _ _ _ _ _ hload hresult (hothers others)
  | stopped _ _ _ _ _ _ _ _ _ => cases herror

/-- A manifest that cannot be loaded is named by the error. -/
theorem path_of_load_error {tree : FileTree} {manifest : Path} {error : Manifest.LoadError}
    (h : Manifest.load tree manifest = .error error) : error.path = manifest := by
  unfold Manifest.load at h
  split at h
  · cases h
    rfl
  · split at h
    · cases h
      rfl
    · cases h

/-- A run makes passes for its first manifests, each on what those before it have left, and leaves
what they leave. It prints their diagnostics in order, each in one of two forms, and nothing after a
fatal one. If it ends with totals, these count the passes and the diagnostics, it is aborted exactly
if the last pass failed, and otherwise every manifest has had its pass. If it ends with an error,
this names the next manifest, which could not be loaded. Either way later manifests make no
difference. -/
theorem run_course (config : Config) (manifests : List Path) (world : World) :
    let result := units config manifests world
    ∃ passes : List Turn,
      passes.map Turn.manifest = manifests.take passes.length ∧
      (∀ earlier turn later, passes = earlier ++ turn :: later →
        (turn.tree, turn.clock) = leftBy config (world.tree, world.clock) earlier ∧
        Manifest.load turn.tree turn.manifest = .ok turn.declarations ∧
        (later ≠ [] → ∃ report, (turn.result config).1 = .ok report)) ∧
      (result.2.tree, result.2.clock) = leftBy config (world.tree, world.clock) passes ∧
      (∃ lines, printed result.2.output = printed world.output ++ String.join lines ∧
        List.Forall₂ (fun item line => Prints item.1 item.2 line) (attributed config passes)
          lines) ∧
      (∀ before item after, attributed config passes = before ++ item :: after →
        item.2.isFatal = true → after = []) ∧
      match result.1 with
      | .ok total =>
        total.units = passes.length ∧ total.diagnostics = (attributed config passes).length ∧
        (total.aborted = true ↔
          ∃ turn error, passes.getLast? = some turn ∧ (turn.result config).1 = .error error) ∧
        (total.aborted = false → passes.length = manifests.length) ∧
        (total.aborted = true → ∀ others,
          units config (manifests.take passes.length ++ others) world = result)
      | .error error =>
        (∃ manifest, manifests[passes.length]? = some manifest ∧
          Manifest.load result.2.tree manifest = .error error ∧ error.path = manifest ∧
          error.message = s!"failed to load {manifest.text}") ∧
        (∀ turn ∈ passes, ∃ report, (turn.result config).1 = .ok report) ∧
        ∀ others, units config (manifests.take (passes.length + 1) ++ others) world = result := by
  intro result
  have hran : Ran config {} manifests world (turns config manifests world.tree world.clock)
      result := run_units_ran config {} manifests world
  refine ⟨turns config manifests world.tree world.clock, hran.manifests_eq_take,
    fun _ _ _ => hran.turn_of_split, hran.left, ⟨_, hran.printed, ?_⟩,
    fun _ _ _ => hran.fatal_last, ?_⟩
  · rw [List.forall₂_map_right_iff, List.forall₂_same]
    intro item hitem
    obtain ⟨turn, _, hdiagnostic⟩ := List.mem_flatMap.mp hitem
    obtain ⟨diagnostic, hreported, rfl⟩ := List.mem_map.mp hdiagnostic
    exact prints_diagnostic_line turn.manifest hreported
  · cases hend : result.1 with
    | ok total =>
        obtain ⟨hunits, haborted, hall, hothers⟩ := hran.ended hend rfl
        refine ⟨hunits.trans (Nat.zero_add _), ?_, haborted, hall, ?_⟩
        · rw [hran.count hend, attributed, List.length_flatMap, List.length_flatMap]
          simp
        · intro hstopped others
          exact (hothers hstopped others).eq_run_units
    | error error =>
        obtain ⟨⟨manifest, hmanifest, hload⟩, hcompleted, hothers⟩ := hran.failed hend
        have hpath := path_of_load_error hload
        refine ⟨⟨manifest, hmanifest, hload, hpath, ?_⟩, hcompleted, ?_⟩
        · rw [Manifest.LoadError.message, hpath]
        · intro others
          exact (hothers others).eq_run_units

end Run

end PluginDescriptor
