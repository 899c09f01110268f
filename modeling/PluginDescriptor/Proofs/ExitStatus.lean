import PluginDescriptor.Program
import PluginDescriptor.Proofs.Confinement
import PluginDescriptor.Proofs.LeftBehind

/-!
# What the exit status says

A call of the program that makes a run exits with 0 if every manifest can be loaded in its turn, all
that is annotated there is as it has to be, and everything that is asked for can be written, and
only then. `exit_status` is the main statement. It rests on `Turn.succeeds_iff`, that a pass is one
that succeeds exactly if it has no diagnostics, and on the accounts of a whole run, `Ran.clean_iff`.
What is there in the end for an id that a declaration is entitled to is told by
`Ran.file_of_licensed`: the descriptor of the class that was the last to ask for it.
-/

namespace PluginDescriptor

open Plan

namespace Run

/-- A pass has nothing to report and puts everything in place that its declarations ask for. -/
structure Turn.Succeeds (turn : Turn) (config : Config) : Prop where
  faultless : ∀ declaration ∈ turn.declarations, declaration.enclosing = none →
    declaration.markers ≠ [] → declaration.Faultless
  written : ∃ after, execute config (ofUnit turn.declarations) (ofSession turn.start []) =
    (.ok (), after)

/-- The annotations of the declarations that are not nested. -/
def Turn.annotations (turn : Turn) : List Marker :=
  (turn.declarations.filter (·.enclosing = none)).flatMap (·.markers)

/-- The descriptors that a pass of a run puts in place, whether or not it is completed. -/
def Turn.placed (turn : Turn) (config : Config) : List Writing :=
  Plan.placed config turn.declarations turn.start

/-- The descriptors that a pass of a run is asked for, each with its class. -/
def Turn.asked (turn : Turn) : List (PluginId × String) :=
  writes (ofUnit turn.declarations)

/-- The class for which the descriptor of an id is asked for last. -/
def lastAsked? (passes : List Turn) (id : PluginId) : Option String :=
  ((passes.flatMap Turn.asked).reverse.find? fun request => request.1 = id).map Prod.snd

variable {config : Config} {turn : Turn} {passes : List Turn} {manifests : List Path}
  {summary total : Summary} {world : World} {result : Except Manifest.LoadError Summary × World}

/-! ## One pass -/

/-- A pass succeeds if and only if it has no diagnostics. -/
theorem Turn.succeeds_iff : turn.Succeeds config ↔ turn.diagnostics config = [] := by
  unfold Turn.diagnostics Turn.result
  cases hexecute : execute config (ofUnit turn.declarations) (ofSession turn.start []) with
  | mk outcome after =>
      cases outcome with
      | ok =>
          obtain ⟨_, _, hdiagnostics⟩ := run_of_execute_ok hexecute
          rw [hdiagnostics]
          show _ ↔ [] ++ reports (ofUnit turn.declarations) = []
          rw [List.nil_append, reports_eq_nil_iff]
          exact ⟨fun h => h.faultless, fun h => ⟨h, after, hexecute⟩⟩
      | error error =>
          obtain ⟨_, hsession⟩ := run_of_execute_error hexecute
          obtain ⟨_, id, _, _, ready, _, _, hlast⟩ := execute_error hexecute
          have hentries := (perform_refused hlast).2
          rw [← hsession] at hentries
          constructor
          · intro h
            obtain ⟨last, hwritten⟩ := h.written
            rw [hexecute] at hwritten
            cases hwritten
          · -- The failure itself has been reported, so there is a diagnostic.
            intro hnone
            have hempty : (ofSession (Pass.run config turn.declarations turn.start).2
                after.writings).diagnostics.entries = [] := hnone
            rw [hempty] at hentries
            simp at hentries

/-- A pass that succeeds is completed with a descriptor for each annotation and no diagnostics. -/
theorem Turn.Succeeds.completed (h : turn.Succeeds config) :
    ∃ report session, turn.result config = (.ok report, session) ∧
      report.written.length = turn.annotations.length ∧ session.diagnostics.size = 0 := by
  obtain ⟨after, hexecute⟩ := h.written
  obtain ⟨hreport, _, _⟩ := run_of_execute_ok hexecute
  refine ⟨_, _, Prod.ext hreport rfl, ?_, ?_⟩
  · rw [List.length_map, length_writes (reports_eq_nil_iff.mpr h.faultless), annotations]
  · exact List.length_eq_zero_iff.mpr (Turn.succeeds_iff.mp h)

/-- A pass that succeeds is not one that ends its run. -/
theorem Turn.Succeeds.not_stopped {error : DescriptorError} {session : Session}
    (h : turn.Succeeds config) : turn.result config ≠ (.error error, session) := by
  obtain ⟨_, _, hcompleted, _⟩ := h.completed
  intro hresult
  rw [hcompleted] at hresult
  cases hresult

/-- A pass that succeeds puts in place what it is asked for, in order. -/
theorem Turn.Succeeds.names_placed (h : turn.Succeeds config) :
    names (turn.placed config) = turn.asked := by
  obtain ⟨after, hexecute⟩ := h.written
  obtain ⟨_, recorded, hrecorded, hwrites⟩ := execute_ok hexecute
  rw [Turn.placed, Plan.placed, hexecute, hrecorded]
  exact hwrites

/-- What a pass puts in place is a descriptor with the settings of the run. -/
theorem Turn.renders_of_placed {writing : Writing} (h : writing ∈ turn.placed config) :
    config.Renders writing.className writing.bytes := by
  obtain ⟨place, hplace⟩ := List.mem_iff_getElem?.mp h
  obtain ⟨_, hlabel, _, hcharset⟩ := writing_of_placed hplace
  refine ⟨writing.charset, writing.moment, hcharset, ?_⟩
  rw [Writing.bytes, hlabel]

/-! ## A whole run -/

/-- A run leaves the descriptors that its passes put in place. -/
theorem Ran.leaves (h : Ran config summary manifests world passes result) :
    Leaves config.descriptorDirectory world.tree result.2.tree
      (passes.flatMap (Turn.placed · config)) := by
  have hpass (turn : Turn) {outcome : Except DescriptorError Pass.Report} {session : Session}
      (hresult : turn.result config = (outcome, session)) :
      Leaves config.descriptorDirectory turn.tree session.tree (turn.placed config) := by
    have hleaves := leaves_of_run config turn.declarations turn.start
    rw [show Pass.run config turn.declarations turn.start = (outcome, session) from hresult]
      at hleaves
    exact hleaves
  induction h with
  | done _ _ => exact leaves_of_no_file .refl
  | unloaded _ _ _ _ _ _ => exact leaves_of_no_file .refl
  | completed _ _ _ _ _ _ _ _ _ _ hresult _ ih =>
      rw [List.flatMap_cons]
      exact (hpass _ hresult).append ih
  | stopped _ _ _ _ _ _ _ _ hresult =>
      rw [List.flatMap_singleton]
      exact hpass _ hresult

/-- Where every pass succeeds, the latest descriptor of an id is for the class that was the last to
ask for it. -/
theorem last_asked_of_latest {id : PluginId} {writing : Writing}
    (hsucceeds : ∀ turn ∈ passes, turn.Succeeds config)
    (h : latest? id (passes.flatMap (Turn.placed · config)) = some writing) :
    lastAsked? passes id = some writing.className := by
  have hasked : passes.flatMap Turn.asked = names (passes.flatMap (Turn.placed · config)) := by
    rw [names, List.map_flatMap]
    exact List.flatMap_congr fun turn hturn => (hsucceeds turn hturn).names_placed.symm
  rw [lastAsked?, hasked, names, ← List.map_reverse, List.find?_map, Option.map_map]
  exact Option.map_eq_some_iff.mpr ⟨writing, h, rfl⟩

/-- Where every pass succeeds, there is a file in the end for each id that a declaration is entitled
to, and it is a descriptor of the class that was the last to ask for the id. -/
theorem Ran.file_of_licensed (h : Ran config summary manifests world passes result)
    (hsucceeds : ∀ turn ∈ passes, turn.Succeeds config) {declaration : Declaration}
    (hturn : turn ∈ passes) (hdeclaration : declaration ∈ turn.declarations) {id : PluginId}
    (hlicenses : declaration.Licenses id) :
    ∃ className bytes, lastAsked? passes id = some className ∧ config.Renders className bytes ∧
      result.2.tree.entryOf? (config.descriptorDirectory.join ⟨id.fileName⟩) =
        some (.file bytes) := by
  have hwrite : (id, declaration.name) ∈ turn.asked :=
    mem_writes_iff.mpr ⟨declaration, hdeclaration, hlicenses, rfl⟩
  rw [← (hsucceeds turn hturn).names_placed] at hwrite
  obtain ⟨placed, hplaced, hname⟩ := List.mem_map.mp hwrite
  obtain ⟨rfl, _⟩ := Prod.mk.inj hname
  have hmember : placed ∈ passes.flatMap (Turn.placed · config) :=
    List.mem_flatMap.mpr ⟨turn, hturn, hplaced⟩
  obtain ⟨writing, hlatest⟩ := exists_latest hmember
  obtain ⟨location, hlocation, hfile⟩ := h.leaves.latest placed.id writing hlatest
  obtain ⟨_, earlier, later, hsplit, _⟩ := latest_eq_some_iff.mp hlatest
  have hwriting : writing ∈ passes.flatMap (Turn.placed · config) := by
    rw [hsplit]
    simp
  obtain ⟨source, _, hsource⟩ := List.mem_flatMap.mp hwriting
  refine ⟨writing.className, writing.bytes, last_asked_of_latest hsucceeds hlatest,
    Turn.renders_of_placed hsource, ?_⟩
  rw [FileTree.entryOf?, hlocation, Option.bind_some, hfile]

/-- If no pass of a run has any diagnostics and every manifest has had its turn, the run ends with
totals that count all manifests and all annotations. -/
theorem Ran.totals (h : Ran config summary manifests world passes result)
    (hclean : ∀ turn ∈ passes, turn.Succeeds config)
    (hmanifests : passes.map Turn.manifest = manifests) :
    result.1 = .ok
      { summary with
        units := summary.units + manifests.length
        descriptors := summary.descriptors + (passes.flatMap Turn.annotations).length } := by
  induction h with
  | done _ _ => rfl
  | unloaded _ _ _ _ _ _ => cases hmanifests
  | completed _ _ _ _ _ _ _ _ _ _ hresult _ ih =>
      obtain ⟨hfirst, hrest⟩ := List.forall_mem_cons.mp hclean
      rw [List.map_cons, List.cons.injEq] at hmanifests
      rw [ih hrest hmanifests.2]
      obtain ⟨report, session, hcompleted, hwritten, hsize⟩ := hfirst.completed
      rw [hcompleted] at hresult
      cases hresult
      simp only [Summary.afterPass, hsize, hwritten, List.length_cons, List.flatMap_cons,
        List.length_append]
      congr 2 <;> omega
  | stopped _ _ _ _ _ _ _ _ hresult => exact absurd hresult (hclean _ (.head _)).not_stopped

/-- In a run that ends with totals and without any diagnostics, every manifest has had its turn. -/
theorem Ran.all_turns (h : Ran config summary manifests world passes result)
    (hclean : ∀ turn ∈ passes, turn.Succeeds config) (htotal : result.1 = .ok total) :
    passes.map Turn.manifest = manifests := by
  induction h with
  | done _ _ => rfl
  | unloaded _ _ _ _ _ _ => cases htotal
  | completed _ _ _ _ _ _ _ _ _ _ _ _ ih =>
      rw [List.forall_mem_cons] at hclean
      rw [List.map_cons, ih hclean.2 htotal]
  | stopped _ _ _ _ _ _ _ _ hresult => exact absurd hresult (hclean _ (.head _)).not_stopped

/-- No diagnostics are counted if and only if every pass succeeds. -/
theorem Ran.clean_iff (h : Ran config summary manifests world passes result)
    (htotal : result.1 = .ok total) (hsummary : summary.diagnostics = 0) :
    total.diagnostics = 0 ↔ ∀ turn ∈ passes, turn.Succeeds config := by
  rw [h.count htotal, hsummary, Nat.zero_add, List.length_eq_zero_iff, List.flatMap_eq_nil_iff]
  exact forall₂_congr fun _ _ => Turn.succeeds_iff.symm

end Run

namespace Program

open Run

/-- What a run starts from: the settings have been logged. -/
def startOf (commandLine : CommandLine) (clock : Clock) (tree : FileTree) : World where
  tree
  clock
  output := [.event (.configured commandLine.config.outputRoot commandLine.config.encoding
    commandLine.config.label)]

variable {commandLine : CommandLine} {clock : Clock} {tree : FileTree} {world : World}
  {output : List Output}

/-- Where no diagnostics have been put out, there are events only. -/
theorem events_of_reported_nil (h : reported output = []) :
    ∀ item ∈ output, ∃ event, item = .event event := by
  unfold reported at h
  rw [List.filterMap_eq_nil_iff] at h
  intro item hitem
  cases item with
  | event event => exact ⟨event, rfl⟩
  | diagnostic manifest diagnostic => cases h _ hitem

/-- Where no diagnostics have been put out, none are printed. -/
theorem printed_of_reported_nil (h : reported output = []) : printed output = "" := by
  unfold printed
  rw [List.filterMap_eq_nil_iff.mpr]
  · rfl
  · intro item hitem
    obtain ⟨event, rfl⟩ := events_of_reported_nil h item hitem
    rfl

/-- Where no diagnostics have been put out, the error output is made of logged events. -/
theorem visible_of_reported_nil {filter : LogFilter} {line : Line} (h : reported output = [])
    (hline : line ∈ output.filterMap (visible filter)) : ∃ event, line = .event event := by
  rw [List.mem_filterMap] at hline
  obtain ⟨item, hitem, hvisible⟩ := hline
  obtain ⟨event, rfl⟩ := events_of_reported_nil h item hitem
  simp only [visible] at hvisible
  split at hvisible
  · cases hvisible
    exact ⟨event, rfl⟩
  · cases hvisible

/-- What has been reported has been put out for a manifest. -/
theorem diagnostic_of_reported (h : reported output ≠ []) :
    ∃ manifest diagnostic, .diagnostic manifest diagnostic ∈ output := by
  obtain ⟨diagnostic, rest, hfirst⟩ := List.exists_cons_of_ne_nil h
  have hmem : diagnostic ∈ reported output := hfirst ▸ List.mem_cons_self
  unfold reported at hmem
  rw [List.mem_filterMap] at hmem
  obtain ⟨item, hitem, hsame⟩ := hmem
  cases item with
  | event event => cases hsame
  | diagnostic manifest other => exact ⟨manifest, other, hitem⟩

/-- A run that is ended by a manifest that cannot be loaded is reported as such. -/
theorem generate_of_error {error : Manifest.LoadError} (logging : Option String)
    (h : units commandLine.config commandLine.manifests (startOf commandLine clock tree) =
      (.error error, world)) :
    (generate commandLine logging clock tree).exitCode = 1 ∧
      .failure error ∈ (generate commandLine logging clock tree).errorLines := by
  unfold startOf at h
  simp only [generate, h, true_and]
  exact List.mem_append_right _ (.head _)

/-- A run that comes to its end, or is ended by a failed pass, is judged by its diagnostics. -/
theorem generate_of_ok {total : Summary} (logging : Option String)
    (h : units commandLine.config commandLine.manifests (startOf commandLine clock tree) =
      (.ok total, world)) :
    (generate commandLine logging clock tree).exitCode =
        (if total.diagnostics = 0 then 0 else 1) ∧
      (generate commandLine logging clock tree).tree = world.tree ∧
      (generate commandLine logging clock tree).errorLines =
        (world.emit (.finished total.units total.descriptors total.diagnostics
          total.aborted)).output.filterMap
          (visible (LogFilter.choose logging commandLine.verbose)) := by
  unfold startOf at h
  simp only [generate, h, Summary.isClean, decide_eq_true_eq, World.emit, and_self]

/-- If every manifest has its turn and every pass succeeds, the totals say so, no diagnostic is
printed, every descriptor that a declaration is entitled to is there, and the program exits with
0. -/
theorem generate_succeeded (logging : Option String)
    (hmanifests : (turns commandLine.config commandLine.manifests tree clock).map Turn.manifest =
      commandLine.manifests)
    (hsucceeds : ∀ turn ∈ turns commandLine.config commandLine.manifests tree clock,
      turn.Succeeds commandLine.config) :
    let ended := units commandLine.config commandLine.manifests (startOf commandLine clock tree)
    let outcome := generate commandLine logging clock tree
    outcome.exitCode = 0 ∧
      ended.1 = .ok
        { units := commandLine.manifests.length
          descriptors := ((turns commandLine.config commandLine.manifests tree clock).flatMap
            Turn.annotations).length
          diagnostics := 0
          aborted := false } ∧
      printed ended.2.output = "" ∧
      (∀ line ∈ outcome.errorLines, ∃ event, line = .event event) ∧
      ∀ turn ∈ turns commandLine.config commandLine.manifests tree clock,
        ∀ declaration ∈ turn.declarations, ∀ id, declaration.Licenses id →
        ∃ className bytes,
          lastAsked? (turns commandLine.config commandLine.manifests tree clock) id =
            some className ∧
          commandLine.config.Renders className bytes ∧
          outcome.tree.entryOf?
            (commandLine.config.descriptorDirectory.join ⟨id.fileName⟩) = some (.file bytes) := by
  intro ended outcome
  have hran : Ran commandLine.config {} commandLine.manifests (startOf commandLine clock tree)
      (turns commandLine.config commandLine.manifests tree clock) ended :=
    run_units_ran commandLine.config {} commandLine.manifests (startOf commandLine clock tree)
  have htotals : ended.1 = .ok _ := hran.totals hsucceeds hmanifests
  have hnone : reported ended.2.output = [] := by
    have hreported : reported ended.2.output = _ := hran.reported
    rw [hreported, List.append_eq_nil_iff, List.flatMap_eq_nil_iff]
    exact ⟨rfl, fun turn hturn => Turn.succeeds_iff.mp (hsucceeds turn hturn)⟩
  obtain ⟨hcode, htree, hlines⟩ :
      outcome.exitCode = _ ∧ outcome.tree = _ ∧ outcome.errorLines = _ :=
    generate_of_ok logging (Prod.ext htotals rfl)
  refine ⟨hcode, by simpa using htotals, printed_of_reported_nil hnone, ?_, ?_⟩
  · intro line hline
    rw [hlines] at hline
    exact visible_of_reported_nil ((reported_emit ended.2 _).trans hnone) hline
  · intro turn hturn declaration hdeclaration id hlicenses
    rw [htree]
    exact hran.file_of_licensed hsucceeds hturn hdeclaration hlicenses

/-- If a manifest has no turn or a pass does not succeed, the program says why and exits with 1. -/
theorem generate_failed (logging : Option String)
    (h : ¬ ((turns commandLine.config commandLine.manifests tree clock).map Turn.manifest =
        commandLine.manifests ∧
      ∀ turn ∈ turns commandLine.config commandLine.manifests tree clock,
        turn.Succeeds commandLine.config)) :
    let ended := units commandLine.config commandLine.manifests (startOf commandLine clock tree)
    let outcome := generate commandLine logging clock tree
    outcome.exitCode = 1 ∧
      ((∃ error, ended.1 = .error error ∧ .failure error ∈ outcome.errorLines) ∨
        ∃ manifest diagnostic, .diagnostic manifest diagnostic ∈ ended.2.output ∧
          .text (diagnosticLine manifest diagnostic) ∈ outcome.errorLines) := by
  intro ended outcome
  have hran : Ran commandLine.config {} commandLine.manifests (startOf commandLine clock tree)
      (turns commandLine.config commandLine.manifests tree clock) ended :=
    run_units_ran commandLine.config {} commandLine.manifests (startOf commandLine clock tree)
  cases hended : ended.1 with
  | error error =>
      obtain ⟨hcode, hfailure⟩ : outcome.exitCode = 1 ∧ .failure error ∈ outcome.errorLines :=
        generate_of_error logging (Prod.ext hended rfl)
      exact ⟨hcode, Or.inl ⟨error, rfl, hfailure⟩⟩
  | ok total =>
      have hfailing : ¬ ∀ turn ∈ turns commandLine.config commandLine.manifests tree clock,
          turn.Succeeds commandLine.config := by
        intro hsucceeds
        exact h ⟨hran.all_turns hsucceeds hended, hsucceeds⟩
      have hcount : total.diagnostics ≠ 0 :=
        (not_congr (hran.clean_iff hended rfl)).mpr hfailing
      have hsome : reported ended.2.output ≠ [] := by
        have hreported : reported ended.2.output = _ := hran.reported
        intro hnone
        rw [hreported, List.append_eq_nil_iff] at hnone
        rw [hran.count hended, hnone.2] at hcount
        exact hcount rfl
      obtain ⟨hcode, _, hlines⟩ :
          outcome.exitCode = _ ∧ outcome.tree = _ ∧ outcome.errorLines = _ :=
        generate_of_ok logging (Prod.ext hended rfl)
      rw [if_neg hcount] at hcode
      obtain ⟨manifest, diagnostic, hdiagnostic⟩ := diagnostic_of_reported hsome
      refine ⟨hcode, Or.inr ⟨manifest, diagnostic, hdiagnostic, ?_⟩⟩
      rw [hlines]
      exact List.mem_filterMap.mpr ⟨_, List.mem_append_left _ hdiagnostic, rfl⟩

/-- A call of the program that makes a run exits with 0 if and only if every manifest, read when its
turn has come, can be loaded, whatever is annotated there and not nested is faultless, and all that
it asks for is written. Then the totals count every manifest and every such annotation, no
diagnostic is printed, and for each id that a declaration is entitled to there is a file, a
descriptor of the class that was the last to ask for it. Otherwise it exits with 1, and reports that
a manifest cannot be loaded or prints a diagnostic. -/
theorem exit_status {arguments : List String}
    (h : CommandLine.parse arguments = .ok commandLine) (logging : Option String) (clock : Clock)
    (tree : FileTree) :
    let config := commandLine.config
    let manifests := commandLine.manifests
    let passes := turns config manifests tree clock
    let ended := units config manifests (startOf commandLine clock tree)
    let outcome := run arguments logging clock tree
    (outcome.exitCode = 0 ↔
      passes.map Turn.manifest = manifests ∧ ∀ turn ∈ passes, turn.Succeeds config) ∧
    (outcome.exitCode = 0 →
      ended.1 = .ok
        { units := manifests.length
          descriptors := (passes.flatMap Turn.annotations).length
          diagnostics := 0
          aborted := false } ∧
      printed ended.2.output = "" ∧
      (∀ line ∈ outcome.errorLines, ∃ event, line = .event event) ∧
      ∀ turn ∈ passes, ∀ declaration ∈ turn.declarations, ∀ id, declaration.Licenses id →
        ∃ className bytes, lastAsked? passes id = some className ∧
          config.Renders className bytes ∧
          outcome.tree.entryOf? (config.descriptorDirectory.join ⟨id.fileName⟩) =
            some (.file bytes)) ∧
    (outcome.exitCode ≠ 0 →
      outcome.exitCode = 1 ∧
      ((∃ error, ended.1 = .error error ∧ .failure error ∈ outcome.errorLines) ∨
        ∃ manifest diagnostic, .diagnostic manifest diagnostic ∈ ended.2.output ∧
          .text (diagnosticLine manifest diagnostic) ∈ outcome.errorLines)) := by
  intro config manifests passes ended outcome
  have houtcome : outcome = generate commandLine logging clock tree := by
    show run arguments logging clock tree = _
    rw [run, h]
  rw [houtcome]
  by_cases hall : passes.map Turn.manifest = manifests ∧ ∀ turn ∈ passes, turn.Succeeds config
  · obtain ⟨hzero, hrest⟩ := generate_succeeded logging hall.1 hall.2
    refine ⟨⟨fun _ => hall, fun _ => hzero⟩, fun _ => hrest, ?_⟩
    intro hnonzero
    exact absurd hzero hnonzero
  · obtain ⟨hone, hrest⟩ := generate_failed logging hall
    have hnonzero : (generate commandLine logging clock tree).exitCode ≠ 0 := by
      rw [hone]
      decide
    refine ⟨⟨fun hzero => absurd hzero hnonzero, fun h => absurd h hall⟩, ?_, fun _ =>
      ⟨hone, hrest⟩⟩
    intro hzero
    exact absurd hzero hnonzero

/-- A file tree with one file, `unit.toml`, at its top. -/
def withManifest (text : String) : FileTree :=
  FileTree.empty.place "unit.toml" FileTree.empty.top (.file text.toUTF8.data.toList) (by
    intro hfound
    exact absurd hfound (by decide +kernel))

/-- A manifest with one annotated class has its turn, and all of it is generated: there is a file
for the class in the end. -/
theorem exit_status_of_one_class :
    let commandLine : CommandLine := { manifests := [⟨"unit.toml"⟩], outputDirectory := ⟨"out"⟩ }
    let clock := Clock.constant ⟨0, 0, 0⟩
    let tree := withManifest <|
      "[[declaration]]\nname = \"a.B\"\nvisibility = \"public\"\n" ++
        "implements = [\"org.gradle.api.Plugin\"]\n[[declaration.annotation]]\nvalue = \"a.b\"\n"
    let passes := turns commandLine.config commandLine.manifests tree clock
    (run ["-o", "out", "unit.toml"] none clock tree).exitCode = 0 ∧
      passes.map Turn.manifest = [⟨"unit.toml"⟩] ∧
      (∀ turn ∈ passes, turn.Succeeds commandLine.config) ∧
      ∃ moment, (run ["-o", "out", "unit.toml"] none clock tree).tree.entryOf?
          ⟨"out/META-INF/gradle-plugins/a.b.properties"⟩ =
        some (.file (Charset.utf8.encode (Descriptor.render .standard moment "a.B"))) := by
  intro commandLine clock tree passes
  let id : PluginId := ⟨"a.b", by decide +kernel⟩
  have hparse : CommandLine.parse ["-o", "out", "unit.toml"] = .ok commandLine := rfl
  have hzero : (run ["-o", "out", "unit.toml"] none clock tree).exitCode = 0 := by
    decide +kernel
  obtain ⟨hstatus, hgenerated, _⟩ := exit_status hparse none clock tree
  obtain ⟨hmanifests, hsucceeds⟩ := hstatus.mp hzero
  obtain ⟨_, _, _, hfiles⟩ := hgenerated hzero
  refine ⟨hzero, hmanifests, hsucceeds, ?_⟩
  have hasked : passes.flatMap Turn.asked = [(id, "a.B")] := by decide +kernel
  have hmember : (id, "a.B") ∈ passes.flatMap Turn.asked := by rw [hasked]; exact .head _
  obtain ⟨turn, hturn, hwrite⟩ := List.mem_flatMap.mp hmember
  obtain ⟨declaration, hdeclaration, hlicenses, _⟩ := mem_writes_iff.mp hwrite
  obtain ⟨className, bytes, hlast, ⟨charset, moment, hcharset, rfl⟩, hentry⟩ :=
    hfiles turn hturn declaration hdeclaration id hlicenses
  have hname : lastAsked? passes id = some "a.B" := by
    rw [lastAsked?, hasked]
    decide +kernel
  have hencoding : Charset.ofName commandLine.config.encoding = .ok .utf8 := by decide +kernel
  have hpath : commandLine.config.descriptorDirectory.join ⟨id.fileName⟩ =
      ⟨"out/META-INF/gradle-plugins/a.b.properties"⟩ := by decide +kernel
  obtain rfl : "a.B" = className := Option.some.inj (hname.symm.trans hlast)
  obtain rfl : Charset.utf8 = charset := Except.ok.inj (hencoding.symm.trans hcharset)
  rw [hpath] at hentry
  exact ⟨moment, hentry⟩

end Program

end PluginDescriptor
