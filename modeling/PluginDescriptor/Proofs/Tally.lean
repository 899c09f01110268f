import PluginDescriptor.Proofs.ExitStatus
import PluginDescriptor.Proofs.Trace

/-!
# What the totals count

The descriptors that a run puts in place are those that its passes put in place, one pass after the
other. `Puts` says so of the file tree and `informed` of the log. The totals come from the reports
of completed passes, so a pass that fails is counted with its diagnostics but without the
descriptors that it has put in place before: `descriptors_counted` is the balance,
`uncounted_descriptor` a run that leaves a descriptor out.
-/

namespace PluginDescriptor

open FileTree

namespace Plan

/-- `Puts directory before after writings` says that the writes that have succeeded on the way from
one file tree to another are those of these descriptors, in order. What happens apart from them
creates directories at most. -/
inductive Puts (directory : Path) : FileTree → FileTree → List Writing → Prop where
  | directories {before after : FileTree} : Changes directory noFile before after →
      Puts directory before after []
  | written {before after : FileTree} {writing : Writing} {target : Path} :
      Descriptor.write before directory writing.id writing.bytes = (.ok target, after) →
      Puts directory before after [writing]
  | append {before tree after : FileTree} {first second : List Writing} :
      Puts directory before tree first → Puts directory tree after second →
      Puts directory before after (first ++ second)

variable (config : Config) (declarations : List Declaration) (session : Session)

/-- The successful writes of a pass are those of the descriptors that it puts in place. -/
theorem run_puts : Puts config.descriptorDirectory session.tree
    (Pass.run config declarations session).2.tree (placed config declarations session) := by
  obtain ⟨recorded, hwritings, hputs⟩ :=
    (execute_executed config (ofUnit declarations) (ofSession session [])).recorded
      Puts.directories (fun hwritten => .written hwritten.choose_spec) Puts.append
  obtain rfl : placed config declarations session = recorded := hwritings
  rw [run_tree]
  exact hputs

/-- A pass informs of every descriptor that it puts in place, and of nothing else. -/
theorem run_informed :
    (Pass.run config declarations session).2.log.filter (fun event => event.level = .info) =
      session.log.filter (fun event => event.level = .info) ++
        (placed config declarations session).map (·.event config.descriptorDirectory) := by
  obtain ⟨_, recorded, _, _, hplaced, hlog, hchronicle⟩ :=
    run_from_chronicled config {} declarations session []
  obtain rfl : placed config declarations session = recorded := hplaced
  rw [Pass.run, hlog, List.filter_append, hchronicle.recounts.written]

end Plan

namespace Run

open Plan

/-- The informational events that have been logged. -/
def informed (output : List Output) : List Event :=
  (logged output).filter fun event => event.level = .info

variable {config : Config} {turn : Turn} {session : Session} {manifests : List Path}
  {passes : List Turn} {summary total : Summary} {world : World}
  {result : Except Manifest.LoadError Summary × World}

/-! ## One pass -/

/-- The successful writes of a pass are those of the descriptors that it puts in place. -/
theorem Turn.puts {outcome : Except DescriptorError Pass.Report}
    (hresult : turn.result config = (outcome, session)) :
    Puts config.descriptorDirectory turn.tree session.tree (turn.placed config) := by
  have hputs := run_puts config turn.declarations turn.start
  rwa [show Pass.run config turn.declarations turn.start = (outcome, session) from hresult] at hputs

/-- The report of a completed pass lists what the pass has put in place. -/
theorem Turn.length_written {report : Pass.Report}
    (hresult : turn.result config = (.ok report, session)) :
    report.written.length = (turn.placed config).length := by
  have hrun := result_of_run config turn.declarations turn.start
  rw [show Pass.run config turn.declarations turn.start = (.ok report, session) from hresult]
    at hrun
  cases hexecute : (execute config (ofUnit turn.declarations) (ofSession turn.start [])).1 with
  | error error =>
      rw [hexecute] at hrun
      cases hrun
  | ok =>
      rw [hexecute] at hrun
      cases hrun
      exact List.length_map _

/-- Output informs piece by piece. -/
theorem informed_append (first second : List Output) :
    informed (first ++ second) = informed first ++ informed second := by
  rw [informed, logged_append, List.filter_append, informed, informed]

/-- An event that is not informational adds nothing to those that are. -/
theorem informed_emit {event : Event} (h : event.level ≠ .info) (world : World) :
    informed (world.emit event).output = informed world.output := by
  show informed (world.output ++ [.event event]) = _
  have hnone : informed [.event event] = [] := by simp [informed, logged, h]
  rw [informed_append, hnone, List.append_nil]

/-- After a pass the output informs of what the pass has put in place. -/
theorem Turn.informed {outcome : Except DescriptorError Pass.Report}
    (hresult : turn.result config = (outcome, session)) (world : World) :
    informed (world.afterPass turn.manifest session).output = informed world.output ++
      (turn.placed config).map (·.event config.descriptorDirectory) := by
  have hlogged : logged (session.log.map .event) = session.log := by
    rw [logged, List.filterMap_map]
    exact List.filterMap_some
  have hreported : logged (session.diagnostics.entries.map (.diagnostic turn.manifest)) = [] := by
    rw [logged, List.filterMap_map]
    exact List.filterMap_eq_nil_iff.mpr fun _ _ => rfl
  have hinformed := run_informed config turn.declarations turn.start
  rw [show Pass.run config turn.declarations turn.start = (outcome, session) from hresult]
    at hinformed
  show Run.informed (world.output ++ session.log.map .event ++
    session.diagnostics.entries.map (.diagnostic turn.manifest)) = _
  rw [informed_append, informed_append, List.append_assoc]
  simp only [Run.informed, hlogged, hreported, hinformed]
  simp [Turn.start, Turn.placed]

/-! ## All passes -/

/-- The successful writes of a run are those of the descriptors that its passes put in place. -/
theorem Ran.puts (h : Ran config summary manifests world passes result) :
    Puts config.descriptorDirectory world.tree result.2.tree
      (passes.flatMap (Turn.placed · config)) := by
  induction h with
  | done _ _ => exact .directories .refl
  | unloaded _ _ _ _ _ _ => exact .directories .refl
  | completed _ _ _ _ _ _ _ _ _ _ hresult _ ih =>
      rw [List.flatMap_cons]
      exact .append (Turn.puts hresult) ih
  | stopped _ _ _ _ _ _ _ _ hresult =>
      rw [List.flatMap_singleton]
      exact Turn.puts hresult

/-- A run informs of every descriptor that its passes put in place, and of nothing else. -/
theorem Ran.informed (h : Ran config summary manifests world passes result) :
    informed result.2.output = informed world.output ++
      (passes.flatMap (Turn.placed · config)).map (·.event config.descriptorDirectory) := by
  induction h with
  | done _ _ => exact (List.append_nil _).symm
  | unloaded _ _ _ _ _ _ => exact (List.append_nil _).symm
  | completed _ _ _ world _ _ _ _ _ _ hresult _ ih =>
      rw [ih, informed_emit (by simp [Event.level]), Turn.informed hresult, List.flatMap_cons,
        List.map_append, List.append_assoc]
  | stopped _ _ _ world _ _ _ _ hresult =>
      rw [informed_emit (by simp [Event.level]), Turn.informed hresult, List.flatMap_singleton]

/-- A run that ends with totals has counted the descriptors of its completed passes. If it is
aborted, those that the last pass has put in place are missing. -/
theorem Ran.descriptors (h : Ran config summary manifests world passes result)
    (htotal : result.1 = .ok total) (hsummary : summary.aborted = false) :
    (total.aborted = false → total.descriptors =
      summary.descriptors + (passes.flatMap (Turn.placed · config)).length) ∧
    (total.aborted = true → ∃ earlier failing error, passes = earlier ++ [failing] ∧
      (failing.result config).1 = .error error ∧
      total.descriptors + (failing.placed config).length =
        summary.descriptors + (passes.flatMap (Turn.placed · config)).length) := by
  induction h with
  | done _ _ =>
      cases htotal
      simp [hsummary]
  | unloaded _ _ _ _ _ _ => cases htotal
  | completed _ _ _ _ _ _ _ _ _ _ hresult _ ih =>
      obtain ⟨hall, hstopped⟩ := ih htotal hsummary
      have hwritten := Turn.length_written hresult
      rw [List.flatMap_cons, List.length_append]
      constructor
      · intro hnot
        rw [hall hnot]
        dsimp only
        omega
      · intro haborted
        obtain ⟨earlier, failing, error, rfl, herror, hcount⟩ := hstopped haborted
        refine ⟨_ :: earlier, failing, error, rfl, herror, ?_⟩
        dsimp only at hcount
        omega
  | stopped _ _ _ _ _ error _ _ hresult =>
      cases htotal
      refine ⟨by simp, fun _ => ⟨[], _, error, rfl, congrArg Prod.fst hresult, ?_⟩⟩
      rw [List.flatMap_singleton]
      rfl

/-- However a run ends, the writes that have succeeded are those of the descriptors that its passes
have put in place, and the log informs of each of these. Totals count all of them unless the run was
aborted. Then they leave out what the last pass, which failed, had put in place. -/
theorem descriptors_counted (config : Config) (manifests : List Path) (world : World) :
    let result := units config manifests world
    let passes := turns config manifests world.tree world.clock
    let written := passes.flatMap (Turn.placed · config)
    Puts config.descriptorDirectory world.tree result.2.tree written ∧
    informed result.2.output =
      informed world.output ++ written.map (·.event config.descriptorDirectory) ∧
    ∀ total, result.1 = .ok total →
      (total.aborted = false → total.descriptors = written.length) ∧
      (total.aborted = true → ∃ earlier failing error, passes = earlier ++ [failing] ∧
        (failing.result config).1 = .error error ∧
        total.descriptors + (failing.placed config).length = written.length) := by
  intro result passes written
  have hran : Ran config {} manifests world passes result :=
    run_units_ran config {} manifests world
  refine ⟨hran.puts, hran.informed, fun total htotal => ?_⟩
  have hcount := hran.descriptors htotal rfl
  rw [Nat.zero_add] at hcount
  exact hcount

/-- A manifest with one class that asks for two descriptors, and a directory at the path of the
second. -/
def blocked : World where
  tree := ((Program.withManifest <|
    "[[declaration]]\nname = \"a.B\"\nvisibility = \"public\"\n" ++
      "implements = [\"org.gradle.api.Plugin\"]\n[[declaration.annotation]]\nvalue = \"a.b\"\n" ++
      "[[declaration.annotation]]\nvalue = \"c.d\"\n").createDirectories
    ⟨"out/META-INF/gradle-plugins/c.d.properties"⟩).2
  clock := .constant ⟨0, 0, 0⟩

/-- The first descriptor is put in place and the log says so. The second one aborts the run, and the
totals count none. -/
theorem uncounted_descriptor :
    let config : Config := { outputRoot := ⟨"out"⟩ }
    let result := units config [⟨"unit.toml"⟩] blocked
    let passes := turns config [⟨"unit.toml"⟩] blocked.tree blocked.clock
    result.1.toOption =
        some { units := 1, descriptors := 0, diagnostics := 1, aborted := true } ∧
      (passes.flatMap (Turn.placed · config)).map (·.id.text) = ["a.b"] ∧
      (informed result.2.output).length = 1 := by
  decide +kernel

end Run

end PluginDescriptor
