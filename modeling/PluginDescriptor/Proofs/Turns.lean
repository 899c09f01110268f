import PluginDescriptor.Run

/-!
# The turns of a run

A run makes one pass for each manifest, until a manifest cannot be loaded or a pass fails. `turns`
lists the passes that are made, each with what it starts from. They are for the first manifests in
order, `turns_in_order`, and each manifest is read when its turn has come, `load_of_mem_turns`.
`Ran` lists the ways a run can go on and `run_units_ran` says that there are no others, so whatever
holds of runs is proved by induction on `Ran`.
-/

namespace PluginDescriptor.Run

/-- One pass of a run: the manifest it is for, the declarations that are found there, and what it
starts from. -/
structure Turn where
  manifest : Path
  declarations : List Declaration
  tree : FileTree
  clock : Clock

/-- The session that a pass of a run starts with. -/
def Turn.start (turn : Turn) : Session :=
  { tree := turn.tree, clock := turn.clock }

/-- What a pass of a run comes to. -/
def Turn.result (turn : Turn) (config : Config) : Except DescriptorError Pass.Report × Session :=
  Pass.run config turn.declarations turn.start

/-- The diagnostics that a pass of a run reports. -/
def Turn.diagnostics (turn : Turn) (config : Config) : List Diagnostic :=
  (turn.result config).2.diagnostics.entries

/-- The diagnostics that have been put out. -/
def reported (output : List Output) : List Diagnostic :=
  output.filterMap fun
    | .diagnostic _ diagnostic => some diagnostic
    | .event _ => none

/-- The passes that a run makes. -/
def turns (config : Config) : List Path → FileTree → Clock → List Turn
  | [], _, _ => []
  | manifest :: rest, tree, clock =>
    match Manifest.load tree manifest with
    | .error _ => []
    | .ok declarations =>
      let turn : Turn := ⟨manifest, declarations, tree, clock⟩
      match turn.result config with
      | (.ok _, session) => turn :: turns config rest session.tree session.clock
      | (.error _, _) => [turn]

variable {config : Config} {manifests : List Path} {tree : FileTree} {clock : Clock} {turn : Turn}

/-- The passes are for the first manifests, in order. -/
theorem turns_in_order (config : Config) (manifests : List Path) (tree : FileTree) (clock : Clock) :
    (turns config manifests tree clock).map Turn.manifest <+: manifests := by
  induction manifests generalizing tree clock with
  | nil => exact List.prefix_rfl
  | cons manifest rest ih =>
      unfold turns
      cases Manifest.load tree manifest with
      | error error => exact List.nil_prefix
      | ok declarations =>
          dsimp only
          cases Turn.result ⟨manifest, declarations, tree, clock⟩ config with
          | mk outcome session =>
              cases outcome with
              | ok report =>
                  exact (List.prefix_cons_inj manifest).mpr (ih session.tree session.clock)
              | error error => exact (List.prefix_cons_inj manifest).mpr List.nil_prefix

/-- The declarations of a pass are those that its manifest lists when its turn has come. -/
theorem load_of_mem_turns (h : turn ∈ turns config manifests tree clock) :
    Manifest.load turn.tree turn.manifest = .ok turn.declarations := by
  induction manifests generalizing tree clock with
  | nil => simp [turns] at h
  | cons manifest rest ih =>
      unfold turns at h
      cases hload : Manifest.load tree manifest with
      | error error => simp [hload] at h
      | ok declarations =>
          simp only [hload] at h
          cases hresult : Turn.result ⟨manifest, declarations, tree, clock⟩ config with
          | mk outcome session =>
              rw [hresult] at h
              cases outcome with
              | ok report =>
                  rcases List.mem_cons.mp h with rfl | h
                  · exact hload
                  · exact ih h
              | error error =>
                  obtain rfl := List.mem_singleton.mp h
                  exact hload

/-- The totals after one more pass, which has left this session. -/
def Summary.afterPass (summary : Summary) (session : Session) : Summary :=
  { summary with
    units := summary.units + 1
    diagnostics := summary.diagnostics + session.diagnostics.size }

/-- `Ran config summary manifests world passes result` says that a run over `manifests`, with these
totals so far, makes these passes and comes to this result. -/
inductive Ran (config : Config) : Summary → List Path → World → List Turn →
    Except Manifest.LoadError Summary × World → Prop where
  | done (summary world) : Ran config summary [] world [] (.ok summary, world)
  | unloaded (summary manifest rest world error) :
      Manifest.load world.tree manifest = .error error →
      Ran config summary (manifest :: rest) world [] (.error error, world)
  | completed (summary manifest rest world declarations report session passes result) :
      Manifest.load world.tree manifest = .ok declarations →
      Turn.result ⟨manifest, declarations, world.tree, world.clock⟩ config =
        (.ok report, session) →
      Ran config
        { summary.afterPass session with
          descriptors := summary.descriptors + report.written.length }
        rest
        ((world.afterPass manifest session).emit
          (.unitDone manifest report.processed report.written.length))
        passes result →
      Ran config summary (manifest :: rest) world
        (⟨manifest, declarations, world.tree, world.clock⟩ :: passes) result
  | stopped (summary manifest rest world declarations error session) :
      Manifest.load world.tree manifest = .ok declarations →
      Turn.result ⟨manifest, declarations, world.tree, world.clock⟩ config =
        (.error error, session) →
      Ran config summary (manifest :: rest) world
        [⟨manifest, declarations, world.tree, world.clock⟩]
        (.ok { summary.afterPass session with aborted := true },
          (world.afterPass manifest session).emit (.stopping manifest error))

/-- A run makes its turns. -/
theorem run_units_ran (config : Config) (summary : Summary) (manifests : List Path)
    (world : World) :
    Ran config summary manifests world (turns config manifests world.tree world.clock)
      (runUnits config summary manifests world) := by
  induction manifests generalizing summary world with
  | nil => exact .done summary world
  | cons manifest rest ih =>
      unfold runUnits turns
      cases hload : Manifest.load world.tree manifest with
      | error error => exact .unloaded summary manifest rest world error hload
      | ok declarations =>
          let turn : Turn := ⟨manifest, declarations, world.tree, world.clock⟩
          cases hresult : turn.result config with
          | mk outcome session =>
              have hrun : Pass.run config declarations
                  { tree := world.tree, clock := world.clock } = (outcome, session) := hresult
              simp only [hrun]
              cases outcome with
              | ok report =>
                  simp only [turn] at hresult
                  simp only [hresult]
                  exact .completed summary manifest rest world declarations report session _ _
                    hload hresult (ih _ _)
              | error error =>
                  simp only [turn] at hresult
                  simp only [hresult]
                  exact .stopped summary manifest rest world declarations error session hload
                    hresult

/-! ## The diagnostics of a run -/

/-- Diagnostics are put out piece by piece. -/
theorem reported_append (first second : List Output) :
    reported (first ++ second) = reported first ++ reported second := by
  simp [reported, List.filterMap_append]

/-- An event is no diagnostic. -/
theorem reported_emit (world : World) (event : Event) :
    reported (world.emit event).output = reported world.output := by
  show reported (world.output ++ [.event event]) = _
  rw [reported_append]
  exact List.append_nil _

/-- After a pass its diagnostics have been put out. -/
theorem reported_after_pass (world : World) (manifest : Path) (session : Session) :
    reported (world.afterPass manifest session).output =
      reported world.output ++ session.diagnostics.entries := by
  have hevents : reported (session.log.map .event) = [] := by
    rw [reported, List.filterMap_map]
    exact List.filterMap_eq_nil_iff.mpr fun _ _ => rfl
  have hdiagnostics : reported (session.diagnostics.entries.map (.diagnostic manifest)) =
      session.diagnostics.entries := by
    rw [reported, List.filterMap_map]
    exact List.filterMap_some
  show reported (world.output ++ session.log.map .event ++
    session.diagnostics.entries.map (.diagnostic manifest)) = _
  rw [reported_append, reported_append, hevents, hdiagnostics, List.append_nil]

/-- A run puts out the diagnostics of its passes, in order. -/
theorem Ran.reported {summary : Summary} {world : World} {passes : List Turn}
    {result : Except Manifest.LoadError Summary × World}
    (h : Ran config summary manifests world passes result) :
    reported result.2.output =
      reported world.output ++ passes.flatMap (Turn.diagnostics · config) := by
  induction h with
  | done _ _ => simp
  | unloaded _ _ _ _ _ _ => simp
  | completed _ manifest _ world declarations _ session _ _ _ hresult _ ih =>
      rw [ih, reported_emit, reported_after_pass, List.flatMap_cons, Turn.diagnostics, hresult,
        List.append_assoc]
  | stopped _ manifest _ world declarations _ session _ hresult =>
      rw [reported_emit, reported_after_pass, List.flatMap_cons, Turn.diagnostics, hresult]
      simp

/-- A run that ends with totals has counted the diagnostics of its passes. -/
theorem Ran.count {summary total : Summary} {world : World} {passes : List Turn}
    {result : Except Manifest.LoadError Summary × World}
    (h : Ran config summary manifests world passes result) (htotal : result.1 = .ok total) :
    total.diagnostics =
      summary.diagnostics + (passes.flatMap (Turn.diagnostics · config)).length := by
  induction h with
  | done _ _ =>
      cases htotal
      rfl
  | unloaded _ _ _ _ _ _ => cases htotal
  | completed summary manifest _ world declarations report session passes _ _ hresult _ ih =>
      rw [ih htotal, List.flatMap_cons, List.length_append, Turn.diagnostics, hresult]
      show summary.diagnostics + session.diagnostics.size + _ = _
      simp only [Diagnostics.size]
      omega
  | stopped summary manifest _ world declarations _ session _ hresult =>
      cases htotal
      rw [List.flatMap_cons, Turn.diagnostics, hresult]
      simp [Summary.afterPass, Diagnostics.size]

end PluginDescriptor.Run
