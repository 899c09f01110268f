import PluginDescriptor.Proofs.LeftBehind
import PluginDescriptor.Proofs.Willing

/-!
# A pass stage by stage

The plan of a pass can be executed with writes that are made stage by stage, on a disk that may
refuse any request but to discard a draft. What comes of the steps then is what can come of a plan,
`execute_staged_executed`: the descriptors that are put in place are the first writes of the plan,
each as a whole, nothing else is new but directories on the way, and the first write that fails is
reported and ends it all. This is `staged_pass`. Where nothing is refused, it is the pass itself:
`staged_pass_willing`.
-/

namespace PluginDescriptor.Plan

open FileTree

/-- What steps work on, with what the next requests to the disk are refused with. -/
structure Site where
  state : State
  refusals : Nat → Request → Option FileError

/-- The disk that steps work on. -/
def Site.disk (site : Site) : Disk :=
  ⟨site.state.tree, site.refusals⟩

/-- Performs one step like `perform`, but writes stage by stage. When so many descriptors have been
put in place, `drafts` are the names that are tried for the next draft. -/
def performStaged (config : Config) (drafts : Nat → List DraftName) (site : Site) :
    Step → Except DescriptorError Unit × Site
  | .report message position =>
    (.ok (), { site with
      state := { site.state with
        diagnostics := site.state.diagnostics.addError message position } })
  | .write id className =>
    match Charset.ofName config.encoding with
    | .error cause =>
      (.error (.unsupportedCharset cause),
        { site with state := site.state.refuse id (.unsupportedCharset cause) })
    | .ok charset =>
      let writing : Writing := ⟨id, className, config.label, site.state.clock.now, charset⟩
      match site.disk.write (drafts site.state.writings.length) config.descriptorDirectory id
          writing.bytes with
      | (.error error, left) =>
        (.error error, ⟨(site.state.proceed left.tree).refuse id error, left.refusals⟩)
      | (.ok _, left) =>
        (.ok (), ⟨{ site.state.proceed left.tree with
          writings := site.state.writings ++ [writing] }, left.refusals⟩)

/-- Performs steps stage by stage in order, up to the first that fails. -/
def executeStaged (config : Config) (drafts : Nat → List DraftName) :
    List Step → Site → Except DescriptorError Unit × Site
  | [], site => (.ok (), site)
  | step :: rest, site =>
    match performStaged config drafts site step with
    | (.ok (), next) => executeStaged config drafts rest next
    | (.error error, last) => (.error error, last)

variable {config : Config} {drafts : Nat → List DraftName} {site : Site}

/-! ## Whatever is refused -/

/-- What comes of a step on a disk that discards drafts is what can come of it, and the disk still
discards them. -/
theorem perform_staged_performed (drafts : Nat → List DraftName) (hdiscards : site.disk.Discards)
    (step : Step) :
    Performed config (InPlace config) site.state step (performStaged config drafts site step).1
        (performStaged config drafts site step).2.state ∧
      (performStaged config drafts site step).2.disk.Discards := by
  cases step with
  | report message position => exact ⟨.reported message position, hdiscards⟩
  | write id className =>
      unfold performStaged
      cases hcharset : Charset.ofName config.encoding with
      | error cause => exact ⟨.uncharted id className cause hcharset, hdiscards⟩
      | ok charset =>
          let writing : Writing := ⟨id, className, config.label, site.state.clock.now, charset⟩
          dsimp only
          cases hwrite : site.disk.write (drafts site.state.writings.length)
              config.descriptorDirectory id writing.bytes with
          | mk outcome left =>
              cases outcome with
              | error error =>
                  obtain ⟨hlater, hchanges⟩ := Disk.write_error hdiscards hwrite
                  exact ⟨.failed id className error left.tree hchanges, hlater.discards hdiscards⟩
              | ok target =>
                  obtain ⟨_, hlater, hplaced⟩ := Disk.write_ok hwrite
                  exact ⟨.placed writing left.tree rfl rfl hcharset hplaced,
                    hlater.discards hdiscards⟩

/-- What comes of steps on a disk that discards drafts is what can come of them. -/
theorem execute_staged_executed (drafts : Nat → List DraftName) (hdiscards : site.disk.Discards)
    (steps : List Step) :
    Executed config (InPlace config) steps site.state (executeStaged config drafts steps site).1
      (executeStaged config drafts steps site).2.state := by
  induction steps generalizing site with
  | nil => exact .nothing site.state
  | cons step rest ih =>
      obtain ⟨hperformed, hstill⟩ := perform_staged_performed drafts hdiscards step
      rw [executeStaged]
      cases hstep : performStaged config drafts site step with
      | mk outcome next =>
          rw [hstep] at hperformed hstill
          cases outcome with
          | ok => exact .next _ _ _ _ _ _ hperformed (ih hstill)
          | error error => exact .failed _ _ _ _ _ hperformed

/-- The plan of a pass may be executed stage by stage on a disk that refuses any requests but to
discard drafts. The descriptors that are put in place are writes of the plan from the first on, with
the label of the configuration, the readings of the clock in order and the charset of the encoding.
Nothing else is put in place, each file holds the latest of them as a whole, and they account for
what stands at the paths of descriptors. Either all of the plan has been carried out, or the first
write that has failed is the last thing that is reported. -/
theorem staged_pass (config : Config) (declarations : List Declaration) (session : Session)
    (refusals : Nat → Request → Option FileError) (drafts : Nat → List DraftName)
    (hdiscards : Disk.Discards ⟨session.tree, refusals⟩) :
    let steps := ofUnit declarations
    let staged := executeStaged config drafts steps ⟨ofSession session [], refusals⟩
    let after := staged.2.state
    (∀ (place : Nat) (writing : Writing), after.writings[place]? = some writing →
      (writes steps)[place]? = some (writing.id, writing.className) ∧
      writing.label = config.label ∧ writing.moment = session.clock.reading place ∧
      Charset.ofName config.encoding = .ok writing.charset) ∧
    Adds config.descriptorDirectory session.tree after.tree after.writings ∧
    Leaves config.descriptorDirectory session.tree after.tree after.writings ∧
    (config.outputRoot.HasNoOuter →
      Accounts config.descriptorDirectory session.tree after.tree after.writings) ∧
    match staged.1 with
    | .ok () =>
      after.writings.map (fun writing => (writing.id, writing.className)) = writes steps ∧
      after.diagnostics.entries = session.diagnostics.entries ++ reports steps
    | .error error =>
      ∃ done id className rest, steps = done ++ .write id className :: rest ∧
        after.writings.map (fun writing => (writing.id, writing.className)) = writes done ∧
        after.diagnostics.entries = session.diagnostics.entries ++ reports done ++
          [⟨.fatal, s!"failed to write the plugin descriptor for '{id.text}': {error.message}",
            none⟩] := by
  intro steps staged after
  have hsite : Disk.Discards (Site.disk ⟨ofSession session [], refusals⟩) := hdiscards
  have hexecuted : Executed config (InPlace config) steps (ofSession session []) staged.1 after :=
    execute_staged_executed drafts hsite steps
  obtain ⟨placed, hplaced, hplanned⟩ := hexecuted.writings
  obtain ⟨added, hadded, hadds⟩ := hexecuted.adds
  obtain ⟨left, hleft, hleaves⟩ := hexecuted.leaves
  obtain rfl : after.writings = placed := hplaced
  obtain rfl : after.writings = added := hadded
  obtain rfl : after.writings = left := hleft
  refine ⟨hplanned, hadds, hleaves, ?_, ?_⟩
  · intro hroot
    obtain ⟨accounting, haccounting, haccounts⟩ := hexecuted.accounts hroot
    obtain rfl : after.writings = accounting := haccounting
    exact haccounts
  · cases houtcome : staged.1 with
    | ok =>
        rw [houtcome] at hexecuted
        obtain ⟨hentries, recorded, hrecorded, hwrites⟩ := hexecuted.ok
        obtain rfl : after.writings = recorded := hrecorded
        exact ⟨hwrites, hentries⟩
    | error error =>
        rw [houtcome] at hexecuted
        obtain ⟨done, id, className, rest, ready, hsteps, hdone, hlast⟩ := hexecuted.refused
        obtain ⟨hentries, recorded, hrecorded, hwrites⟩ := hdone.ok
        obtain ⟨_, _, hstep, hkept, hreported⟩ := hlast.refused
        obtain ⟨rfl, rfl⟩ := Step.write.inj hstep
        obtain rfl : ready.writings = recorded := hrecorded
        refine ⟨done, id, className, rest, hsteps, ?_, ?_⟩
        · rw [hkept, hwrites]
        · rw [hreported, hentries]
          rfl

/-! ## Where nothing is refused -/

/-- For each draft there is a name that is not taken in a directory. -/
def Untaken (drafts : Nat → List DraftName) (directory : Path) (tree : FileTree) : Prop :=
  ∀ count, ∃ name ∈ drafts count, tree.entryOf? (directory.join ⟨name.text⟩) = none

/-- Steps towards descriptors never take the name of a draft. -/
theorem Untaken.after_changes {directory : Path} {allowed : PluginId → List UInt8 → Prop}
    {before after : FileTree} (h : Untaken drafts directory before)
    (hdirectory : ".." ∉ directory.trail) (hchanges : Changes directory allowed before after) :
    Untaken drafts directory after := by
  intro count
  obtain ⟨name, hname, hnone⟩ := h count
  refine ⟨name, hname, ?_⟩
  rw [hchanges.entry_of_name hdirectory name.plain fun id _ _ => name.file_name_ne id]
  exact hnone

/-- A site where nothing is refused. -/
def Site.willing (state : State) : Site :=
  ⟨state, fun _ _ => none⟩

/-- A step where nothing is refused is performed as if its write were made at once. -/
theorem perform_staged_willing {state : State} (hroot : config.outputRoot.HasNoOuter)
    (hfree : Untaken drafts config.descriptorDirectory state.tree) (step : Step) :
    performStaged config drafts (.willing state) step =
      ((perform config state step).1, .willing (perform config state step).2) := by
  have hdirectory := config.descriptor_directory_no_outer hroot
  cases step with
  | report message position => rfl
  | write id className =>
      unfold performStaged perform
      cases Charset.ofName config.encoding with
      | error cause => rfl
      | ok charset =>
          let writing : Writing := ⟨id, className, config.label, state.clock.now, charset⟩
          have hready : Changes config.descriptorDirectory noFile state.tree
              (state.tree.createDirectories config.descriptorDirectory).2 :=
            create_directories_changes
          have hwrite := Disk.write_willing state.tree config.descriptorDirectory
            (hfree.after_changes hdirectory hready state.writings.length) id writing.bytes
          dsimp only [Site.willing, Site.disk]
          dsimp only [Disk.willing] at hwrite
          rw [hwrite]
          cases Descriptor.write state.tree config.descriptorDirectory id writing.bytes with
          | mk outcome tree => cases outcome <;> rfl

/-- Steps where nothing is refused are performed as if their writes were made at once. -/
theorem execute_staged_willing {state : State} (hroot : config.outputRoot.HasNoOuter)
    (hfree : Untaken drafts config.descriptorDirectory state.tree) (steps : List Step) :
    executeStaged config drafts steps (.willing state) =
      ((execute config steps state).1, .willing (execute config steps state).2) := by
  have hdirectory := config.descriptor_directory_no_outer hroot
  induction steps generalizing state with
  | nil => rfl
  | cons step rest ih =>
      rw [executeStaged, perform_staged_willing hroot hfree]
      have hperformed := (perform_performed config state step).mono AtOnce.in_place
      rcases execute_cons_cases config step rest state with
        ⟨next, hstep, hrun⟩ | ⟨error, last, hstep, hrun⟩
      · rw [hstep] at hperformed
        have hone : Executed config (InPlace config) [step] state (.ok ()) next :=
          .next _ _ _ _ _ _ hperformed (.nothing next)
        obtain ⟨_, _, hadds⟩ := hone.adds
        rw [hstep, hrun]
        exact ih (hfree.after_changes hdirectory hadds)
      · rw [hstep, hrun]

/-- Where nothing is refused and there is a free name for each draft, executing the plan of a pass
stage by stage leaves what the pass leaves, and ends as it does. -/
theorem staged_pass_willing {config : Config} (hroot : config.outputRoot.HasNoOuter)
    (declarations : List Declaration) (session : Session) {drafts : Nat → List DraftName}
    (hfree : Untaken drafts config.descriptorDirectory session.tree) :
    let result := Pass.run config declarations session
    executeStaged config drafts (ofUnit declarations) (.willing (ofSession session [])) =
      (result.1.map fun _ => (),
        .willing (ofSession result.2 (placed config declarations session))) := by
  intro result
  have hbefore : Untaken drafts config.descriptorDirectory (ofSession session []).tree := hfree
  rw [execute_staged_willing hroot hbefore, execute_of_run]

end PluginDescriptor.Plan
