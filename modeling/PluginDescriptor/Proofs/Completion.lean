import PluginDescriptor.Proofs.FileTree.Ready
import PluginDescriptor.Proofs.Siblings
import PluginDescriptor.Proofs.Timestamp

/-!
# When a pass is completed

Whether all writes of a plan succeed can be told from the file tree before the first of them, and it
does not depend on their order: the directory of the descriptors can be created, and then nothing
stands in the way of any of the files. `execute_ok_iff` says so, and `directories_of_execute_ok`
says that no directory is added once the first write has been made. Together with the descriptors
left behind that settles the file tree: `eq_of_leaves`.
-/

namespace PluginDescriptor.Plan

open FileTree Descriptor

/-- The descriptor of an id can be put in place, once the directory is. -/
def Writable (config : Config) (tree : FileTree) (id : PluginId) : Prop :=
  (∃ charset, Charset.ofName config.encoding = .ok charset) ∧
    tree.Admits config.descriptorDirectory id

variable {config : Config} {state : State} {steps : List Step} {directory : Path}
  {before after other ready : FileTree} {writings others : List Writing}

/-! ## Where the directory is in place -/

/-- A write succeeds if and only if the descriptor can be put in place, and it makes no difference
to the directories. -/
theorem perform_write_of_prepared (h : state.tree.Prepared config.descriptorDirectory)
    (id : PluginId) (className : String) :
    ((perform config state (.write id className)).1 = .ok () ↔ Writable config state.tree id) ∧
      SameDirectories state.tree (perform config state (.write id className)).2.tree := by
  unfold Writable
  simp only [perform]
  cases hcharset : Charset.ofName config.encoding with
  | error cause => simp [State.refuse, SameDirectories.refl]
  | ok charset =>
      let writing : Writing := ⟨id, className, config.label, state.clock.now, charset⟩
      obtain ⟨hwrite, hdirectories⟩ := write_of_prepared h id writing.bytes
      dsimp only
      cases hplaced : write state.tree config.descriptorDirectory id
          (Writing.bytes ⟨id, className, config.label, state.clock.now, charset⟩) with
      | mk outcome tree =>
          rw [hplaced] at hwrite hdirectories
          cases outcome with
          | error error =>
              refine ⟨?_, hdirectories⟩
              simpa using hwrite
          | ok target =>
              refine ⟨?_, hdirectories⟩
              simpa using hwrite

/-- All steps succeed if and only if the descriptor of every write can be put in place from the
start, and however they end, they make no difference to the directories. -/
theorem execute_of_prepared (h : state.tree.Prepared config.descriptorDirectory)
    (steps : List Step) :
    ((execute config steps state).1 = .ok () ↔
        ∀ write ∈ writes steps, Writable config state.tree write.1) ∧
      SameDirectories state.tree (execute config steps state).2.tree := by
  induction steps generalizing state with
  | nil => simp [execute, writes, SameDirectories.refl]
  | cons step rest ih =>
      cases step with
      | report message position => exact ih h
      | write id className =>
          obtain ⟨hfirst, hdirectories⟩ := perform_write_of_prepared h id className
          have hwrites : writes (.write id className :: rest) = (id, className) :: writes rest :=
            rfl
          rw [execute, hwrites, List.forall_mem_cons, ← hfirst]
          cases hstep : perform config state (.write id className) with
          | mk outcome next =>
              rw [hstep] at hdirectories
              cases outcome with
              | error error => simp [hdirectories]
              | ok =>
                  obtain ⟨hrest, hrestDirectories⟩ := ih (hdirectories.prepared h)
                  refine ⟨?_, hdirectories.trans hrestDirectories⟩
                  -- What can be written afterwards could be written from the start.
                  simp only [hrest, Writable, hdirectories.admits_iff, true_and]

/-! ## From any file tree -/

/-- Where all steps succeed and one of them is a write, the charset is known and the directory can
be created. -/
theorem created_of_execute_ok (h : (execute config steps state).1 = .ok ())
    (hwrites : writes steps ≠ []) :
    (∃ charset, Charset.ofName config.encoding = .ok charset) ∧
      ∃ ready, state.tree.createDirectories config.descriptorDirectory = (.ok (), ready) := by
  induction steps generalizing state with
  | nil => exact absurd rfl hwrites
  | cons step rest ih =>
      cases step with
      | report message position =>
          exact @ih { state with diagnostics := state.diagnostics.addError message position } h
            hwrites
      | write id className =>
          rcases execute_cons_cases config (.write id className) rest state with
            ⟨next, hstep, _⟩ | ⟨error, last, _, hfailed⟩
          · obtain ⟨writing, _, _, _, _, _, hcharset, hwrite, _⟩ := perform_write_ok hstep
            exact ⟨⟨writing.charset, hcharset⟩, created_of_write_ok hwrite⟩
          · rw [hfailed] at h
            cases h

/-- Steps with a write among them come to what they come to once the directory has been created. -/
theorem execute_of_created {charset : Charset} (hwrites : writes steps ≠ [])
    (hcharset : Charset.ofName config.encoding = .ok charset)
    (h : state.tree.createDirectories config.descriptorDirectory = (.ok (), ready)) :
    execute config steps state = execute config steps { state with tree := ready } := by
  induction steps generalizing state with
  | nil => exact absurd rfl hwrites
  | cons step rest ih =>
      cases step with
      | report message position => exact ih hwrites h
      | write id className =>
          have hstep : perform config state (.write id className) =
              perform config { state with tree := ready } (.write id className) := by
            simp only [perform, hcharset, write_of_created h]
            rfl
          rw [execute, execute, hstep]

/-- All steps succeed if and only if none of them is a write, or the directory can be created and
the descriptor of every write can then be put in place. -/
theorem execute_ok_iff (config : Config) (steps : List Step) (state : State) :
    (execute config steps state).1 = .ok () ↔
      writes steps = [] ∨
        ∃ ready, state.tree.createDirectories config.descriptorDirectory = (.ok (), ready) ∧
          ∀ write ∈ writes steps, Writable config ready write.1 := by
  by_cases hwrites : writes steps = []
  · simp [hwrites, execute_of_no_writes config hwrites state]
  simp only [hwrites, false_or]
  constructor
  · intro h
    obtain ⟨⟨charset, hcharset⟩, ready, hcreated⟩ := created_of_execute_ok h hwrites
    let started : State := { state with tree := ready }
    have hready : started.tree.Prepared config.descriptorDirectory := prepared_of_created hcreated
    rw [execute_of_created hwrites hcharset hcreated] at h
    exact ⟨ready, hcreated, (execute_of_prepared hready steps).1.mp h⟩
  · rintro ⟨ready, hcreated, hwritable⟩
    let started : State := { state with tree := ready }
    have hready : started.tree.Prepared config.descriptorDirectory := prepared_of_created hcreated
    obtain ⟨write, hwrite⟩ := List.exists_mem_of_ne_nil _ hwrites
    obtain ⟨charset, hcharset⟩ := (hwritable write hwrite).1
    rw [execute_of_created hwrites hcharset hcreated]
    exact (execute_of_prepared hready steps).1.mpr hwritable

/-- Steps that succeed with a write among them leave the directories that were there once the
directory of the descriptors had been created. -/
theorem directories_of_execute_ok (h : (execute config steps state).1 = .ok ())
    (hwrites : writes steps ≠ []) :
    ∃ ready, state.tree.createDirectories config.descriptorDirectory = (.ok (), ready) ∧
      SameDirectories ready (execute config steps state).2.tree := by
  obtain ⟨⟨charset, hcharset⟩, ready, hcreated⟩ := created_of_execute_ok h hwrites
  let started : State := { state with tree := ready }
  have hready : started.tree.Prepared config.descriptorDirectory := prepared_of_created hcreated
  refine ⟨ready, hcreated, ?_⟩
  rw [execute_of_created hwrites hcharset hcreated]
  exact (execute_of_prepared hready steps).2

/-! ## What a completed pass leaves -/

/-- What a completed pass over declarations reports. -/
def completeReport (config : Config) (declarations : List Declaration) : Pass.Report where
  processed := (declarations.filter Declaration.isCandidate).length
  written := (writes (ofUnit declarations)).map fun (id, className) =>
    ⟨id, className, config.descriptorDirectory.join ⟨id.fileName⟩⟩

/-- A pass is completed if and only if all its steps succeed. What it reports, and what it adds to
the diagnostics, is then settled by the declarations. -/
theorem run_ok_iff {declarations : List Declaration} {session : Session} {report : Pass.Report} :
    (Pass.run config declarations session).1 = .ok report ↔
      (execute config (ofUnit declarations) (ofSession session [])).1 = .ok () ∧
        report = completeReport config declarations := by
  cases hexecute : execute config (ofUnit declarations) (ofSession session []) with
  | mk outcome after =>
      cases outcome with
      | error error =>
          rw [(run_of_execute_error hexecute).1]
          simp
      | ok =>
          rw [(run_of_execute_ok hexecute).1]
          simp only [Except.ok.injEq, true_and]
          exact eq_comm

/-- Where a pass can be seen to come to some report, it is the complete one. -/
theorem run_ok_of_isSome {declarations : List Declaration} {session : Session}
    (h : (Pass.run config declarations session).1.toOption.isSome = true) :
    (Pass.run config declarations session).1 = .ok (completeReport config declarations) := by
  cases hresult : (Pass.run config declarations session).1 with
  | error error =>
      rw [hresult] at h
      cases h
  | ok report => rw [(run_ok_iff.mp hresult).2]

/-- A completed pass adds the reports of its plan to the diagnostics. -/
theorem entries_of_completed {declarations : List Declaration} {session : Session}
    (h : (execute config (ofUnit declarations) (ofSession session [])).1 = .ok ()) :
    (Pass.run config declarations session).2.diagnostics.entries =
      session.diagnostics.entries ++ reports (ofUnit declarations) :=
  (run_of_execute_ok (Prod.ext h rfl)).2.2

/-- The bytes that the latest descriptor of an id was put in place with. -/
def latestBytes? (id : PluginId) (writings : List Writing) : Option (List UInt8) :=
  (latest? id writings).map Writing.bytes

/-- There are latest bytes for the id of every descriptor that was put in place. -/
theorem exists_latest_bytes {writing : Writing} (h : writing ∈ writings) :
    ∃ bytes, latestBytes? writing.id writings = some bytes := by
  obtain ⟨last, hlatest⟩ := exists_latest h
  exact ⟨last.bytes, by rw [latestBytes?, hlatest, Option.map_some]⟩

/-- The file of an id holds its latest descriptor. -/
theorem Leaves.file (h : Leaves directory before after writings) {id : PluginId}
    {location : Location} {bytes : List UInt8}
    (hlocation : after.location? (directory.join ⟨id.fileName⟩) = some location)
    (hbytes : latestBytes? id writings = some bytes) :
    after.entryAt? location = some (.file bytes) := by
  obtain ⟨writing, hlatest, rfl⟩ := Option.map_eq_some_iff.mp hbytes
  obtain ⟨place, hplace, hfile⟩ := h.latest id writing hlatest
  rw [hlocation] at hplace
  obtain rfl := Option.some.inj hplace
  exact hfile

/-- What is left behind from one tree is settled by the directories and by the latest descriptor of
each id. -/
theorem eq_of_leaves (h : Leaves directory before after writings)
    (hother : Leaves directory before other others) (hdirectories : SameDirectories after other)
    (hlatest : ∀ id, latestBytes? id writings = latestBytes? id others) : after = other := by
  refine eq_of_entryAt?_eq ?_ hdirectories.working.symm
  intro location
  by_cases hplace : ∃ writing ∈ writings,
      after.location? (directory.join ⟨writing.id.fileName⟩) = some location
  · obtain ⟨writing, hwriting, hlocation⟩ := hplace
    obtain ⟨bytes, hbytes⟩ := exists_latest_bytes hwriting
    have hotherLocation := hdirectories.location_file.trans hlocation
    rw [h.file hlocation hbytes,
      hother.file hotherLocation ((hlatest writing.id).symm.trans hbytes)]
  · have hnone : ∀ writing ∈ writings,
        after.location? (directory.join ⟨writing.id.fileName⟩) ≠ some location := by
      intro writing hwriting hlocation
      exact hplace ⟨writing, hwriting, hlocation⟩
    have hotherNone : ∀ writing ∈ others,
        other.location? (directory.join ⟨writing.id.fileName⟩) ≠ some location := by
      intro writing hwriting hlocation
      -- An id that is written on one side is written on the other.
      obtain ⟨bytes, hbytes⟩ := exists_latest_bytes hwriting
      rw [← hlatest] at hbytes
      obtain ⟨source, hsource, _⟩ := Option.map_eq_some_iff.mp hbytes
      obtain ⟨hid, earlier, later, hwritings, _⟩ := latest_eq_some_iff.mp hsource
      rw [← hid, hdirectories.location_file] at hlocation
      exact hnone source (by rw [hwritings]; simp) hlocation
    apply Option.ext
    intro entry
    cases entry with
    | directory => exact (hdirectories.directory location).symm
    | file bytes =>
        have hbefore := h.rest location hnone bytes
        exact hbefore.trans (hother.rest location hotherNone bytes).symm

/-! ## Where the clock stands still -/

/-- The descriptor for a class, put in place at a moment. -/
def Writing.at (config : Config) (charset : Charset) (moment : Moment)
    (write : PluginId × String) : Writing :=
  ⟨write.1, write.2, config.label, moment, charset⟩

/-- A completed pass puts the writes of its plan in place, in order, and under a clock that stands
still it does so at one moment. -/
theorem placed_of_constant {declarations : List Declaration} {session : Session}
    {charset : Charset} {moment : Moment} (hclock : session.clock = .constant moment)
    (hcharset : Charset.ofName config.encoding = .ok charset)
    (h : (execute config (ofUnit declarations) (ofSession session [])).1 = .ok ()) :
    placed config declarations session =
      (writes (ofUnit declarations)).map (Writing.at config charset moment) := by
  obtain ⟨_, recorded, hrecorded, hnames⟩ := execute_ok (Prod.ext h rfl)
  rw [← hnames, placed, hrecorded, ofSession, List.nil_append, List.map_map]
  refine (List.map_id recorded).symm.trans (List.map_congr_left ?_)
  intro writing hwriting
  obtain ⟨place, hplace⟩ := List.mem_iff_getElem?.mp hwriting
  have hplaced : (placed config declarations session)[place]? = some writing := by
    rw [placed, hrecorded]
    exact hplace
  obtain ⟨_, hlabel, hmoment, hknown⟩ := writing_of_placed hplaced
  rw [hclock] at hmoment
  rw [hcharset] at hknown
  obtain ⟨id, className, label, reading, encoding⟩ := writing
  cases hlabel
  cases hmoment
  cases hknown
  rfl

end PluginDescriptor.Plan
