import PluginDescriptor.Proofs.FileTree.Shape
import PluginDescriptor.Proofs.LeftBehind

/-!
# What depends on the clock

Two passes over the same declarations, each with a clock of its own, end in the same way and say the
same, and the descriptors they leave differ in nothing but the time of their second line. The passes
go on in step, `execute_twins`, since no step asks for more of a file tree than its shape. What each
of them leaves is accounted for by the descriptors it has put in place, `Leaves`. The main statement
is `only_timestamp_varies`.
-/

namespace PluginDescriptor.Plan

open FileTree Descriptor

/-- Two states that agree on everything but the clock, the contents of files and what the
descriptors say and when. -/
structure Twins (state other : State) : Prop where
  tree : state.tree.SameShape other.tree
  diagnostics : other.diagnostics = state.diagnostics
  writings : names other.writings = names state.writings

variable {config : Config} {state other : State} {directory : Path} {before tree after : FileTree}
  {first second writings : List Writing} {writing : Writing}

/-! ## In step -/

/-- Twins stay twins when both report the same failure. -/
theorem Twins.refuse (h : Twins state other) (id : PluginId) (error : DescriptorError) :
    Twins (state.refuse id error) (other.refuse id error) :=
  ⟨h.tree, by rw [State.refuse, h.diagnostics]; rfl, h.writings⟩

/-- A step ends for one as it does for the other. -/
theorem perform_twins (config : Config) (h : Twins state other) (step : Step) :
    (perform config other step).1 = (perform config state step).1 ∧
      Twins (perform config state step).2 (perform config other step).2 := by
  cases step with
  | report message position =>
      refine ⟨rfl, h.tree, ?_, h.writings⟩
      rw [perform_report, perform_report, h.diagnostics]
  | write id className =>
      simp only [perform]
      cases Charset.ofName config.encoding with
      | error cause => exact ⟨rfl, h.refuse id (.unsupportedCharset cause)⟩
      | ok charset =>
          -- The two texts differ, but a write does not look at what it writes.
          let writing : Writing := ⟨id, className, config.label, state.clock.now, charset⟩
          let otherWriting : Writing := ⟨id, className, config.label, other.clock.now, charset⟩
          obtain ⟨houtcome, hshape⟩ := write_same_shape h.tree config.descriptorDirectory id
            writing.bytes otherWriting.bytes
          cases hwrite : write state.tree config.descriptorDirectory id writing.bytes with
          | mk outcome made =>
              cases hother : write other.tree config.descriptorDirectory id otherWriting.bytes with
              | mk otherOutcome otherMade =>
                  rw [hwrite, hother] at houtcome hshape
                  obtain rfl : otherOutcome = outcome := houtcome
                  have hproceed : Twins (state.proceed made) (other.proceed otherMade) :=
                    ⟨hshape, h.diagnostics, h.writings⟩
                  simp only [writing, otherWriting] at hwrite hother
                  simp only [hwrite, hother]
                  cases otherOutcome with
                  | error error => exact ⟨rfl, hproceed.refuse id error⟩
                  | ok target =>
                      refine ⟨rfl, hshape, h.diagnostics, ?_⟩
                      have hwritings := h.writings
                      simp only [names] at hwritings ⊢
                      rw [List.map_append, List.map_append, hwritings]
                      rfl

/-- Any number of steps end for one as they do for the other. -/
theorem execute_twins (config : Config) (h : Twins state other) (steps : List Step) :
    (execute config steps other).1 = (execute config steps state).1 ∧
      Twins (execute config steps state).2 (execute config steps other).2 := by
  induction steps generalizing state other with
  | nil => exact ⟨rfl, h⟩
  | cons step rest ih =>
      obtain ⟨houtcome, htwins⟩ := perform_twins config h step
      rw [execute, execute]
      cases hstep : perform config state step with
      | mk outcome next =>
          cases hother : perform config other step with
          | mk otherOutcome otherNext =>
              rw [hstep, hother] at houtcome htwins
              obtain rfl : otherOutcome = outcome := houtcome
              cases otherOutcome with
              | error error => exact ⟨rfl, htwins⟩
              | ok => exact ih htwins

/-! ## Passes with two clocks -/

/-- Among descriptors for the same ids and classes there is one for the id of each. -/
theorem exists_of_same_names (hnames : names second = names first) (h : writing ∈ second) :
    ∃ other ∈ first, other.id = writing.id := by
  have hmember : (writing.id, writing.className) ∈ names first := by
    rw [← hnames]
    exact List.mem_map_of_mem h
  obtain ⟨other, hother, hsame⟩ := List.mem_map.mp hmember
  exact ⟨other, hother, (Prod.mk.inj hsame).1⟩

/-- Descriptors for the same ids and classes are listed the same. -/
theorem descriptors_eq_of_same_names (hnames : names second = names first) (directory : Path) :
    second.map (·.descriptor directory) = first.map (·.descriptor directory) := by
  have hlisted := congrArg (List.map fun name : PluginId × String =>
    (⟨name.1, name.2, directory.join ⟨name.1.fileName⟩⟩ : WrittenDescriptor)) hnames
  rw [names, names, List.map_map, List.map_map] at hlisted
  exact hlisted

/-- Descriptors for the same ids and classes have the latest one of an id in the same place. -/
theorem latest_of_same_names {id : PluginId} (hnames : names second = names first)
    (h : latest? id first = some writing) :
    ∃ (place : Nat) (other : Writing), latest? id second = some other ∧
      other.className = writing.className ∧ first[place]? = some writing ∧
      second[place]? = some other := by
  obtain ⟨rfl, earlier, later, rfl, hlater⟩ := latest_eq_some_iff.mp h
  rw [names, names, List.map_append, List.map_cons] at hnames
  obtain ⟨otherEarlier, rest, rfl, hearlier, hrest⟩ := List.map_eq_append_iff.mp hnames
  obtain ⟨other, otherLater, rfl, hother, hotherLater⟩ := List.map_eq_cons_iff.mp hrest
  obtain ⟨hid, hclass⟩ := Prod.mk.inj hother
  have hlength := congrArg List.length hearlier
  rw [List.length_map, List.length_map] at hlength
  refine ⟨earlier.length, other, ?_, hclass, by simp, by simp [← hlength]⟩
  refine latest_eq_some_iff.mpr ⟨hid, otherEarlier, otherLater, rfl, ?_⟩
  intro last hlast hsame
  obtain ⟨source, hsource, hid⟩ := exists_of_same_names hotherLater hlast
  exact hlater source hsource (hid.trans hsame)

/-- A descriptor is a text before the time, the time, and a text after it. -/
theorem render_split (label : GeneratorLabel) (moment : Moment) (className : String) :
    render label moment className =
      ("# Generated by " ++ label.text ++ "\n# Generated on ") ++ moment.rfc3339 ++
        ("\nimplementation-class = " ++ className ++ "\n") := by
  unfold render
  -- How the time is written makes no difference, and comparing texts would look into it.
  generalize moment.rfc3339 = time
  simp only [String.append_assoc]

/-- A completed pass lists the descriptors that it has put in place. -/
theorem written_of_run {declarations : List Declaration} {session : Session}
    {report : Pass.Report} (h : (Pass.run config declarations session).1 = .ok report) :
    report.written =
      (placed config declarations session).map (·.descriptor config.descriptorDirectory) := by
  rw [result_of_run] at h
  cases hexecute : (execute config (ofUnit declarations) (ofSession session [])).1 with
  | error error =>
      rw [hexecute] at h
      cases h
  | ok =>
      rw [hexecute] at h
      cases h
      rfl

/-- Two passes over the same declarations, from the same session but with clocks of their own, come
to the same result, report the same and put descriptors in place for the same ids and classes, which
are those listed if the passes are completed. They leave trees of the same shape that agree wherever
none of these descriptors is, and the latest descriptor of an id is the same in both but for the
time, which is a reading of either clock. -/
theorem only_timestamp_varies (config : Config) (declarations : List Declaration)
    (session : Session) (clock otherClock : Clock) :
    let start : Session := { session with clock := clock }
    let otherStart : Session := { session with clock := otherClock }
    let left := Pass.run config declarations start
    let otherLeft := Pass.run config declarations otherStart
    let writings := placed config declarations start
    otherLeft.1 = left.1 ∧ otherLeft.2.diagnostics = left.2.diagnostics ∧
    (∀ report, left.1 = .ok report →
      report.written = writings.map (·.descriptor config.descriptorDirectory)) ∧
    names (placed config declarations otherStart) = names writings ∧
    left.2.tree.SameShape otherLeft.2.tree ∧
    (∀ location, (∀ writing ∈ writings,
        left.2.tree.location? (config.descriptorDirectory.join ⟨writing.id.fileName⟩) ≠
          some location) →
      otherLeft.2.tree.entryAt? location = left.2.tree.entryAt? location) ∧
    ∀ id writing, latest? id writings = some writing →
      let path := config.descriptorDirectory.join ⟨id.fileName⟩
      let opening := "# Generated by " ++ config.label.text ++ "\n# Generated on "
      let closing := "\nimplementation-class = " ++ writing.className ++ "\n"
      ∃ charset count, Charset.ofName config.encoding = .ok charset ∧
        left.2.tree.entryOf? path = some (.file (charset.encode
          (opening ++ (clock.reading count).rfc3339 ++ closing))) ∧
        otherLeft.2.tree.entryOf? path = some (.file (charset.encode
          (opening ++ (otherClock.reading count).rfc3339 ++ closing))) := by
  intro start otherStart left otherLeft writings
  have htwins : Twins (ofSession start []) (ofSession otherStart []) :=
    ⟨SameShape.refl session.tree, rfl, rfl⟩
  obtain ⟨houtcome, hsteps⟩ := execute_twins config htwins (ofUnit declarations)
  rw [← of_session_run, ← of_session_run] at hsteps
  have hnames : names (placed config declarations otherStart) = names writings := hsteps.writings
  have hshape : left.2.tree.SameShape otherLeft.2.tree := hsteps.tree
  have hleaves := leaves_of_run config declarations start
  have hotherLeaves := leaves_of_run config declarations otherStart
  refine ⟨?_, hsteps.diagnostics, fun _ => written_of_run, hnames, hshape, ?_, ?_⟩
  · rw [result_of_run, result_of_run, houtcome, descriptors_eq_of_same_names hnames]
  · intro location hlocation
    have hotherLocation : ∀ writing ∈ placed config declarations otherStart,
        otherLeft.2.tree.location? (config.descriptorDirectory.join ⟨writing.id.fileName⟩) ≠
          some location := by
      intro writing hwriting
      obtain ⟨source, hsource, hid⟩ := exists_of_same_names hnames hwriting
      rw [hshape.location_file, ← hid]
      exact hlocation source hsource
    -- The shape settles everything but files, and a file here is the one both passes have found.
    cases hentry : left.2.tree.entryAt? location with
    | none => exact (hshape.free location).mpr hentry
    | some entry =>
        cases entry with
        | directory => exact (hshape.directory location).mpr hentry
        | file bytes =>
            have hbefore := (hleaves.rest location hlocation bytes).mp hentry
            exact (hotherLeaves.rest location hotherLocation bytes).mpr hbefore
  · intro id writing hlatest path opening closing
    obtain ⟨place, other, hother, hclass, hplace, hotherPlace⟩ :=
      latest_of_same_names hnames hlatest
    obtain ⟨_, hlabel, hmoment, hcharset⟩ := writing_of_placed hplace
    obtain ⟨_, hotherLabel, hotherMoment, hotherCharset⟩ := writing_of_placed hotherPlace
    obtain ⟨location, hlocation, hfile⟩ := hleaves.latest id writing hlatest
    obtain ⟨otherLocation, hotherLocation, hotherFile⟩ := hotherLeaves.latest id other hother
    -- Both descriptors are the same write of the plan, made at the same reading of either clock.
    have hcharsets : other.charset = writing.charset :=
      Except.ok.inj (hotherCharset.symm.trans hcharset)
    refine ⟨writing.charset, place, hcharset, ?_, ?_⟩
    · rw [entryOf?, hlocation, Option.bind_some, hfile, Writing.bytes, render_split, hlabel,
        hmoment]
    · rw [entryOf?, hotherLocation, Option.bind_some, hotherFile, Writing.bytes, render_split,
        hotherLabel, hotherMoment, hcharsets, hclass]

end PluginDescriptor.Plan
