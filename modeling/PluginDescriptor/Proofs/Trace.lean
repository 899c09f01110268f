import PluginDescriptor.Proofs.LogParts
import PluginDescriptor.Proofs.Values
import PluginDescriptor.Proofs.Warnings

/-!
# The log of a pass

A pass logs what it does as it goes along. What it logs about the declarations that it hands over
falls into chapters, one for each of them in order: a declaration that may not be a plugin is passed
over, and for any other one the log tells what becomes of its ids. `Told` says so of annotations,
`Chronicle` of declarations, and there is one lemma for each thing that can happen next. The main
statement is `log_traces_pass`.
-/

namespace PluginDescriptor.Plan

/-- What is logged about one declaration once it has been handed over. -/
structure Chapter where
  declaration : Declaration
  events : List Event

/-- A chapter as it stands in the log: the declaration is announced before anything else. -/
def Chapter.log (chapter : Chapter) : List Event :=
  .processing chapter.declaration.name chapter.declaration.markers.length :: chapter.events

/-- A declaration that may not be a plugin is passed over at once. About any other one there are
only events that concern its ids. -/
structure Chapter.Fits (chapter : Chapter) : Prop where
  eligible : chapter.declaration.Eligible → ∀ event ∈ chapter.events, event.ConcernsId
  ineligible : ¬ chapter.declaration.Eligible →
    chapter.events = [.skipping chapter.declaration.name]

/-- The failure that something ended with, if it did not succeed. -/
def failure? {α : Type} : Except DescriptorError α → Option DescriptorError
  | .ok _ => none
  | .error error => some error

/-- `Traces config handed writings failure events` says that the events tell what a pass has done:
it has handed over these declarations, put these descriptors in place and ended with this failure,
if there is one. -/
structure Traces (config : Config) (handed : List Declaration) (writings : List Writing)
    (failure : Option DescriptorError) (events : List Event) : Prop where
  /-- There is a chapter for each declaration, in order. -/
  chapters : ∃ chapters : List Chapter, chapters.map (·.declaration) = handed ∧
    events = chapters.flatMap Chapter.log ∧ ∀ chapter ∈ chapters, chapter.Fits
  /-- An accepted id is answered for by the next event. -/
  accepted : ∀ before name id after, events = before ++ .accepted name id :: after →
    ∃ next later, after = next :: later ∧ next.Answers id
  /-- Only an id that has been accepted by the event before is answered for. -/
  answered : ∀ before event after id, event.Answers id → events = before ++ event :: after →
    ∃ earlier name, before = earlier ++ [.accepted name id]
  /-- The informational events are those of the descriptors, in order. -/
  written : events.filter (fun event => event.level = .info) =
    writings.map (·.event config.descriptorDirectory)
  /-- An error is logged for the failure only, as the last event. -/
  concluded : Concludes failure events

variable {α : Type} {config : Config} {directory : Path} {declaration : Declaration}
  {session : Session} {steps : List Step} {result : Except DescriptorError α × Session}
  {first second writings : List Writing} {failure : Option DescriptorError}
  {events earlier later : List Event}

/-- The announcement of a declaration changes nothing about what is told of it. -/
theorem Recounts.announced (h : Recounts directory writings failure events) :
    Recounts directory writings failure (Chapter.mk declaration events).log :=
  (Recounts.aside (.processing declaration.name declaration.markers.length)).append h

/-! ## What each part of a pass logs -/

/-- `Told config steps session writings result` says that what is logged from `session` to `result`
tells of the descriptors that executing `steps` puts in place, and concerns nothing but ids. -/
def Told {α : Type} (config : Config) (steps : List Step) (session : Session)
    (writings : List Writing) (result : Except DescriptorError α × Session) : Prop :=
  ∃ recorded events,
    (execute config steps (ofSession session writings)).2.writings = writings ++ recorded ∧
    result.2.log = session.log ++ events ∧
    Recounts config.descriptorDirectory recorded (failure? result.1) events ∧
    ∀ event ∈ events, event.ConcernsId

/-- Nothing is told of no steps. -/
theorem Told.nothing (value : α) : Told config [] session writings (.ok value, session) :=
  ⟨[], [], (List.append_nil _).symm, (List.append_nil _).symm, .nothing, by simp⟩

/-- A report is not told. -/
theorem Told.report {message : String} {position : Position}
    (h : Told config steps (session.addError message position) writings result) :
    Told config (.report message position :: steps) session writings result :=
  h

/-- What is told does not depend on the result that something succeeds with. -/
theorem Told.map {β : Type} (h : Told config steps session writings result) (change : α → β) :
    Told config steps session writings (result.1.map change, result.2) := by
  have hfailure : failure? (result.1.map change) = failure? result.1 := by
    cases result.1 <;> rfl
  obtain ⟨recorded, events, hwritings, hlog, hrecounts, hconcerns⟩ := h
  refine ⟨recorded, events, hwritings, hlog, ?_, hconcerns⟩
  rw [hfailure]
  exact hrecounts

/-- A write that fails is told and ends it all. -/
theorem Told.failed {id : PluginId} {error : DescriptorError} {last : Session}
    (hlog : last.log = session.log ++ [.accepted declaration.name id, .aborting id error])
    (hperform : perform config (ofSession session writings) (.write id declaration.name) =
      (.error error, ofSession last writings)) :
    Told (α := α) config (.write id declaration.name :: steps) session writings
      (.error error, last) := by
  refine ⟨[], _, ?_, hlog, .aborted declaration.name id error, ?_⟩
  · rw [execute, hperform, List.append_nil]
    rfl
  · simp [Event.ConcernsId.accepted, Event.ConcernsId.aborting]

/-- A descriptor that is put in place is told before what follows. -/
theorem Told.written {writing : Writing} {next : Session}
    (hlog : next.log = session.log ++
      [.accepted declaration.name writing.id, writing.event config.descriptorDirectory])
    (hperform : perform config (ofSession session writings)
      (.write writing.id declaration.name) = (.ok (), ofSession next (writings ++ [writing])))
    (hrest : Told config steps next (writings ++ [writing]) result) :
    Told config (.write writing.id declaration.name :: steps) session writings result := by
  obtain ⟨recorded, events, hwritings, hlater, hrecounts, hconcerns⟩ := hrest
  refine ⟨writing :: recorded, _ :: _ :: events, ?_, ?_,
    (Recounts.wrote declaration.name writing).append hrecounts, ?_⟩
  · rw [execute, hperform, List.append_cons writings writing recorded]
    exact hwritings
  · rw [hlater, hlog, List.append_assoc]
    rfl
  · simpa [Event.ConcernsId.accepted, Writing.event, Event.ConcernsId.wrote] using hconcerns

/-- The descriptor that a write has put in place is that of its id. -/
theorem id_of_perform_write_ok {state after : State} {id : PluginId} {className : String}
    {writing : Writing} (h : perform config state (.write id className) = (.ok (), after))
    (hwritings : after.writings = state.writings ++ [writing]) : writing.id = id := by
  obtain ⟨placed, _, hid, _, _, _, _, _, rfl⟩ := perform_write_ok h
  obtain rfl : placed = writing := by simpa using hwritings
  exact hid

/-- Handling annotations tells of the descriptors that are put in place for them. -/
theorem process_markers_told (declaration : Declaration) (markers : List Marker) :
    Told config (markers.map (Step.ofMarker declaration.name)) session writings
      (Pass.processMarkers config declaration markers session) := by
  induction markers generalizing session writings with
  | nil => exact .nothing []
  | cons marker rest ih =>
      rw [List.map_cons, of_marker_eq]
      cases hmarker : marker.pluginId with
      | error problem =>
          rw [Pass.process_markers_of_error hmarker]
          exact .report ih
      | ok id =>
          have hlog := Pass.write_descriptor_log (session.emit (.accepted declaration.name id))
            config declaration.name id
          rcases Pass.process_markers_of_ok hmarker rest session with
            ⟨error, next, hwrite, hresult⟩ | ⟨descriptor, next, hwrite, hresult⟩
          · rw [hwrite] at hlog
            rw [hresult]
            refine .failed ?_ (perform_of_write_error hwrite writings)
            show next.log ++ [_] = _
            rw [hlog, Session.emit, List.append_assoc]
            rfl
          · obtain ⟨writing, rfl, hstep⟩ := perform_of_write_ok hwrite writings
            obtain rfl : writing.id = id := id_of_perform_write_ok hstep rfl
            rw [hwrite] at hlog
            have hnext : (next.emit (writing.event config.descriptorDirectory)).log =
                session.log ++ [.accepted declaration.name writing.id,
                  writing.event config.descriptorDirectory] := by
              show next.log ++ [_] = _
              rw [hlog, Session.emit, List.append_assoc]
              rfl
            rw [hresult]
            exact .written hnext hstep (ih.map _)

/-- A declaration that may not be a plugin is passed over, whatever is reported about it. -/
theorem process_declaration_of_ineligible (h : ¬ declaration.Eligible) (config : Config)
    (session : Session) :
    ∃ reported : Session, reported.log = session.log ∧
      Pass.processDeclaration config declaration session =
        (.ok [], reported.emit (.skipping declaration.name)) := by
  have hviolations : declaration.violations ≠ [] := by
    intro hnone
    apply h
    rw [← complaints_eq_nil_iff, complaints_eq declaration declaration.position, hnone]
    rfl
  rw [Pass.processDeclaration]
  split
  · contradiction
  · exact ⟨_, Pass.complaints_log _ _ session, rfl⟩

/-- What is logged about a declaration fits it and tells of the descriptors that are put in place.
-/
theorem process_declaration_told (h : declaration.markers ≠ []) (config : Config)
    (session : Session) (writings : List Writing) :
    ∃ recorded events,
      (execute config (ofDeclaration declaration) (ofSession session writings)).2.writings =
        writings ++ recorded ∧
      (Pass.processDeclaration config declaration session).2.log = session.log ++ events ∧
      Recounts config.descriptorDirectory recorded
        (failure? (Pass.processDeclaration config declaration session).1) events ∧
      (Chapter.mk declaration events).Fits := by
  by_cases heligible : declaration.Eligible
  · have htold : Told config (ofDeclaration declaration) session writings
        (Pass.processDeclaration config declaration session) := by
      rw [Pass.process_declaration_of_eligible heligible, of_declaration_eligible heligible]
      exact process_markers_told declaration declaration.markers
    obtain ⟨recorded, events, hwritings, hlog, hrecounts, hconcerns⟩ := htold
    exact ⟨recorded, events, hwritings, hlog, hrecounts, fun _ => hconcerns,
      fun hnot => absurd heligible hnot⟩
  · obtain ⟨reported, hlog, hskipped⟩ :=
      process_declaration_of_ineligible heligible config session
    have hsimulated : Simulated config (ofDeclaration declaration) session writings
        (Pass.processDeclaration config declaration session) := process_declaration_simulated h
    obtain ⟨recorded, hexecute, hlisted⟩ := hsimulated
    rw [hskipped] at hexecute hlisted ⊢
    obtain rfl : recorded = [] := List.map_eq_nil_iff.mp (hlisted [] rfl).symm
    refine ⟨[], [.skipping declaration.name], ?_, ?_, .aside (.skipping declaration.name), ?_⟩
    · rw [hexecute]
      rfl
    · show reported.log ++ [_] = _
      rw [hlog]
    · exact ⟨fun hyes => absurd hyes heligible, fun _ => rfl⟩

/-- Listing descriptors logs nothing but which of them have been written over. -/
theorem record_written_told (written descriptors : List WrittenDescriptor) (session : Session)
    (directory : Path) :
    ∃ events, (Pass.recordWritten written descriptors session).2.log = session.log ++ events ∧
      Recounts directory [] none events ∧ ∀ event ∈ events, event.ConcernsId := by
  induction descriptors generalizing written session with
  | nil => exact ⟨[], (List.append_nil _).symm, .nothing, by simp⟩
  | cons descriptor rest ih =>
      rw [Pass.recordWritten]
      cases written.find? fun earlier => earlier.id = descriptor.id with
      | some previous =>
          let warning : Event := .overwritten descriptor.id previous.className descriptor.className
          obtain ⟨events, hlog, hrecounts, hconcerns⟩ :=
            ih (written ++ [descriptor]) (session.emit warning)
          refine ⟨warning :: events, ?_, (Recounts.aside (.overwritten _ _ _)).append hrecounts, ?_⟩
          · rw [hlog, Session.emit, List.append_assoc]
            rfl
          · simpa [warning, Event.ConcernsId.overwritten] using hconcerns
      | none => exact ih (written ++ [descriptor]) session

/-- The chapter of a declaration that has been completed: what is logged while it is handled and
when its descriptors are listed. -/
theorem completed_chapter (hmarkers : declaration.markers ≠ [])
    {descriptors : List WrittenDescriptor} {next : Session}
    (h : Pass.processDeclaration config declaration session = (.ok descriptors, next))
    (written : List WrittenDescriptor) (writings : List Writing) :
    ∃ recorded events,
      (execute config (ofDeclaration declaration) (ofSession session writings)).2.writings =
        writings ++ recorded ∧
      (Pass.recordWritten written descriptors next).2.log = session.log ++ events ∧
      Recounts config.descriptorDirectory recorded none events ∧
      (Chapter.mk declaration events).Fits := by
  obtain ⟨recorded, events, hwritings, hlog, hrecounts, hfits⟩ :=
    process_declaration_told hmarkers config session writings
  obtain ⟨noted, hnoted, hwarned, hconcerns⟩ :=
    record_written_told written descriptors next config.descriptorDirectory
  rw [h] at hlog hrecounts
  have hboth := hrecounts.append hwarned
  rw [List.append_nil] at hboth
  refine ⟨recorded, events ++ noted, hwritings, ?_, hboth, ?_, ?_⟩
  · rw [hnoted, hlog, List.append_assoc]
  · intro heligible event hevent
    exact (List.mem_append.mp hevent).elim (hfits.eligible heligible event) (hconcerns event)
  · intro hineligible
    -- There are no descriptors to be listed.
    obtain ⟨_, _, hskipped⟩ := process_declaration_of_ineligible hineligible config session
    rw [h] at hskipped
    obtain rfl : descriptors = [] := Except.ok.inj (congrArg Prod.fst hskipped)
    obtain rfl : noted = [] := List.self_eq_append_right.mp hnoted
    rw [List.append_nil]
    exact hfits.ineligible hineligible

/-! ## What a pass logs -/

/-- `HandsOver config report declarations session looked` says that a pass looks at these of the
declarations before it ends: at all of them if it is completed, and else at those up to the first
one at which it fails. -/
structure HandsOver (config : Config) (report : Pass.Report) (declarations : List Declaration)
    (session : Session) (looked : List Declaration) : Prop where
  front : looked <+: declarations
  completed : ∀ last, (Pass.runFrom config report declarations session).1 = .ok last →
    looked = declarations
  failed : ∀ error, (Pass.runFrom config report declarations session).1 = .error error →
    ∃ done failing, looked = done ++ [failing] ∧ failing.isCandidate = true ∧
      ∃ last, (Pass.runFrom config report done session).1 = .ok last

/-- A pass goes on to the other declarations after one that has been completed. -/
theorem HandsOver.cons {report grown : Pass.Report} {rest looked : List Declaration}
    {next : Session}
    (hstep : ∀ others, Pass.runFrom config report (declaration :: others) session =
      Pass.runFrom config grown others next)
    (h : HandsOver config grown rest next looked) :
    HandsOver config report (declaration :: rest) session (declaration :: looked) where
  front := (List.prefix_cons_inj declaration).mpr h.front
  completed := by
    intro last hlast
    rw [hstep] at hlast
    rw [h.completed last hlast]
  failed := by
    intro error herror
    rw [hstep] at herror
    obtain ⟨done, failing, rfl, hcandidate, hdone⟩ := h.failed error herror
    exact ⟨declaration :: done, failing, rfl, hcandidate, by rw [hstep]; exact hdone⟩

/-- A pass looks at the declaration at which it fails, and at none behind it. -/
theorem HandsOver.single {report : Pass.Report} {error : DescriptorError} (rest : List Declaration)
    (hcandidate : declaration.isCandidate = true)
    (h : (Pass.runFrom config report (declaration :: rest) session).1 = .error error) :
    HandsOver config report (declaration :: rest) session [declaration] where
  front := (List.prefix_cons_inj declaration).mpr List.nil_prefix
  completed := by
    intro last hlast
    rw [h] at hlast
    cases hlast
  failed := by
    intro _ _
    exact ⟨[], declaration, rfl, hcandidate, report, rfl⟩

/-- `Chronicle config handed writings failure chapters` says that the chapters are for these
declarations, and that together they tell of these descriptors and of this failure. -/
structure Chronicle (config : Config) (handed : List Declaration) (writings : List Writing)
    (failure : Option DescriptorError) (chapters : List Chapter) : Prop where
  handed : chapters.map (·.declaration) = handed
  fits : ∀ chapter ∈ chapters, chapter.Fits
  recounts : Recounts config.descriptorDirectory writings failure (chapters.flatMap Chapter.log)

/-- A chapter is put in front of the others. -/
theorem Chronicle.cons {handed : List Declaration} {chapters : List Chapter}
    (hfits : (Chapter.mk declaration events).Fits)
    (hevents : Recounts config.descriptorDirectory first none events)
    (h : Chronicle config handed second failure chapters) :
    Chronicle config (declaration :: handed) (first ++ second) failure
      (⟨declaration, events⟩ :: chapters) where
  handed := by rw [List.map_cons, h.handed]
  fits := List.forall_mem_cons.mpr ⟨hfits, h.fits⟩
  recounts := by
    rw [List.flatMap_cons]
    exact hevents.announced.append h.recounts

/-- The chapter of a declaration at which the pass fails is the only one. -/
theorem Chronicle.single (hfits : (Chapter.mk declaration events).Fits)
    (hevents : Recounts config.descriptorDirectory writings failure events) :
    Chronicle config [declaration] writings failure [⟨declaration, events⟩] where
  handed := rfl
  fits := List.forall_mem_singleton.mpr hfits
  recounts := by
    rw [List.flatMap_singleton]
    exact hevents.announced

/-- What chapters tell is a faithful log. -/
theorem Chronicle.traces {handed : List Declaration} {chapters : List Chapter}
    (h : Chronicle config handed writings failure chapters) :
    Traces config handed writings failure (chapters.flatMap Chapter.log) where
  chapters := ⟨chapters, h.handed, rfl, h.fits⟩
  accepted := fun _ _ _ _ => h.recounts.accepted
  answered := fun _ _ _ _ => h.recounts.answered
  written := h.recounts.written
  concluded := h.recounts.concluded

/-- A candidate has an annotation. -/
theorem markers_of_candidate (h : declaration.isCandidate = true) : declaration.markers ≠ [] := by
  simp only [Declaration.isCandidate, Bool.and_eq_true] at h
  simpa using h.2

/-- The plan of a candidate comes before that of the other declarations. -/
theorem of_unit_cons (h : declaration.isCandidate = true) (rest : List Declaration) :
    ofUnit (declaration :: rest) = ofDeclaration declaration ++ ofUnit rest := by
  simp [ofUnit, List.filter_cons_of_pos h]

/-- `Chronicled config report declarations session writings` says that going over declarations logs
a chapter for each candidate that is handed over, and puts the descriptors in place that these tell
of. -/
def Chronicled (config : Config) (report : Pass.Report) (declarations : List Declaration)
    (session : Session) (writings : List Writing) : Prop :=
  ∃ looked recorded chapters,
    HandsOver config report declarations session looked ∧
    (execute config (ofUnit declarations) (ofSession session writings)).2.writings =
      writings ++ recorded ∧
    (Pass.runFrom config report declarations session).2.log =
      session.log ++ chapters.flatMap Chapter.log ∧
    Chronicle config (looked.filter Declaration.isCandidate) recorded
      (failure? (Pass.runFrom config report declarations session).1) chapters

/-- No declarations, no chapters. -/
theorem Chronicled.nothing (report : Pass.Report) :
    Chronicled config report [] session writings := by
  refine ⟨[], [], [], ⟨List.nil_prefix, fun _ _ => rfl, ?_⟩, (List.append_nil _).symm,
    (List.append_nil _).symm, rfl, by simp, .nothing⟩
  intro error herror
  cases herror

/-- A declaration that is no candidate gets no chapter. -/
theorem Chronicled.skip {report : Pass.Report} {rest : List Declaration}
    (hcandidate : ¬ declaration.isCandidate = true)
    (h : Chronicled config report rest session writings) :
    Chronicled config report (declaration :: rest) session writings := by
  obtain ⟨looked, recorded, chapters, hlooked, hwritings, hlog, hchronicle⟩ := h
  have hstep (others : List Declaration) :
      Pass.runFrom config report (declaration :: others) session =
        Pass.runFrom config report others session := by
    rw [Pass.runFrom, if_neg hcandidate]
  have hplan : ofUnit (declaration :: rest) = ofUnit rest := by
    rw [ofUnit, List.filter_cons_of_neg hcandidate, ofUnit]
  refine ⟨declaration :: looked, recorded, chapters, .cons hstep hlooked, ?_, ?_, ?_⟩
  · rw [hplan]
    exact hwritings
  · rw [hstep]
    exact hlog
  · rw [List.filter_cons_of_neg hcandidate, hstep]
    exact hchronicle

/-- A session in which a declaration has been announced. -/
def announce (declaration : Declaration) (session : Session) : Session :=
  session.emit (.processing declaration.name declaration.markers.length)

/-- The chapter of a candidate at which the pass fails is the last. -/
theorem Chronicled.failed {error : DescriptorError} {next : Session}
    (hcandidate : declaration.isCandidate = true)
    (hresult : Pass.processDeclaration config declaration (announce declaration session) =
      (.error error, next))
    (report : Pass.Report) (rest : List Declaration) :
    Chronicled config report (declaration :: rest) session writings := by
  have hmarkers := markers_of_candidate hcandidate
  obtain ⟨recorded, events, hwritings, hlog, hevents, hfits⟩ :=
    process_declaration_told hmarkers config (announce declaration session) writings
  have hsimulated : Simulated config (ofDeclaration declaration) (announce declaration session)
      writings (Pass.processDeclaration config declaration (announce declaration session)) :=
    process_declaration_simulated hmarkers
  obtain ⟨_, hexecute, _⟩ := hsimulated
  rw [hresult] at hexecute hlog hevents
  have hexecuted : execute config (ofDeclaration declaration) (ofSession session writings) = _ :=
    hexecute
  have hrun : Pass.runFrom config report (declaration :: rest) session = (.error error, next) := by
    rw [announce] at hresult
    rw [Pass.runFrom, if_pos hcandidate, hresult]
  refine ⟨[declaration], recorded, [⟨declaration, events⟩], .single rest hcandidate (by rw [hrun]),
    ?_, ?_, ?_⟩
  · -- The plan of the other declarations is not executed.
    rw [of_unit_cons hcandidate, execute_append, hexecuted]
    rw [hexecute] at hwritings
    exact hwritings
  · rw [hrun, List.flatMap_singleton]
    refine hlog.trans ?_
    simp [announce, Session.emit, Chapter.log]
  · rw [hrun, List.filter_cons_of_pos hcandidate, List.filter_nil]
    exact .single hfits hevents

/-- The chapter of a candidate that has been completed comes before those of the other
declarations. -/
theorem Chronicled.completed {descriptors : List WrittenDescriptor} {next : Session}
    {report : Pass.Report} {rest : List Declaration} (hcandidate : declaration.isCandidate = true)
    (hresult : Pass.processDeclaration config declaration (announce declaration session) =
      (.ok descriptors, next))
    (hrest : ∀ grown reached writings, Chronicled config grown rest reached writings) :
    Chronicled config report (declaration :: rest) session writings := by
  have hmarkers := markers_of_candidate hcandidate
  obtain ⟨placed, events, hplaced, hlog, hevents, hfits⟩ :=
    completed_chapter hmarkers hresult report.written writings
  have hsimulated : Simulated config (ofDeclaration declaration) (announce declaration session)
      writings (Pass.processDeclaration config declaration (announce declaration session)) :=
    process_declaration_simulated hmarkers
  obtain ⟨recorded, hexecute, _⟩ := hsimulated
  obtain rfl : recorded = placed := by
    rw [hexecute] at hplaced
    exact List.append_cancel_left hplaced
  rw [hresult] at hexecute
  have hexecuted : execute config (ofDeclaration declaration) (ofSession session writings) = _ :=
    hexecute
  let reached := (Pass.recordWritten report.written descriptors next).2
  let grown : Pass.Report :=
    { processed := report.processed + 1
      written := (Pass.recordWritten report.written descriptors next).1 }
  have hreached :
      ofSession reached (writings ++ recorded) = ofSession next (writings ++ recorded) :=
    (record_written_eq _ _ next _).2
  have hstep (others : List Declaration) :
      Pass.runFrom config report (declaration :: others) session =
        Pass.runFrom config grown others reached := by
    rw [announce] at hresult
    rw [Pass.runFrom, if_pos hcandidate, hresult]
  obtain ⟨looked, later, chapters, hlooked, hwritings, hlater, hchronicle⟩ :=
    hrest grown reached (writings ++ recorded)
  refine ⟨declaration :: looked, recorded ++ later, ⟨declaration, events⟩ :: chapters,
    .cons hstep hlooked, ?_, ?_, ?_⟩
  · rw [of_unit_cons hcandidate, execute_append, hexecuted, ← List.append_assoc, ← hwritings,
      hreached]
    rfl
  · rw [hstep, hlater, hlog, List.flatMap_cons]
    simp [announce, Session.emit, Chapter.log]
  · rw [List.filter_cons_of_pos hcandidate, hstep]
    exact .cons hfits hevents hchronicle

/-- Going over declarations logs a chapter for each candidate that is handed over. -/
theorem run_from_chronicled (config : Config) (report : Pass.Report)
    (declarations : List Declaration) (session : Session) (writings : List Writing) :
    Chronicled config report declarations session writings := by
  induction declarations generalizing report session writings with
  | nil => exact .nothing report
  | cons declaration rest ih =>
      by_cases hcandidate : declaration.isCandidate = true
      · cases hresult :
            Pass.processDeclaration config declaration (announce declaration session) with
        | mk outcome next =>
            cases outcome with
            | error error => exact .failed hcandidate hresult report rest
            | ok descriptors => exact .completed hcandidate hresult ih
      · exact .skip hcandidate (ih report session writings)

/-- A pass informs of a descriptor with the path at which it stood, as a whole, when the steps of
the pass up to its write had been performed. -/
theorem file_of_placed {earlier later : List Writing} {current : Writing}
    {declarations : List Declaration}
    (h : placed config declarations session = earlier ++ current :: later) :
    ∃ path, current.event config.descriptorDirectory = .wrote current.id path ∧
      ∃ done ahead written, ofUnit declarations = done ++ ahead ∧
        execute config done (ofSession session []) = (.ok (), written) ∧
        written.writings = earlier ++ [current] ∧
        written.tree.entryOf? path = some (.file current.bytes) := by
  have hsteps : (execute config (ofUnit declarations) (ofSession session [])).2.writings =
      (ofSession session []).writings ++ (earlier ++ current :: later) := h
  obtain ⟨before, after, ready, written, hplan, hbefore, hready, hstep, hwritings⟩ :=
    exists_ready hsteps
  have hentry : written.tree.entryOf? (config.descriptorDirectory.join ⟨current.id.fileName⟩) =
      some (.file current.bytes) := by
    obtain ⟨writing, tree, _, _, _, _, _, hwrite, rfl⟩ := perform_write_ok hstep
    obtain rfl : writing = current := by simpa using hwritings
    exact (Descriptor.write_ok hwrite).2.entry
  refine ⟨config.descriptorDirectory.join ⟨current.id.fileName⟩, rfl,
    before ++ [.write current.id current.className], after, written, ?_, ?_, ?_, hentry⟩
  · rw [hplan, List.append_assoc, List.singleton_append]
  · rw [execute_append, hbefore]
    simp only [execute, hstep]
  · rw [hwritings, hready]
    rfl

/-- A pass logs what it does. It looks at all of the declarations, or at those up to the first at
which it fails, and the candidates among them are handed over. For each of these there is a chapter
in the log, in order. When a descriptor has been put in place that the log informs of, it stands at
the path that is logged. -/
theorem log_traces_pass (config : Config) (declarations : List Declaration) (session : Session) :
    let result := Pass.run config declarations session
    ∃ looked rest events, declarations = looked ++ rest ∧
      (∀ report, result.1 = .ok report → rest = []) ∧
      (∀ error, result.1 = .error error → ∃ done failing, looked = done ++ [failing] ∧
        failing.isCandidate = true ∧ ∃ report, (Pass.run config done session).1 = .ok report) ∧
      result.2.log = session.log ++ events ∧
      Traces config (looked.filter Declaration.isCandidate) (placed config declarations session)
        (failure? result.1) events ∧
      ∀ earlier current later,
        placed config declarations session = earlier ++ current :: later →
        ∃ path, current.event config.descriptorDirectory = .wrote current.id path ∧
          ∃ done ahead written, ofUnit declarations = done ++ ahead ∧
            execute config done (ofSession session []) = (.ok (), written) ∧
            written.writings = earlier ++ [current] ∧
            written.tree.entryOf? path = some (.file current.bytes) := by
  intro result
  obtain ⟨looked, recorded, chapters, hlooked, hplaced, hlog, hchronicle⟩ :=
    run_from_chronicled config {} declarations session []
  obtain rfl : placed config declarations session = recorded := hplaced
  obtain ⟨rest, rfl⟩ := hlooked.front
  refine ⟨looked, rest, chapters.flatMap Chapter.log, rfl, ?_, hlooked.failed, hlog,
    hchronicle.traces, fun _ _ _ => file_of_placed⟩
  intro report hreport
  exact List.append_right_eq_self.mp (hlooked.completed report hreport).symm

end PluginDescriptor.Plan
