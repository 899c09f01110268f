import PluginDescriptor.Proofs.Siblings

/-!
# Passes without a charset

A pass whose encoding names no charset touches nothing. It finds out at the first id that a
descriptor is to be written for, and not before: reports that are planned in front of that id are
made, and a pass with no such id is completed like any other. `FirstId` says which id is the first.
The main statement is `unknown_charset`.
-/

namespace PluginDescriptor

/-- A name that no charset answers to is kept as it was given. -/
theorem Charset.of_name_error {name : String} {cause : UnsupportedCharset}
    (h : Charset.ofName name = .error cause) : cause = ⟨name⟩ := by
  unfold ofName at h
  split at h
  · cases h
  · exact (Except.error.inj h).symm

namespace Plan

/-- The first id that a compilation unit is entitled to is one of `declaration`, in the annotation
behind `front`: neither the declarations in `before` nor the annotations in `front` give an id. -/
structure FirstId (declarations before : List Declaration) (declaration : Declaration)
    (front : List Marker) (id : PluginId) : Prop where
  unit : ∃ after, declarations = before ++ declaration :: after
  earlier : ∀ other ∈ before, ∀ otherId, ¬ other.Licenses otherId
  topLevel : declaration.enclosing = none
  eligible : declaration.Eligible
  markers : ∃ marker back, declaration.markers = front ++ marker :: back ∧ marker.Names id
  nameless : ∀ marker ∈ front, ∀ otherId, ¬ marker.Names otherId

variable {config : Config} {declarations before : List Declaration} {declaration : Declaration}
  {front : List Marker} {id : PluginId} {cause : UnsupportedCharset} {state : State}

/-! ## The first id -/

/-- Where something in a list has a property, something in it is the first to have it. -/
theorem exists_first {α : Type} {holds : α → Prop} {items : List α}
    (h : ∃ item ∈ items, holds item) : ∃ front item back, items = front ++ item :: back ∧
      holds item ∧ ∀ earlier ∈ front, ¬ holds earlier := by
  classical
  have hsome : (items.find? fun item => decide (holds item)).isSome = true := by
    simpa [List.find?_isSome] using h
  obtain ⟨item, hfound⟩ := Option.isSome_iff_exists.mp hsome
  obtain ⟨hholds, front, back, hitems, hearlier⟩ := List.find?_eq_some_iff_append.mp hfound
  exact ⟨front, item, back, hitems, by simpa using hholds, by simpa using hearlier⟩

/-- A unit that is entitled to any id is entitled to a first one. -/
theorem exists_first_id (h : ∃ declaration ∈ declarations, ∃ id, declaration.Licenses id) :
    ∃ before declaration front id, FirstId declarations before declaration front id := by
  obtain ⟨before, declaration, after, hunit, ⟨id, hlicenses⟩, hearlier⟩ := exists_first h
  have hmarked : ∃ marker ∈ declaration.markers, ∃ id, marker.Names id := by
    obtain ⟨marker, hmarker, hnames⟩ := hlicenses.marked
    exact ⟨marker, hmarker, id, hnames⟩
  obtain ⟨front, marker, back, hmarkers, ⟨first, hnames⟩, hnameless⟩ := exists_first hmarked
  refine ⟨before, declaration, front, first, ⟨after, hunit⟩, ?_, hlicenses.topLevel,
    hlicenses.eligible, ⟨marker, back, hmarkers, hnames⟩, ?_⟩
  · intro other hother otherId hlicensed
    exact hearlier other hother ⟨otherId, hlicensed⟩
  · intro other hother otherId hnamed
    exact hnameless other hother ⟨otherId, hnamed⟩

/-- The steps that are planned in front of the first id. -/
def stepsBefore (before : List Declaration) (declaration : Declaration) (front : List Marker) :
    List Step :=
  ofUnit before ++ front.map (Step.ofMarker declaration.name)

/-- The first write of a plan is that of the first id. -/
theorem FirstId.plan (h : FirstId declarations before declaration front id) :
    ∃ rest, ofUnit declarations =
      stepsBefore before declaration front ++ .write id declaration.name :: rest := by
  obtain ⟨after, hunit⟩ := h.unit
  obtain ⟨marker, back, hmarkers, hnames⟩ := h.markers
  have hcandidate : declaration.isCandidate = true := by
    simp [Declaration.isCandidate, Declaration.isNested, h.topLevel, hmarkers]
  have hstep : Step.ofMarker declaration.name marker = .write id declaration.name :=
    of_marker_write_iff.mpr ⟨hnames, rfl⟩
  have hdeclaration : ofUnit [declaration] = front.map (Step.ofMarker declaration.name) ++
      .write id declaration.name :: back.map (Step.ofMarker declaration.name) := by
    rw [ofUnit, List.filter_cons_of_pos hcandidate, List.filter_nil, List.flatMap_singleton,
      of_declaration_eligible h.eligible, hmarkers, List.map_append, List.map_cons, hstep]
  refine ⟨back.map (Step.ofMarker declaration.name) ++ ofUnit after, ?_⟩
  rw [hunit, ← List.singleton_append, of_unit_append, of_unit_append, hdeclaration, stepsBefore]
  simp only [List.append_assoc, List.cons_append]

/-- No write is planned in front of the first id. -/
theorem FirstId.no_writes (h : FirstId declarations before declaration front id) :
    writes (stepsBefore before declaration front) = [] := by
  rw [List.eq_nil_iff_forall_not_mem]
  rintro ⟨other, className⟩ hwrite
  rw [stepsBefore, writes_append, List.mem_append] at hwrite
  rcases hwrite with hunit | hmarkers
  · obtain ⟨source, hsource, hlicenses, _⟩ := mem_writes_iff.mp hunit
    exact h.earlier source hsource other hlicenses
  · obtain ⟨marker, hmarker, hstep⟩ := List.mem_map.mp (mem_writes.mp hmarkers)
    exact h.nameless marker hmarker other (of_marker_write_iff.mp hstep).1

/-! ## What is done without a charset -/

/-- Without a charset, a write fails before anything is touched. -/
theorem perform_write_unknown (h : Charset.ofName config.encoding = .error cause) (state : State)
    (id : PluginId) (className : String) :
    perform config state (.write id className) =
      (.error (.unsupportedCharset cause), state.refuse id (.unsupportedCharset cause)) := by
  rw [perform, h]

/-- Without a charset, a step leaves everything but the diagnostics. -/
theorem perform_unknown_silent (h : Charset.ofName config.encoding = .error cause) (state : State)
    (step : Step) : (perform config state step).2.silent = state.silent := by
  cases step with
  | report message position => rfl
  | write id className =>
      rw [perform_write_unknown h]
      rfl

/-- Without a charset, any number of steps leave everything but the diagnostics. -/
theorem execute_unknown_silent (h : Charset.ofName config.encoding = .error cause)
    (steps : List Step) (state : State) :
    (execute config steps state).2.silent = state.silent := by
  induction steps generalizing state with
  | nil => rfl
  | cons step rest ih =>
      have hstep := perform_unknown_silent h state step
      rw [execute]
      cases hperform : perform config state step with
      | mk outcome next =>
          rw [hperform] at hstep
          cases outcome with
          | error error => exact hstep
          | ok => exact (ih next).trans hstep

/-- Without a charset, a pass leaves the file tree and the clock as they are. -/
theorem run_unknown_untouched (h : Charset.ofName config.encoding = .error cause)
    (declarations : List Declaration) (session : Session) :
    (Pass.run config declarations session).2.tree = session.tree ∧
      (Pass.run config declarations session).2.clock = session.clock := by
  have hsilent := execute_unknown_silent h (ofUnit declarations) (ofSession session [])
  rw [← of_session_run] at hsilent
  exact ⟨congrArg State.tree hsilent, congrArg State.clock hsilent⟩

/-- Steps without any write succeed. -/
theorem execute_of_reports {steps : List Step} (h : writes steps = []) (config : Config)
    (state : State) :
    execute config steps state = (.ok (), (execute config steps state).2) :=
  Prod.ext (execute_of_no_writes config h state).1 rfl

/-- Without a charset, steps come to an end at their first write. What was planned in front of it
has been reported, and then its failure. -/
theorem execute_unknown {front : List Step} (h : Charset.ofName config.encoding = .error cause)
    (hfront : writes front = []) (id : PluginId) (className : String) (rest : List Step)
    (state : State) :
    ∃ after, execute config (front ++ .write id className :: rest) state =
        (.error (.unsupportedCharset cause), after) ∧
      after.diagnostics.entries = state.diagnostics.entries ++ reports front ++
        [⟨.fatal, s!"failed to write the plugin descriptor for '{id.text}': {cause.message}",
          none⟩] := by
  have hready := execute_of_reports hfront config state
  refine ⟨(execute config front state).2.refuse id (.unsupportedCharset cause), ?_, ?_⟩
  · rw [execute_append, hready]
    dsimp only
    rw [execute, perform_write_unknown h]
  · rw [refuse_entries, (execute_ok hready).1]
    rfl

/-- A pass whose encoding names no charset leaves the file tree and the clock as they are. It fails
if and only if a declaration is entitled to an id. Then it ends at the first one, with the encoding
as it was given: what was planned in front of that id has been reported, and the failure, but
nothing that was planned behind it. Otherwise it is completed without any descriptor, and all that
was planned has been reported. -/
theorem unknown_charset (config : Config)
    (hunknown : ∀ charset, Charset.ofName config.encoding ≠ .ok charset)
    (declarations : List Declaration) (session : Session) :
    let result := Pass.run config declarations session
    result.2.tree = session.tree ∧ result.2.clock = session.clock ∧
    ((∃ error, result.1 = .error error) ↔
      ∃ declaration ∈ declarations, ∃ id, declaration.Licenses id) ∧
    (∀ error, result.1 = .error error → error = .unsupportedCharset ⟨config.encoding⟩ ∧
      ∃ before declaration front id, FirstId declarations before declaration front id ∧
        result.2.diagnostics.entries = session.diagnostics.entries ++
          reports (stepsBefore before declaration front) ++
          [⟨.fatal, s!"failed to write the plugin descriptor for '{id.text}': " ++
            s!"unsupported source encoding '{config.encoding}'", none⟩]) ∧
    ∀ report, result.1 = .ok report →
      report = { processed := (declarations.filter Declaration.isCandidate).length } ∧
      result.2.diagnostics.entries = session.diagnostics.entries ++
        reports (ofUnit declarations) := by
  intro result
  obtain ⟨cause, hcharset⟩ : ∃ cause, Charset.ofName config.encoding = .error cause := by
    cases hname : Charset.ofName config.encoding with
    | error cause => exact ⟨cause, rfl⟩
    | ok charset => exact absurd hname (hunknown charset)
  obtain rfl := Charset.of_name_error hcharset
  obtain ⟨htree, hclock⟩ := run_unknown_untouched hcharset declarations session
  refine ⟨htree, hclock, ?_⟩
  by_cases hlicensed : ∃ declaration ∈ declarations, ∃ id, declaration.Licenses id
  · obtain ⟨before, declaration, front, id, hfirst⟩ := exists_first_id hlicensed
    obtain ⟨rest, hplan⟩ := hfirst.plan
    obtain ⟨after, hexecute, hentries⟩ :=
      execute_unknown hcharset hfirst.no_writes id declaration.name rest (ofSession session [])
    rw [← hplan] at hexecute
    obtain ⟨hresult, hsession⟩ := run_of_execute_error hexecute
    have hfailed : result.1 = .error (.unsupportedCharset ⟨config.encoding⟩) := hresult
    rw [hfailed]
    refine ⟨iff_of_true ⟨_, rfl⟩ hlicensed, ?_, ?_⟩
    · intro error herror
      rw [← hsession] at hentries
      exact ⟨(Except.error.inj herror).symm, before, declaration, front, id, hfirst, hentries⟩
    · intro report hreport
      cases hreport
  · have hnothing : writes (ofUnit declarations) = [] := by
      rw [List.eq_nil_iff_forall_not_mem]
      rintro ⟨id, className⟩ hwrite
      obtain ⟨declaration, hmember, hlicenses, _⟩ := mem_writes_iff.mp hwrite
      exact hlicensed ⟨declaration, hmember, id, hlicenses⟩
    obtain ⟨hresult, _, hentries⟩ := run_of_execute_ok (execute_of_reports hnothing config _)
    rw [hnothing] at hresult
    have hcompleted : result.1 =
        .ok { processed := (declarations.filter Declaration.isCandidate).length } := hresult
    rw [hcompleted]
    refine ⟨iff_of_false ?_ hlicensed, ?_, ?_⟩
    · rintro ⟨error, herror⟩
      cases herror
    · intro error herror
      cases herror
    · intro report hreport
      exact ⟨(Except.ok.inj hreport).symm, hentries⟩

/-- The second annotation of the second class is the first with an id. -/
theorem unknown_charset_of_second_class :
    let config : Config := { outputRoot := ⟨"out"⟩, encoding := "EBCDIC" }
    let session : Session := { tree := .empty, clock := .constant ⟨0, 0, 0⟩ }
    let hidden : Declaration := { name := "hidden.Plugin", markers := [{ value := some "a.b" }] }
    let good : Declaration := {
      name := "good.Plugin"
      visibility := .isPublic
      implements := [Declaration.pluginInterface]
      markers := [{}, { value := some "c.d" }, { value := some "e.f" }, {}] }
    let result := Pass.run config [hidden, good] session
    (∀ charset, Charset.ofName config.encoding ≠ .ok charset) ∧ result.2.tree = .empty ∧
      ∃ error, result.1 = .error error := by
  intro config session hidden good result
  have hunknown : ∀ charset, Charset.ofName config.encoding ≠ .ok charset := by
    have hnone : (Charset.ofName config.encoding).toOption = none := by decide +kernel
    intro charset hcharset
    rw [hcharset] at hnone
    cases hnone
  obtain ⟨htree, _, hfails, _⟩ := unknown_charset config hunknown [hidden, good] session
  refine ⟨hunknown, htree, hfails.mpr ⟨good, by decide, ⟨"c.d", by decide⟩, ?_⟩⟩
  exact ⟨rfl, ⟨rfl, ⟨rfl, rfl⟩, by decide⟩, { value := some "c.d" }, by decide, "c.d", rfl,
    by decide⟩

end Plan

end PluginDescriptor
