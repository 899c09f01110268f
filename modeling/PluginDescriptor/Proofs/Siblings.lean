import PluginDescriptor.Proofs.Eligibility
import PluginDescriptor.Proofs.Refinement

/-!
# Bad siblings

A declaration that no descriptor can be written for, or an annotation without a plugin id, does no
harm to what stands beside it: a pass writes the same descriptors and ends in the same way with it
and without it. Only diagnostics come and go, each at its own place. Two facts about executing steps
carry this. What is written is decided by the writes among the steps, `execute_of_writes_eq`, and
what was reported before makes no difference to what is done and reported later, `execute_preceded`.
-/

namespace PluginDescriptor

/-- No descriptor can be written for the declaration: it is nested, it has no annotations, it is not
eligible, or none of its annotations names an id. -/
def Declaration.Barren (declaration : Declaration) : Prop :=
  declaration.enclosing ≠ none ∨ declaration.markers = [] ∨ ¬ declaration.Eligible ∨
    ∀ marker ∈ declaration.markers, ∀ id, ¬ marker.Names id

/-- A barren declaration is entitled to no descriptor. -/
theorem Declaration.Barren.not_licenses {declaration : Declaration} (h : declaration.Barren)
    (id : PluginId) : ¬ declaration.Licenses id := by
  intro hlicenses
  obtain ⟨marker, hmarker, hnames⟩ := hlicenses.marked
  rcases h with hnested | hnone | hineligible | hnameless
  · exact hnested hlicenses.topLevel
  · rw [hnone] at hmarker
    cases hmarker
  · exact hineligible hlicenses.eligible
  · exact hnameless marker hmarker id hnames

namespace Plan

variable {config : Config} {state other : State} {steps others : List Step}
  {declaration : Declaration} {marker : Marker}

/-! ## What was reported before -/

/-- The state with diagnostics and descriptors that came before its own. -/
def State.preceded (state : State) (diagnostics : List Diagnostic) (writings : List Writing) :
    State :=
  { state with
    diagnostics := ⟨diagnostics ++ state.diagnostics.entries⟩
    writings := writings ++ state.writings }

/-- A state is a fresh one, preceded by its own diagnostics and descriptors. -/
theorem preceded_fresh (state : State) :
    State.preceded ⟨state.tree, state.clock, {}, []⟩ state.diagnostics.entries state.writings =
      state := by
  simp [State.preceded]

/-- A failure is reported after everything that came before. -/
theorem refuse_preceded (state : State) (id : PluginId) (error : DescriptorError)
    (diagnostics : List Diagnostic) (writings : List Writing) :
    (state.preceded diagnostics writings).refuse id error =
      (state.refuse id error).preceded diagnostics writings := by
  simp [State.preceded, State.refuse, Diagnostics.addFatal]

/-- A step does the same whatever came before. -/
theorem perform_preceded (config : Config) (step : Step) (state : State)
    (diagnostics : List Diagnostic) (writings : List Writing) :
    perform config (state.preceded diagnostics writings) step =
      ((perform config state step).1,
        (perform config state step).2.preceded diagnostics writings) := by
  cases step with
  | report message position => simp [perform, State.preceded, Diagnostics.addError]
  | write id className =>
      have htree : (state.preceded diagnostics writings).tree = state.tree := rfl
      have hclock : (state.preceded diagnostics writings).clock = state.clock := rfl
      simp only [perform, htree, hclock]
      cases Charset.ofName config.encoding with
      | error cause => exact Prod.ext rfl (refuse_preceded state id _ diagnostics writings)
      | ok charset =>
          dsimp only
          cases Descriptor.write state.tree config.descriptorDirectory id
              (Writing.bytes ⟨id, className, config.label, state.clock.now, charset⟩) with
          | mk outcome tree =>
              cases outcome with
              | error error =>
                  exact Prod.ext rfl
                    (refuse_preceded (state.proceed tree) id error diagnostics writings)
              | ok target => simp [State.preceded, State.proceed]

/-- Steps do the same whatever came before. -/
theorem execute_preceded (config : Config) (steps : List Step) (state : State)
    (diagnostics : List Diagnostic) (writings : List Writing) :
    execute config steps (state.preceded diagnostics writings) =
      ((execute config steps state).1,
        (execute config steps state).2.preceded diagnostics writings) := by
  induction steps generalizing state with
  | nil => rfl
  | cons step rest ih =>
      rw [execute, execute, perform_preceded]
      cases perform config state step with
      | mk outcome next =>
          cases outcome with
          | error error => rfl
          | ok => exact ih next

/-- Steps add to the diagnostics what they would report from a fresh start. -/
theorem execute_entries (config : Config) (steps : List Step) (state : State) :
    (execute config steps state).2.diagnostics.entries = state.diagnostics.entries ++
      (execute config steps ⟨state.tree, state.clock, {}, []⟩).2.diagnostics.entries := by
  have hsame := execute_preceded config steps ⟨state.tree, state.clock, {}, []⟩
    state.diagnostics.entries state.writings
  rw [preceded_fresh] at hsame
  rw [hsame]
  rfl

/-! ## What is not reported -/

/-- The state without its diagnostics. -/
def State.silent (state : State) : State :=
  { state with diagnostics := {} }

/-- Whatever has been reported, a write does the same, except for the diagnostics. -/
theorem perform_write_silent (config : Config) (h : state.silent = other.silent) (id : PluginId)
    (className : String) :
    (perform config state (.write id className)).1 =
        (perform config other (.write id className)).1 ∧
      (perform config state (.write id className)).2.silent =
        (perform config other (.write id className)).2.silent := by
  obtain ⟨tree, clock, diagnostics, writings⟩ := state
  obtain ⟨_, _, otherDiagnostics, _⟩ := other
  obtain ⟨rfl, rfl, -, rfl⟩ := State.mk.inj h
  simp only [perform]
  cases Charset.ofName config.encoding with
  | error cause => exact ⟨rfl, rfl⟩
  | ok charset =>
      dsimp only
      split <;> exact ⟨rfl, rfl⟩

/-- Reports can be left out of the steps, except for the diagnostics. -/
theorem execute_silent (config : Config) (steps : List Step) (h : state.silent = other.silent) :
    (execute config steps state).1 =
        (execute config ((writes steps).map fun (id, className) => .write id className) other).1 ∧
      (execute config steps state).2.silent =
        (execute config ((writes steps).map fun (id, className) =>
          .write id className) other).2.silent := by
  induction steps generalizing state other with
  | nil => exact ⟨rfl, h⟩
  | cons step rest ih =>
      cases step with
      | report message position => exact ih h
      | write id className =>
          show _ = (execute config (.write id className :: _) other).1 ∧
            _ = (execute config (.write id className :: _) other).2.silent
          obtain ⟨houtcome, hsilent⟩ := perform_write_silent config h id className
          rw [execute, execute]
          cases hstep : perform config state (.write id className) with
          | mk outcome next =>
              cases hother : perform config other (.write id className) with
              | mk otherOutcome otherNext =>
                  rw [hstep, hother] at houtcome hsilent
                  obtain rfl : outcome = otherOutcome := houtcome
                  cases outcome with
                  | error error => exact ⟨rfl, hsilent⟩
                  | ok => exact ih hsilent

/-- Steps with the same writes end in the same way and leave the same, except for the
diagnostics. -/
theorem execute_of_writes_eq (config : Config) (h : writes steps = writes others) (state : State) :
    (execute config steps state).1 = (execute config others state).1 ∧
      (execute config steps state).2.silent = (execute config others state).2.silent := by
  obtain ⟨houtcome, hsilent⟩ := execute_silent config steps (rfl : state.silent = state.silent)
  obtain ⟨hotherOutcome, hotherSilent⟩ :=
    execute_silent config others (rfl : state.silent = state.silent)
  rw [h] at houtcome hsilent
  exact ⟨houtcome.trans hotherOutcome.symm, hsilent.trans hotherSilent.symm⟩

/-- Steps that ask for no descriptor succeed and leave everything but the diagnostics. -/
theorem execute_of_no_writes (config : Config) (h : writes steps = []) (state : State) :
    (execute config steps state).1 = .ok () ∧
      (execute config steps state).2.silent = state.silent := by
  have hsame : writes steps = writes [] := h
  exact execute_of_writes_eq config hsame state

/-! ## The writes of a compilation unit -/

/-- The plan for declarations is made piece by piece. -/
theorem of_unit_append (first second : List Declaration) :
    ofUnit (first ++ second) = ofUnit first ++ ofUnit second := by
  simp [ofUnit, List.filter_append]

/-- No write is planned for a barren declaration. -/
theorem writes_of_barren (h : declaration.Barren) : writes (ofUnit [declaration]) = [] := by
  rw [List.eq_nil_iff_forall_not_mem]
  intro write hwrite
  obtain ⟨id, className⟩ := write
  obtain ⟨other, hother, hlicenses, _⟩ := mem_writes_iff.mp hwrite
  obtain rfl := List.mem_singleton.mp hother
  exact h.not_licenses id hlicenses

/-- An annotation that names no id calls for no write. -/
theorem writes_of_nameless {className : String} (h : ∀ id, ¬ marker.Names id) :
    writes [Step.ofMarker className marker] = [] := by
  rw [List.eq_nil_iff_forall_not_mem]
  intro write hwrite
  obtain ⟨id, other⟩ := write
  have hstep := List.mem_singleton.mp (mem_writes.mp hwrite)
  exact h id (of_marker_write_iff.mp hstep.symm).1

/-- A declaration that is not eligible calls for no write. -/
theorem writes_of_ineligible (h : ¬ declaration.Eligible) :
    writes (ofDeclaration declaration) = [] := by
  rw [List.eq_nil_iff_forall_not_mem]
  intro write hwrite
  obtain ⟨id, className⟩ := write
  exact h (write_mem_of_declaration_iff.mp (mem_writes.mp hwrite)).1

/-- An annotation that names no id makes no difference to the writes for its declaration. -/
theorem writes_of_inserted_marker {front back : List Marker}
    (hmarkers : declaration.markers = front ++ back) (h : ∀ id, ¬ marker.Names id) :
    writes (ofDeclaration { declaration with markers := front ++ marker :: back }) =
      writes (ofDeclaration declaration) := by
  by_cases heligible : declaration.Eligible
  · have hstill : ({ declaration with markers := front ++ marker :: back } :
        Declaration).Eligible :=
      ⟨heligible.isPublic, heligible.isConcrete, heligible.isPlugin⟩
    rw [of_declaration_eligible heligible, of_declaration_eligible hstill, hmarkers,
      List.map_append, List.map_append, List.map_cons, writes_append, writes_append,
      ← List.singleton_append (l := List.map _ back), writes_append, writes_of_nameless h,
      List.nil_append]
  · have hneither : ¬ ({ declaration with markers := front ++ marker :: back } :
        Declaration).Eligible := by
      intro hstill
      exact heligible ⟨hstill.isPublic, hstill.isConcrete, hstill.isPlugin⟩
    rw [writes_of_ineligible heligible, writes_of_ineligible hneither]

/-! ## Passes with and without a bad sibling -/

/-- Two passes from the same session write the same: they end in the same way, with the same error
or the same descriptors, and have put the same descriptors in place. -/
structure WriteAlike (config : Config) (session : Session) (first second : List Declaration) :
    Prop where
  tree : (Pass.run config first session).2.tree = (Pass.run config second session).2.tree
  clock : (Pass.run config first session).2.clock = (Pass.run config second session).2.clock
  result : (Pass.run config first session).1.map Pass.Report.written =
    (Pass.run config second session).1.map Pass.Report.written
  placed : placed config first session = placed config second session

/-- Passes whose plans have the same writes write the same. -/
theorem write_alike_of_writes_eq {first second : List Declaration}
    (h : writes (ofUnit first) = writes (ofUnit second)) (session : Session) :
    WriteAlike config session first second := by
  obtain ⟨houtcome, hsilent⟩ :=
    execute_of_writes_eq config h (ofSession session [])
  have hwritings := congrArg State.writings hsilent
  have hplaced : placed config first session = placed config second session := hwritings
  rw [← of_session_run, ← of_session_run] at hsilent
  have htree := congrArg State.tree hsilent
  have hclock := congrArg State.clock hsilent
  refine ⟨htree, hclock, ?_, hplaced⟩
  rw [result_of_run, result_of_run, houtcome, hplaced]
  cases (execute config (ofUnit second) (ofSession session [])).1 <;> rfl

/-- The diagnostics of a pass are those of its steps. -/
theorem entries_of_run (config : Config) (declarations : List Declaration) (session : Session) :
    (Pass.run config declarations session).2.diagnostics.entries =
      (execute config (ofUnit declarations) (ofSession session [])).2.diagnostics.entries := by
  rw [← of_session_run]
  rfl

/-- A pass that is cut short is not changed by more declarations at the end. -/
theorem entries_of_run_error {first : List Declaration} {session : Session}
    {error : DescriptorError} (h : (Pass.run config first session).1 = .error error)
    (second : List Declaration) :
    (Pass.run config (first ++ second) session).2.diagnostics.entries =
      (Pass.run config first session).2.diagnostics.entries := by
  rw [entries_of_run, entries_of_run, of_unit_append, execute_append]
  cases hexecute : execute config (ofUnit first) (ofSession session []) with
  | mk outcome next =>
      cases outcome with
      | error error => rfl
      | ok =>
          obtain ⟨hresult, _⟩ := run_of_execute_ok hexecute
          rw [h] at hresult
          cases hresult

/-- After a completed pass, a pass over more declarations reports what one from a fresh start
would. -/
theorem entries_of_run_ok {first : List Declaration} {session : Session} {report : Pass.Report}
    (h : (Pass.run config first session).1 = .ok report) (second : List Declaration) :
    (Pass.run config (first ++ second) session).2.diagnostics.entries =
      (Pass.run config first session).2.diagnostics.entries ++
        (Pass.run config second
          { tree := (Pass.run config first session).2.tree
            clock := (Pass.run config first session).2.clock }).2.diagnostics.entries := by
  rw [entries_of_run config (first ++ second), of_unit_append, execute_append]
  cases hexecute : execute config (ofUnit first) (ofSession session []) with
  | mk outcome next =>
      have hsession := of_session_run config first session
      rw [hexecute] at hsession
      cases outcome with
      | error error =>
          obtain ⟨hresult, _⟩ := run_of_execute_error hexecute
          rw [h] at hresult
          cases hresult
      | ok =>
          subst hsession
          rw [entries_of_run config second]
          exact execute_entries config (ofUnit second) _

/-- A barren declaration adds its own diagnostics and leaves everything else. -/
theorem run_of_barren (config : Config) (h : declaration.Barren) (session : Session) :
    (∃ report, (Pass.run config [declaration] session).1 = .ok report) ∧
      (Pass.run config [declaration] session).2.tree = session.tree ∧
      (Pass.run config [declaration] session).2.clock = session.clock := by
  obtain ⟨houtcome, hsilent⟩ :=
    execute_of_no_writes config (writes_of_barren h) (ofSession session [])
  obtain ⟨hresult, _⟩ := run_of_execute_ok (Prod.ext houtcome rfl)
  rw [← of_session_run] at hsilent
  have htree := congrArg State.tree hsilent
  have hclock := congrArg State.clock hsilent
  exact ⟨⟨_, hresult⟩, htree, hclock⟩

/-- A declaration that no descriptor can be written for makes no difference to what a pass writes,
and its own diagnostics come between those of the declarations before it and those of the
declarations after it, if the pass gets that far. An annotation that names no id makes no difference
to what a pass writes either. -/
theorem bad_siblings (config : Config) (session : Session) (front back : List Declaration) :
    (∀ declaration : Declaration, declaration.Barren →
      let before := Pass.run config front session
      let fresh : Session := { tree := before.2.tree, clock := before.2.clock }
      let without := Pass.run config (front ++ back) session
      let joined := Pass.run config (front ++ declaration :: back) session
      WriteAlike config session (front ++ declaration :: back) (front ++ back) ∧
      match before.1 with
      | .error _ => joined.2.diagnostics = without.2.diagnostics
      | .ok _ =>
        without.2.diagnostics.entries = before.2.diagnostics.entries ++
          (Pass.run config back fresh).2.diagnostics.entries ∧
        joined.2.diagnostics.entries = before.2.diagnostics.entries ++
          (Pass.run config [declaration] fresh).2.diagnostics.entries ++
          (Pass.run config back fresh).2.diagnostics.entries) ∧
    (∀ (declaration : Declaration) (first second : List Marker) (marker : Marker),
      declaration.markers = first ++ second → (∀ id, ¬ marker.Names id) →
      WriteAlike config session
        (front ++ { declaration with markers := first ++ marker :: second } :: back)
        (front ++ declaration :: back)) := by
  constructor
  · intro declaration hbarren before fresh without joined
    refine ⟨?_, ?_⟩
    · apply write_alike_of_writes_eq
      rw [← List.singleton_append, of_unit_append, of_unit_append, of_unit_append, writes_append,
        writes_append, writes_append, writes_of_barren hbarren, List.nil_append]
    · cases hbefore : before.1 with
      | error error =>
          have hjoined : joined.2.diagnostics.entries = before.2.diagnostics.entries :=
            entries_of_run_error hbefore (declaration :: back)
          have hwithout : without.2.diagnostics.entries = before.2.diagnostics.entries :=
            entries_of_run_error hbefore back
          exact congrArg Diagnostics.mk (hjoined.trans hwithout.symm)
      | ok report =>
          refine ⟨entries_of_run_ok hbefore back, ?_⟩
          -- The barren declaration leaves the file tree and the clock for those after it.
          obtain ⟨⟨_, hresult⟩, htree, hclock⟩ := run_of_barren config hbarren fresh
          have hrest := entries_of_run_ok hresult back
          rw [htree, hclock] at hrest
          have hjoined : joined.2.diagnostics.entries = before.2.diagnostics.entries ++
              (Pass.run config (declaration :: back) fresh).2.diagnostics.entries :=
            entries_of_run_ok hbefore (declaration :: back)
          rw [hjoined, List.append_assoc]
          exact congrArg _ hrest
  · intro declaration first second marker hmarkers hnameless
    apply write_alike_of_writes_eq
    have hwrites : writes
        (ofUnit [{ declaration with markers := first ++ marker :: second }]) =
        writes (ofUnit [declaration]) := by
      rw [of_unit_eq, of_unit_eq, List.filter_cons, List.filter_cons]
      by_cases htop : declaration.enclosing = none
      · rw [if_pos (decide_eq_true htop), if_pos (decide_eq_true htop)]
        simpa using writes_of_inserted_marker hmarkers hnameless
      · simp [htop]
    rw [List.append_cons, List.append_cons front declaration]
    simp only [of_unit_append, writes_append, hwrites]

/-- A class that is not public and an annotation without a value stand beside an annotation for
`a.b`, which is written all the same. -/
theorem bad_siblings_of_one_class :
    let config : Config := { outputRoot := ⟨"out"⟩ }
    let session : Session := { tree := .empty, clock := .constant ⟨0, 0, 0⟩ }
    let marker : Marker := { value := some "a.b" }
    let hidden : Declaration := { name := "hidden.Plugin", markers := [marker] }
    let good : Declaration := {
      name := "good.Plugin"
      visibility := .isPublic
      implements := [Declaration.pluginInterface]
      markers := [marker] }
    let mixed : Declaration := { good with markers := [{}, marker] }
    let written (declarations : List Declaration) : Option (List Path) :=
      ((Pass.run config declarations session).1.map Pass.Report.written).toOption.map
        (List.map WrittenDescriptor.path)
    let path : Path := ⟨"out/META-INF/gradle-plugins/a.b.properties"⟩
    hidden.Barren ∧ (∀ id, ¬ Marker.Names {} id) ∧
      written [hidden, good] = some [path] ∧ written [mixed] = some [path] := by
  intro config session marker hidden good mixed written path
  have hbarren : hidden.Barren := by
    refine Or.inr (Or.inr (Or.inl ?_))
    intro heligible
    exact absurd heligible.isPublic (by decide)
  have hnameless : ∀ id, ¬ Marker.Names {} id := by
    intro id hnames
    obtain ⟨value, hvalue, _⟩ := hnames
    cases hvalue
  have hgood : written [good] = some [path] := by decide +kernel
  have hhidden := ((bad_siblings config session [] [good]).1 hidden hbarren).1
  have hmixed := (bad_siblings config session [] []).2 good [] [marker] {} rfl hnameless
  refine ⟨hbarren, hnameless, ?_, ?_⟩
  · rw [← hgood]
    exact congrArg (fun result => result.toOption.map (List.map WrittenDescriptor.path))
      hhidden.result
  · rw [← hgood]
    exact congrArg (fun result => result.toOption.map (List.map WrittenDescriptor.path))
      hmixed.result

end Plan

end PluginDescriptor
