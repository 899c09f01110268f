import PluginDescriptor.Proofs.Plan

/-!
# What can come of a plan

`Executed` says what can come of steps, however a descriptor is put in place: `puts before writing
after` is how a write that succeeds leads from one file tree to another. All steps succeed,
`Executed.ok`, or the first write that fails is reported and ends them, `Executed.refused`. Either
way the descriptors that are put in place are the first writes of the plan, `Executed.writings`, and
whatever holds of each write holds of all of them together, `Executed.recorded`. Executing a plan
with writes that are made at once is one way, `execute_executed`.
-/

namespace PluginDescriptor.Plan

open FileTree

/-- What can come of a step. A write that fails creates directories at most. -/
inductive Performed (config : Config) (puts : FileTree → Writing → FileTree → Prop)
    (state : State) : Step → Except DescriptorError Unit → State → Prop where
  | reported (message position) :
      Performed config puts state (.report message position) (.ok ())
        { state with diagnostics := state.diagnostics.addError message position }
  | uncharted (id className cause) :
      Charset.ofName config.encoding = .error cause →
      Performed config puts state (.write id className) (.error (.unsupportedCharset cause))
        (state.refuse id (.unsupportedCharset cause))
  | failed (id className error tree) :
      Changes config.descriptorDirectory noFile state.tree tree →
      Performed config puts state (.write id className) (.error error)
        ((state.proceed tree).refuse id error)
  | placed (writing tree) :
      writing.label = config.label → writing.moment = state.clock.now →
      Charset.ofName config.encoding = .ok writing.charset → puts state.tree writing tree →
      Performed config puts state (.write writing.id writing.className) (.ok ())
        { state.proceed tree with writings := state.writings ++ [writing] }

/-- What can come of steps that are performed in order, up to the first that fails. -/
inductive Executed (config : Config) (puts : FileTree → Writing → FileTree → Prop) :
    List Step → State → Except DescriptorError Unit → State → Prop where
  | nothing (state : State) : Executed config puts [] state (.ok ()) state
  | failed (step : Step) (rest : List Step) (state last : State) (error : DescriptorError) :
      Performed config puts state step (.error error) last →
      Executed config puts (step :: rest) state (.error error) last
  | next (step : Step) (rest : List Step) (state middle last : State)
      (outcome : Except DescriptorError Unit) :
      Performed config puts state step (.ok ()) middle →
      Executed config puts rest middle outcome last →
      Executed config puts (step :: rest) state outcome last

/-- A descriptor is written at once. -/
def AtOnce (config : Config) (before : FileTree) (writing : Writing) (after : FileTree) : Prop :=
  ∃ target, Descriptor.write before config.descriptorDirectory writing.id writing.bytes =
    (.ok target, after)

/-- A descriptor is put in place. -/
def InPlace (config : Config) (before : FileTree) (writing : Writing) (after : FileTree) : Prop :=
  PutInPlace config.descriptorDirectory writing.id writing.bytes before after

variable {config : Config} {state after : State} {puts : FileTree → Writing → FileTree → Prop}
  {step : Step} {steps : List Step} {outcome : Except DescriptorError Unit}
  {error : DescriptorError} {directory : Path} {before tree made : FileTree} {writing : Writing}

/-- What is written at once is put in place. -/
theorem AtOnce.in_place (h : AtOnce config before writing made) :
    InPlace config before writing made := by
  obtain ⟨target, hwrite⟩ := h
  exact (Descriptor.write_ok hwrite).2

/-- What is known of how a descriptor is put in place may be less. -/
theorem Performed.mono {other : FileTree → Writing → FileTree → Prop}
    (hmono : ∀ {before writing made}, puts before writing made → other before writing made)
    (h : Performed config puts state step outcome after) :
    Performed config other state step outcome after := by
  cases h with
  | reported message position => exact .reported message position
  | uncharted id className cause hcharset => exact .uncharted id className cause hcharset
  | failed id className error tree hchanges => exact .failed id className error tree hchanges
  | placed writing tree hlabel hmoment hcharset hputs =>
      exact .placed writing tree hlabel hmoment hcharset (hmono hputs)

/-- What is known of how descriptors are put in place may be less. -/
theorem Executed.mono {other : FileTree → Writing → FileTree → Prop}
    (hmono : ∀ {before writing made}, puts before writing made → other before writing made)
    (h : Executed config puts steps state outcome after) :
    Executed config other steps state outcome after := by
  induction h with
  | nothing state => exact .nothing state
  | failed _ _ _ _ _ hstep => exact .failed _ _ _ _ _ (hstep.mono hmono)
  | next _ _ _ _ _ _ hstep _ ih => exact .next _ _ _ _ _ _ (hstep.mono hmono) ih

/-- If all steps succeed, every report has been made and every descriptor put in place, in order. -/
theorem Executed.ok (h : Executed config puts steps state (.ok ()) after) :
    after.diagnostics.entries = state.diagnostics.entries ++ reports steps ∧
      ∃ recorded, after.writings = state.writings ++ recorded ∧
        recorded.map (fun writing => (writing.id, writing.className)) = writes steps := by
  generalize houtcome : (.ok () : Except DescriptorError Unit) = outcome at h
  induction h with
  | nothing _ => exact ⟨by simp [reports], [], by simp, rfl⟩
  | failed _ _ _ _ _ _ => cases houtcome
  | next _ _ _ _ _ _ hstep _ ih =>
      obtain ⟨hdiagnostics, recorded, hwritings, hwrites⟩ := ih houtcome
      cases hstep with
      | reported message position =>
          refine ⟨?_, recorded, hwritings, hwrites⟩
          rw [hdiagnostics]
          simp [Diagnostics.addError, reports]
      | placed writing tree _ _ _ _ =>
          refine ⟨hdiagnostics, writing :: recorded, by rw [hwritings]; simp, ?_⟩
          rw [List.map_cons, hwrites]
          rfl

/-- A step that fails is a write, puts no descriptor in place, and is reported. -/
theorem Performed.refused (h : Performed config puts state step (.error error) after) :
    ∃ id className, step = .write id className ∧ after.writings = state.writings ∧
      after.diagnostics.entries = state.diagnostics.entries ++
        [⟨.fatal, s!"failed to write the plugin descriptor for '{id.text}': {error.message}",
          none⟩] := by
  cases h with
  | uncharted id className cause _ =>
      exact ⟨id, className, rfl, rfl, refuse_entries state id _⟩
  | failed id className error tree _ =>
      exact ⟨id, className, rfl, rfl, refuse_entries (state.proceed tree) id error⟩

/-- If a step fails, it is a write, all steps before it have succeeded, and it is the last one that
is performed. -/
theorem Executed.refused (h : Executed config puts steps state (.error error) after) :
    ∃ done id className rest ready, steps = done ++ .write id className :: rest ∧
      Executed config puts done state (.ok ()) ready ∧
      Performed config puts ready (.write id className) (.error error) after := by
  generalize houtcome : (.error error : Except DescriptorError Unit) = outcome at h
  induction h with
  | nothing _ => cases houtcome
  | failed step rest state last cause hstep =>
      cases houtcome
      obtain ⟨id, className, rfl, _⟩ := hstep.refused
      exact ⟨[], id, className, rest, state, rfl, .nothing state, hstep⟩
  | next step _ _ _ _ _ hstep _ ih =>
      obtain ⟨done, id, className, left, ready, rfl, hdone, hlast⟩ := ih houtcome
      exact ⟨step :: done, id, className, left, ready, rfl, .next _ _ _ _ _ _ hstep hdone, hlast⟩

/-- Every step that puts a descriptor in place takes the next write of the plan and the next reading
of the clock. -/
theorem Executed.writings (h : Executed config puts steps state outcome after) :
    ∃ recorded, after.writings = state.writings ++ recorded ∧
      ∀ (place : Nat) (writing : Writing), recorded[place]? = some writing →
        (writes steps)[place]? = some (writing.id, writing.className) ∧
        writing.label = config.label ∧ writing.moment = state.clock.reading place ∧
        Charset.ofName config.encoding = .ok writing.charset := by
  induction h with
  | nothing state => exact ⟨[], (List.append_nil _).symm, by simp⟩
  | failed _ _ _ _ _ hstep =>
      obtain ⟨_, _, _, hwritings, _⟩ := hstep.refused
      exact ⟨[], by rw [hwritings, List.append_nil], by simp⟩
  | next _ _ _ _ _ _ hstep _ ih =>
      obtain ⟨recorded, hwritings, hrecorded⟩ := ih
      cases hstep with
      | reported message position => exact ⟨recorded, hwritings, hrecorded⟩
      | placed writing tree hlabel hmoment hcharset _ =>
          refine ⟨writing :: recorded, by rw [hwritings]; simp, ?_⟩
          intro place later hlater
          cases place with
          | zero =>
              obtain rfl : writing = later := Option.some.inj hlater
              exact ⟨rfl, hlabel, hmoment, hcharset⟩
          | succ place =>
              -- One write and one reading have been used up.
              exact hrecorded place later hlater

/-- Steps record the descriptors they put in place, also where they are cut short. What holds from
tree to tree of a descriptor that is put in place and of directories without any, and can be put
together, holds of all the steps with all their descriptors. -/
theorem Executed.recorded {holds : FileTree → FileTree → List Writing → Prop}
    (hnothing : ∀ {before after}, Changes config.descriptorDirectory noFile before after →
      holds before after [])
    (hwritten : ∀ {before writing after}, puts before writing after → holds before after [writing])
    (happend : ∀ {before tree after first second}, holds before tree first →
      holds tree after second → holds before after (first ++ second))
    (h : Executed config puts steps state outcome after) :
    ∃ recorded, after.writings = state.writings ++ recorded ∧
      holds state.tree after.tree recorded := by
  induction h with
  | nothing _ => exact ⟨[], (List.append_nil _).symm, hnothing .refl⟩
  | failed _ _ _ _ _ hstep =>
      cases hstep with
      | uncharted _ _ _ _ => exact ⟨[], (List.append_nil _).symm, hnothing .refl⟩
      | failed _ _ _ _ hchanges => exact ⟨[], (List.append_nil _).symm, hnothing hchanges⟩
  | next _ _ _ _ _ _ hstep _ ih =>
      obtain ⟨recorded, hwritings, hrecorded⟩ := ih
      cases hstep with
      | reported _ _ => exact ⟨recorded, hwritings, hrecorded⟩
      | placed writing tree _ _ _ hputs =>
          refine ⟨writing :: recorded, ?_, happend (hwritten hputs) hrecorded⟩
          rw [hwritings, List.append_assoc, List.singleton_append]

/-! ## What is added -/

/-- `Adds directory before after writings` says that on the way from one file tree to another
nothing is put in place but these descriptors. -/
def Adds (directory : Path) (before after : FileTree) (writings : List Writing) : Prop :=
  Changes directory
    (fun id bytes => ∃ writing ∈ writings, writing.id = id ∧ writing.bytes = bytes) before after

/-- Where no file is put in place, nothing is added. -/
theorem adds_of_no_file (h : Changes directory noFile before made) :
    Adds directory before made [] :=
  h.mono fun _ _ hallowed => hallowed.elim

/-- A descriptor that is put in place is added. -/
theorem adds_of_in_place
    (h : PutInPlace directory writing.id writing.bytes before made) :
    Adds directory before made [writing] :=
  h.changes.mono fun _ _ hallowed => ⟨writing, .head _, hallowed.1.symm, hallowed.2.symm⟩

/-- What is added on one way after the other is added on both together. -/
theorem Adds.append {first second : List Writing} (hfirst : Adds directory before tree first)
    (hsecond : Adds directory tree made second) :
    Adds directory before made (first ++ second) := by
  refine (Changes.mono hfirst ?_).trans (Changes.mono hsecond ?_)
  · rintro id bytes ⟨writing, hwriting, hsame⟩
    exact ⟨writing, List.mem_append_left _ hwriting, hsame⟩
  · rintro id bytes ⟨writing, hwriting, hsame⟩
    exact ⟨writing, List.mem_append_right _ hwriting, hsame⟩

/-- Steps put nothing in place but the descriptors that they record. -/
theorem Executed.adds (h : Executed config (InPlace config) steps state outcome after) :
    ∃ recorded, after.writings = state.writings ++ recorded ∧
      Adds config.descriptorDirectory state.tree after.tree recorded :=
  h.recorded adds_of_no_file adds_of_in_place Adds.append

/-! ## Writes at once -/

/-- What comes of a step whose write is made at once. -/
theorem perform_performed (config : Config) (state : State) (step : Step) :
    Performed config (AtOnce config) state step (perform config state step).1
      (perform config state step).2 := by
  cases step with
  | report message position => exact .reported message position
  | write id className =>
      cases hstep : perform config state (.write id className) with
      | mk outcome after =>
          cases outcome with
          | ok =>
              obtain ⟨writing, tree, rfl, rfl, hlabel, hmoment, hcharset, hwrite, rfl⟩ :=
                perform_write_ok hstep
              exact .placed writing tree hlabel hmoment hcharset ⟨_, hwrite⟩
          | error error =>
              rcases perform_write_error hstep with
                ⟨cause, hcharset, rfl, rfl⟩ | ⟨_, tree, hwrite, rfl⟩
              · exact .uncharted id className cause hcharset
              · exact .failed id className error tree (Descriptor.write_error hwrite)

/-- A write that fails puts no descriptor in place, and reports its failure and nothing else. -/
theorem perform_refused {id : PluginId} {className : String} {error : DescriptorError}
    (h : perform config state (.write id className) = (.error error, after)) :
    after.writings = state.writings ∧
      after.diagnostics.entries = state.diagnostics.entries ++
        [⟨.fatal, s!"failed to write the plugin descriptor for '{id.text}': {error.message}",
          none⟩] := by
  have hperformed := perform_performed config state (.write id className)
  rw [h] at hperformed
  obtain ⟨_, _, hstep, hrest⟩ := hperformed.refused
  obtain ⟨rfl, rfl⟩ := Step.write.inj hstep
  exact hrest

/-- What comes of steps whose writes are made at once. -/
theorem execute_executed (config : Config) (steps : List Step) (state : State) :
    Executed config (AtOnce config) steps state (execute config steps state).1
      (execute config steps state).2 := by
  induction steps generalizing state with
  | nil => exact .nothing state
  | cons step rest ih =>
      have hperformed := perform_performed config state step
      rw [execute]
      cases hstep : perform config state step with
      | mk outcome next =>
          rw [hstep] at hperformed
          cases outcome with
          | ok => exact .next _ _ _ _ _ _ hperformed (ih next)
          | error error => exact .failed _ _ _ _ _ hperformed

/-- Steps whose writes are made at once put descriptors in place. -/
theorem execute_in_place (config : Config) (steps : List Step) (state : State) :
    Executed config (InPlace config) steps state (execute config steps state).1
      (execute config steps state).2 :=
  (execute_executed config steps state).mono AtOnce.in_place

/-- If all steps succeed, every report has been made and every descriptor put in place, in order. -/
theorem execute_ok {steps : List Step} (h : execute config steps state = (.ok (), after)) :
    after.diagnostics.entries = state.diagnostics.entries ++ reports steps ∧
      ∃ recorded, after.writings = state.writings ++ recorded ∧
        recorded.map (fun writing => (writing.id, writing.className)) = writes steps := by
  have hexecuted := execute_executed config steps state
  rw [h] at hexecuted
  exact hexecuted.ok

/-- Steps that have put a descriptor in place have led to a state in which it was the next one, and
on to the state after it. -/
theorem exists_ready {steps : List Step} {earlier later : List Writing} {current : Writing}
    (h : (execute config steps state).2.writings =
      state.writings ++ (earlier ++ current :: later)) :
    ∃ before after ready next, steps = before ++ .write current.id current.className :: after ∧
      execute config before state = (.ok (), ready) ∧
      ready.writings = state.writings ++ earlier ∧
      perform config ready (.write current.id current.className) = (.ok (), next) ∧
      next.writings = ready.writings ++ [current] := by
  induction steps generalizing state earlier with
  | nil =>
      have hnothing : earlier ++ current :: later = [] := List.self_eq_append_right.mp h
      simp at hnothing
  | cons step rest ih =>
      rcases execute_cons_cases config step rest state with
        ⟨next, hstep, hrun⟩ | ⟨error, last, hstep, hfailed⟩
      · rw [hrun] at h
        cases step with
        | report message position =>
            rw [perform_report] at hstep
            cases hstep
            obtain ⟨before, after, ready, next, rfl, hbefore, hrest⟩ := ih h
            exact ⟨.report message position :: before, after, ready, next, rfl, hbefore, hrest⟩
        | write id className =>
            obtain ⟨writing, made, rfl, rfl, _, _, _, _, hnext⟩ := perform_write_ok hstep
            have hwritings : next.writings = state.writings ++ [writing] := by rw [hnext]
            obtain ⟨recorded, hrecorded, _⟩ := (execute_executed config rest next).writings
            rw [hrecorded, hwritings, List.append_assoc, List.append_cancel_left_eq] at h
            cases earlier with
            | nil =>
                obtain ⟨rfl, _⟩ := List.cons.inj h
                exact ⟨[], rest, state, next, rfl, rfl, (List.append_nil _).symm, hstep, hwritings⟩
            | cons earliest others =>
                obtain ⟨rfl, hothers⟩ := List.cons.inj h
                obtain rfl : recorded = others ++ current :: later := hothers
                obtain ⟨before, after, ready, last, rfl, hbefore, hready, hlast⟩ := ih hrecorded
                refine ⟨.write writing.id writing.className :: before, after, ready, last, rfl, ?_,
                  ?_, hlast⟩
                · rw [execute, hstep]
                  exact hbefore
                · rw [hready, hwritings, List.append_assoc, List.singleton_append]
      · rw [hfailed] at h
        obtain ⟨id, className, rfl⟩ := perform_error hstep
        rw [(perform_refused hstep).1] at h
        have hnothing : earlier ++ current :: later = [] := List.self_eq_append_right.mp h
        simp at hnothing

end PluginDescriptor.Plan
