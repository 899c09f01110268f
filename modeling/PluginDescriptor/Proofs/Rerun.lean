import PluginDescriptor.Proofs.Completion

/-!
# Going over the same declarations again

A pass that has been completed can be made again on what it has left, and as long as the clock
stands still nothing comes of it: every descriptor is written over, but the last one of each id is
the one that is there already. The main statement is `rerun_idempotent`.
-/

namespace PluginDescriptor.Plan

open FileTree

variable {config : Config} {declarations : List Declaration} {session again : Session}

/-- Where all steps have succeeded they succeed again, and make no difference to the directories. -/
theorem execute_again {steps : List Step} {state after : State}
    (h : (execute config steps state).1 = .ok ())
    (htree : after.tree = (execute config steps state).2.tree) :
    (execute config steps after).1 = .ok () ∧
      SameDirectories after.tree (execute config steps after).2.tree := by
  by_cases hwrites : writes steps = []
  · obtain ⟨hok, hsilent⟩ := execute_of_no_writes config hwrites after
    have hsame := congrArg State.tree hsilent
    exact ⟨hok, hsame ▸ SameDirectories.refl after.tree⟩
  · obtain ⟨ready, hcreated, hdirectories⟩ := directories_of_execute_ok h hwrites
    rw [← htree] at hdirectories
    have hprepared := hdirectories.prepared (prepared_of_created hcreated)
    obtain ⟨hok, hsame⟩ := execute_of_prepared hprepared steps
    refine ⟨hok.mpr ?_, hsame⟩
    rcases (execute_ok_iff config steps state).mp h with hnone | ⟨found, hfound, hwritable⟩
    · exact absurd hnone hwrites
    · -- The second time the same directories are there as after the first write.
      rw [hcreated] at hfound
      cases hfound
      intro write hwrite
      obtain ⟨hcharset, hadmits⟩ := hwritable write hwrite
      exact ⟨hcharset, hdirectories.admits_iff.mpr hadmits⟩

/-- A pass that is completed under a clock that stands still can be made again on the file tree that
it has left. It comes to the same report, reports the same as it did the first time, and leaves the
file tree as it is. -/
theorem rerun_idempotent (config : Config) (declarations : List Declaration) (session : Session)
    (moment : Moment) {report : Pass.Report}
    (h : (Pass.run config declarations { session with clock := .constant moment }).1 =
      .ok report) :
    let left := (Pass.run config declarations { session with clock := .constant moment }).2
    let again := Pass.run config declarations { tree := left.tree, clock := .constant moment }
    again.1 = .ok report ∧ again.2.tree = left.tree ∧
      left.diagnostics.entries = session.diagnostics.entries ++ again.2.diagnostics.entries := by
  intro left again
  obtain ⟨hfirst, rfl⟩ := run_ok_iff.mp h
  let start : Session := { session with clock := .constant moment }
  let fresh : Session := { tree := left.tree, clock := .constant moment }
  have htree : (ofSession fresh []).tree =
      (execute config (ofUnit declarations) (ofSession start [])).2.tree :=
    run_tree config declarations start
  obtain ⟨hsecond, hdirectories⟩ := execute_again hfirst htree
  refine ⟨run_ok_iff.mpr ⟨hsecond, rfl⟩, ?_, ?_⟩
  · have hagain : again.2.tree =
        (execute config (ofUnit declarations) (ofSession fresh [])).2.tree :=
      run_tree config declarations fresh
    by_cases hwrites : writes (ofUnit declarations) = []
    · rw [hagain]
      exact congrArg State.tree (execute_of_no_writes config hwrites (ofSession fresh [])).2
    obtain ⟨⟨charset, hcharset⟩, _⟩ := created_of_execute_ok hfirst hwrites
    have hleft := leaves_of_run config declarations start
    have hleftAgain := leaves_of_run config declarations fresh
    rw [placed_of_constant rfl hcharset hfirst] at hleft
    rw [placed_of_constant rfl hcharset hsecond] at hleftAgain
    -- After both passes each id has been written twice over, with the same latest descriptor.
    refine (eq_of_leaves hleft (hleft.append hleftAgain) (hagain ▸ hdirectories) ?_).symm
    intro id
    rw [latestBytes?, latestBytes?, latest_append, Option.or_self]
  · rw [entries_of_completed hfirst, entries_of_completed hsecond]
    rfl

/-- Two classes share the id `a.b`, and a third one is not public. The pass over them is made again
and writes both descriptors once more, to the same end. -/
theorem rerun_idempotent_of_shared_id :
    let config : Config := { outputRoot := ⟨"out"⟩ }
    let marker : Marker := { value := some "a.b", position := ⟨3, 1⟩ }
    let first : Declaration := {
      name := "first.Plugin"
      visibility := .isPublic
      implements := [Declaration.pluginInterface]
      markers := [marker] }
    let second : Declaration := { first with name := "second.Plugin" }
    let hidden : Declaration := { first with visibility := .package }
    let declarations := [first, second, hidden]
    let start : Session := { tree := .empty, clock := .constant ⟨0, 0, 0⟩ }
    let report := completeReport config declarations
    let left := (Pass.run config declarations start).2
    let again := Pass.run config declarations { tree := left.tree, clock := .constant ⟨0, 0, 0⟩ }
    (Pass.run config declarations start).1 = .ok report ∧
      report.written.map WrittenDescriptor.className = ["first.Plugin", "second.Plugin"] ∧
      left.diagnostics.entries.length = 1 ∧ again.1 = .ok report ∧ again.2.tree = left.tree ∧
      again.2.diagnostics.entries = left.diagnostics.entries := by
  intro config marker first second hidden declarations start report left again
  have hrun : (Pass.run config declarations start).1 = .ok report :=
    run_ok_of_isSome (by decide +kernel)
  obtain ⟨hreport, htree, hentries⟩ :=
    rerun_idempotent config declarations start ⟨0, 0, 0⟩ hrun
  exact ⟨hrun, by decide +kernel, by decide +kernel, hreport, htree, hentries.symm⟩

end PluginDescriptor.Plan
