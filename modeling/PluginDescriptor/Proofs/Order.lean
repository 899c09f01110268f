import Mathlib.Data.List.FinRange
import PluginDescriptor.Proofs.Completion

/-!
# The order of declarations

Two declarations are rivals if both are entitled to the descriptor of the same id. Only between
rivals does it matter which comes first: as long as rivals keep their order, and the clock stands
still, passes over the same declarations in another order are completed alike and leave the same
file tree. What carries this is that every id is written for the same classes in the same order,
`writes_of_rearranged`. The main statement is `rearranged_alike`.
-/

namespace PluginDescriptor

/-- Both declarations are entitled to the descriptor of the same id. -/
def Declaration.Rivals (declaration other : Declaration) : Prop :=
  ∃ id, declaration.Licenses id ∧ other.Licenses id

namespace Plan

open FileTree

/-- `Rearranged first second` says that `second` lists the declarations of `first` in an order in
which rivals come as they did. The order gives for each declaration the place it had, and it has
every place once. -/
def Rearranged (first second : List Declaration) : Prop :=
  ∃ order : List (Fin first.length), order.Perm (List.finRange first.length) ∧
    second = order.map first.get ∧
    order.Pairwise fun i j => (first.get i).Rivals (first.get j) → i < j

variable {config : Config} {first second : List Declaration} {id : PluginId}

/-! ## What is planned in another order -/

/-- The writes that a declaration calls for, for one id. -/
def writesOf (id : PluginId) (declaration : Declaration) : List (PluginId × String) :=
  (writes (ofUnit [declaration])).filter (·.1 = id)

/-- A declaration that calls for a write is entitled to it. -/
theorem licenses_of_writes {declaration : Declaration} (h : writesOf id declaration ≠ []) :
    declaration.Licenses id := by
  obtain ⟨⟨other, className⟩, hwrite⟩ := List.exists_mem_of_ne_nil _ h
  rw [writesOf, List.mem_filter, decide_eq_true_eq] at hwrite
  obtain ⟨hmember, rfl⟩ := hwrite
  obtain ⟨source, hsource, hlicenses, _⟩ := mem_writes_iff.mp hmember
  rw [List.mem_singleton] at hsource
  exact hsource ▸ hlicenses

/-- What is planned for declarations is planned for one after the other. -/
theorem of_unit_flatMap (declarations : List Declaration) :
    ofUnit declarations = declarations.flatMap fun declaration => ofUnit [declaration] := by
  induction declarations with
  | nil => rfl
  | cons declaration rest ih =>
      rw [List.flatMap_cons, ← ih, ← of_unit_append, List.singleton_append]

/-- The writes for one id are those of one declaration after the other. -/
theorem filter_writes (id : PluginId) (declarations : List Declaration) :
    (writes (ofUnit declarations)).filter (·.1 = id) = declarations.flatMap (writesOf id) := by
  rw [of_unit_flatMap, writes, List.filterMap_flatMap, List.filter_flatMap]
  rfl

/-- Every declaration is that of its place. -/
theorem map_get_finRange (declarations : List Declaration) :
    (List.finRange declarations.length).map declarations.get = declarations := by
  rw [← List.ofFn_eq_map, List.ofFn_get]

/-- The declarations are the same. -/
theorem Rearranged.perm (h : Rearranged first second) : second.Perm first := by
  obtain ⟨order, hperm, rfl, _⟩ := h
  have hplaces := hperm.map first.get
  rwa [map_get_finRange] at hplaces

/-- The places of declarations that call for no write of an id can be left out. -/
theorem flatMap_writesOf_filter (id : PluginId) (declarations : List Declaration)
    (places : List (Fin declarations.length)) :
    (places.map declarations.get).flatMap (writesOf id) =
      ((places.filter fun place => writesOf id (declarations.get place) ≠ []).map
        declarations.get).flatMap (writesOf id) := by
  induction places with
  | nil => rfl
  | cons place rest ih =>
      rw [List.map_cons, List.flatMap_cons, ih]
      by_cases hplace : writesOf id (declarations.get place) = []
      · rw [List.filter_cons_of_neg (by simpa using hplace), hplace, List.nil_append]
      · rw [List.filter_cons_of_pos (by simpa using hplace), List.map_cons, List.flatMap_cons]

/-- Every id is written for the same classes in the same order. -/
theorem writes_of_rearranged (h : Rearranged first second) (id : PluginId) :
    (writes (ofUnit second)).filter (·.1 = id) = (writes (ofUnit first)).filter (·.1 = id) := by
  obtain ⟨order, hperm, rfl, hrivals⟩ := h
  let calls (place : Fin first.length) : Bool := writesOf id (first.get place) ≠ []
  -- Only the places of declarations that call for the id matter, and these come in order.
  have hsorted : (order.filter calls).Pairwise (· < ·) := by
    refine (hrivals.filter calls).imp_of_mem ?_
    intro i j hi hj hrival
    rw [List.mem_filter, decide_eq_true_eq] at hi hj
    exact hrival ⟨id, licenses_of_writes hi.2, licenses_of_writes hj.2⟩
  have hall : ((List.finRange first.length).filter calls).Pairwise (· < ·) :=
    (List.pairwise_lt_finRange first.length).filter calls
  have hsame : order.filter calls = (List.finRange first.length).filter calls :=
    (hperm.filter calls).eq_of_pairwise
      (fun _ _ _ _ hless hgreater => absurd hgreater hless.asymm) hsorted hall
  have hplaces : (order.map first.get).flatMap (writesOf id) =
      ((List.finRange first.length).map first.get).flatMap (writesOf id) := by
    rw [flatMap_writesOf_filter, flatMap_writesOf_filter id first (List.finRange _)]
    exact congrArg (fun places => (places.map first.get).flatMap (writesOf id)) hsame
  rw [filter_writes, filter_writes, hplaces, map_get_finRange]

/-- The steps that are planned are the same. -/
theorem Rearranged.steps (h : Rearranged first second) : (ofUnit second).Perm (ofUnit first) := by
  rw [of_unit_flatMap first, of_unit_flatMap second]
  exact h.perm.flatMap_right _

/-- The writes that are planned are the same. -/
theorem Rearranged.writes (h : Rearranged first second) :
    (writes (ofUnit second)).Perm (writes (ofUnit first)) :=
  h.steps.filterMap _

/-- No write is planned if none was. -/
theorem Rearranged.writes_eq_nil_iff (h : Rearranged first second) :
    Plan.writes (ofUnit second) = [] ↔ Plan.writes (ofUnit first) = [] := by
  rw [← List.length_eq_zero_iff, h.writes.length_eq, List.length_eq_zero_iff]

/-! ## Passes in another order -/

/-- All steps for rearranged declarations succeed if those for the declarations do, and they leave
the same directories. -/
theorem execute_of_rearranged (h : Rearranged first second) {state : State}
    (hok : (execute config (ofUnit first) state).1 = .ok ()) :
    (execute config (ofUnit second) state).1 = .ok () ∧
      SameDirectories (execute config (ofUnit first) state).2.tree
        (execute config (ofUnit second) state).2.tree := by
  by_cases hnone : Plan.writes (ofUnit first) = []
  · have hotherNone := h.writes_eq_nil_iff.mpr hnone
    obtain ⟨_, hsilent⟩ := execute_of_no_writes config hnone state
    obtain ⟨hotherOk, hotherSilent⟩ := execute_of_no_writes config hotherNone state
    have htree := congrArg State.tree (hotherSilent.trans hsilent.symm)
    exact ⟨hotherOk, htree ▸ SameDirectories.refl _⟩
  · have hotherSome := h.writes_eq_nil_iff.not.mpr hnone
    have hotherOk : (execute config (ofUnit second) state).1 = .ok () := by
      obtain hempty | ⟨ready, hcreated, hwritable⟩ := (execute_ok_iff config _ state).mp hok
      · exact absurd hempty hnone
      · refine (execute_ok_iff config _ state).mpr (Or.inr ⟨ready, hcreated, ?_⟩)
        intro write hwrite
        exact hwritable write (h.writes.mem_iff.mp hwrite)
    obtain ⟨ready, hcreated, hdirectories⟩ := directories_of_execute_ok hok hnone
    obtain ⟨_, hotherCreated, hotherDirectories⟩ := directories_of_execute_ok hotherOk hotherSome
    rw [hcreated] at hotherCreated
    cases hotherCreated
    exact ⟨hotherOk, hdirectories.symm.trans hotherDirectories⟩

/-- The latest of several writes at one moment is the last one of those for its id. -/
theorem latest_bytes_at (config : Config) (charset : Charset) (moment : Moment) (id : PluginId)
    (writes : List (PluginId × String)) :
    latestBytes? id (writes.map (Writing.at config charset moment)) =
      (writes.filter (·.1 = id)).getLast?.map fun write =>
        (Writing.at config charset moment write).bytes := by
  rw [latestBytes?, latest?, ← List.map_reverse, List.find?_map, List.getLast?_eq_head?_reverse,
    ← List.filter_reverse, List.head?_filter, Option.map_map]
  rfl

/-- If a pass over declarations is completed under a clock that stands still, so is one over the
same declarations in another order, as long as rivals keep theirs. Both leave the same file tree and
count the same candidates, and what one of them lists and reports, the other does in some order. -/
theorem rearranged_alike (config : Config) (session : Session) (moment : Moment)
    (h : Rearranged first second) {report : Pass.Report}
    (hrun : (Pass.run config first { session with clock := .constant moment }).1 = .ok report) :
    let start : Session := { session with clock := .constant moment }
    let left := Pass.run config first start
    let otherLeft := Pass.run config second start
    ∃ otherReport, otherLeft.1 = .ok otherReport ∧ otherLeft.2.tree = left.2.tree ∧
      otherReport.processed = report.processed ∧ otherReport.written.Perm report.written ∧
      ∃ added otherAdded, otherAdded.Perm added ∧
        left.2.diagnostics.entries = session.diagnostics.entries ++ added ∧
        otherLeft.2.diagnostics.entries = session.diagnostics.entries ++ otherAdded := by
  intro start left otherLeft
  obtain ⟨hok, rfl⟩ := run_ok_iff.mp hrun
  obtain ⟨hotherOk, hdirectories⟩ := execute_of_rearranged h hok
  refine ⟨completeReport config second, run_ok_iff.mpr ⟨hotherOk, rfl⟩, ?_, ?_, ?_, ?_⟩
  · by_cases hwrites : Plan.writes (ofUnit first) = []
    · have hotherWrites := h.writes_eq_nil_iff.mpr hwrites
      have hleft := congrArg State.tree (execute_of_no_writes config hwrites (ofSession start [])).2
      have hother :=
        congrArg State.tree (execute_of_no_writes config hotherWrites (ofSession start [])).2
      simp only [left, otherLeft, run_tree]
      exact hother.trans hleft.symm
    obtain ⟨⟨charset, hcharset⟩, _⟩ := created_of_execute_ok hok hwrites
    have hleft := leaves_of_run config first start
    have hother := leaves_of_run config second start
    rw [← run_tree, ← run_tree] at hdirectories
    rw [placed_of_constant rfl hcharset hok] at hleft
    rw [placed_of_constant rfl hcharset hotherOk] at hother
    refine (eq_of_leaves hleft hother hdirectories ?_).symm
    intro id
    rw [latest_bytes_at, latest_bytes_at, writes_of_rearranged h id]
  · exact (h.perm.filter _).length_eq
  · exact h.writes.map _
  · exact ⟨reports (ofUnit first), reports (ofUnit second), h.steps.filterMap _,
      entries_of_completed hok, entries_of_completed hotherOk⟩

/-- A class for `c.d` may go after either of two classes for `a.b`, whose order is kept. -/
theorem rearranged_alike_of_three_classes :
    let config : Config := { outputRoot := ⟨"out"⟩ }
    let session : Session := { tree := .empty, clock := .constant ⟨0, 0, 0⟩ }
    let classFor (name id : String) : Declaration := {
      name
      visibility := .isPublic
      implements := [Declaration.pluginInterface]
      markers := [{ value := some id }] }
    let first := [classFor "x.Plugin" "a.b", classFor "y.Plugin" "c.d", classFor "z.Plugin" "a.b"]
    let second := [classFor "y.Plugin" "c.d", classFor "x.Plugin" "a.b", classFor "z.Plugin" "a.b"]
    Rearranged first second ∧
      (Pass.run config first session).1 = .ok (completeReport config first) ∧
      (Pass.run config second session).2.tree = (Pass.run config first session).2.tree := by
  intro config session classFor first second
  have hstrangers : ∀ name other, ¬ (classFor name "c.d").Rivals (classFor other "a.b") := by
    intro name other hrivals
    obtain ⟨id, hlicenses, hotherLicenses⟩ := hrivals
    obtain ⟨marker, hmarker, value, hvalue, hid⟩ := hlicenses.marked
    obtain ⟨otherMarker, hotherMarker, otherValue, hotherValue, hotherId⟩ := hotherLicenses.marked
    cases List.mem_singleton.mp hmarker
    cases List.mem_singleton.mp hotherMarker
    cases hvalue
    cases hotherValue
    rw [← hotherId] at hid
    exact absurd hid (by decide)
  have hrearranged : Rearranged first second := by
    refine ⟨[1, 0, 2], by decide, rfl, ?_⟩
    simp only [List.pairwise_cons, List.forall_mem_cons]
    refine ⟨⟨fun h => absurd h (hstrangers _ _), fun _ => by decide, by simp⟩,
      ⟨fun _ => by decide, by simp⟩, by simp⟩
  have hrun : (Pass.run config first session).1 = .ok (completeReport config first) :=
    run_ok_of_isSome (by decide +kernel)
  obtain ⟨_, _, htree, _⟩ := rearranged_alike config session ⟨0, 0, 0⟩ hrearranged hrun
  exact ⟨hrearranged, hrun, htree⟩

end Plan

end PluginDescriptor
