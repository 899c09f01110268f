import PluginDescriptor.Proofs.Plan

/-!
# Who gets a descriptor

What the steps of a plan say about the declarations it is for, in terms of how these are declared.
`mem_writes_iff` says which descriptors are asked for, `reports_eq_nil_iff` when there is nothing to
complain about, and `length_writes` how many descriptors there are in that case.
-/

namespace PluginDescriptor

/-- An annotation names an id if its value, without surrounding control characters, is the id. -/
def Marker.Names (marker : Marker) (id : PluginId) : Prop :=
  ∃ value, marker.value = some value ∧ Text.trimControl value = id.text

/-- What a declaration has to be for its annotations to count. -/
structure Declaration.Eligible (declaration : Declaration) : Prop where
  isPublic : declaration.visibility = .isPublic
  isConcrete : declaration.isAbstract = false ∧ declaration.kind = .isClass
  isPlugin : Declaration.pluginInterface ∈ declaration.implements

/-- What entitles a declaration to the descriptor of an id. -/
structure Declaration.Licenses (declaration : Declaration) (id : PluginId) : Prop where
  topLevel : declaration.enclosing = none
  eligible : declaration.Eligible
  marked : ∃ marker ∈ declaration.markers, marker.Names id

/-- Nothing about a declaration gives cause for a report. -/
structure Declaration.Faultless (declaration : Declaration) : Prop where
  eligible : declaration.Eligible
  marked : ∀ marker ∈ declaration.markers, ∃ id, marker.Names id

namespace Plan

variable {declaration : Declaration} {declarations : List Declaration} {marker : Marker}
  {id : PluginId} {className : String} {steps : List Step}

/-! ## Steps one after the other -/

/-- Writes are asked for piece by piece. -/
theorem writes_append (first second : List Step) :
    writes (first ++ second) = writes first ++ writes second := by
  simp [writes, List.filterMap_append]

/-- Reports are asked for piece by piece. -/
theorem reports_append (first second : List Step) :
    reports (first ++ second) = reports first ++ reports second := by
  simp [reports, List.filterMap_append]

/-- A write is asked for by the step that is this write. -/
theorem mem_writes : (id, className) ∈ writes steps ↔ .write id className ∈ steps := by
  unfold writes
  rw [List.mem_filterMap]
  constructor
  · rintro ⟨step, hstep, hwrite⟩
    cases step with
    | report message position => cases hwrite
    | write other otherName =>
        cases hwrite
        exact hstep
  · intro hstep
    exact ⟨_, hstep, rfl⟩

/-- No report is asked for if and only if every step is a write. -/
theorem reports_eq_nil : reports steps = [] ↔ ∀ step ∈ steps, ∃ id className,
    step = .write id className := by
  unfold reports
  rw [List.filterMap_eq_nil_iff]
  refine forall₂_congr fun step _ => ?_
  cases step <;> simp

/-- Every step is a report or a write. -/
theorem length_reports_add_writes (steps : List Step) :
    (reports steps).length + (writes steps).length = steps.length := by
  induction steps with
  | nil => rfl
  | cons step rest ih =>
      cases step with
      | report message position =>
          show (reports rest).length + 1 + (writes rest).length = rest.length + 1
          omega
      | write id className =>
          show (reports rest).length + ((writes rest).length + 1) = rest.length + 1
          omega

/-! ## The steps of a declaration -/

/-- An annotation that names an id calls for its descriptor. -/
theorem of_marker_write_iff {other : String} :
    Step.ofMarker className marker = .write id other ↔ marker.Names id ∧ other = className := by
  obtain ⟨text, hvalid⟩ := id
  unfold Step.ofMarker Marker.Names
  cases marker.value with
  | none => simp
  | some value =>
      dsimp only
      by_cases hvalue : PluginId.isValid (Text.trimControl value) = true
      · rw [dif_pos hvalue]
        simp only [Step.write.injEq, PluginId.mk.injEq, Option.some.injEq, exists_eq_left']
        exact and_congr_right fun _ => eq_comm
      · rw [dif_neg hvalue]
        simp only [reduceCtorEq, Option.some.injEq, exists_eq_left', false_iff, not_and]
        rintro rfl
        exact absurd hvalid hvalue

/-- There is nothing to complain about if and only if the declaration is eligible. -/
theorem complaints_eq_nil_iff {position : Position} :
    complaints declaration position = [] ↔ declaration.Eligible := by
  unfold complaints
  rw [List.append_eq_nil_iff, List.append_eq_nil_iff]
  constructor
  · rintro ⟨⟨hpublic, hconcrete⟩, hplugin⟩
    refine ⟨?_, ?_, ?_⟩
    · by_cases h : declaration.visibility = .isPublic
      · exact h
      · simp [h] at hpublic
    · by_cases h : declaration.isAbstract = false ∧ declaration.kind = .isClass
      · exact h
      · simp [h] at hconcrete
    · by_cases h : Declaration.pluginInterface ∈ declaration.implements
      · exact h
      · simp [h] at hplugin
  · rintro ⟨hpublic, hconcrete, hplugin⟩
    simp [hpublic, hconcrete, hplugin]

/-- Every complaint is a report. -/
theorem report_of_mem_complaints {position : Position} {step : Step}
    (h : step ∈ complaints declaration position) : ∃ message, step = .report message position := by
  rw [complaints_eq, List.mem_map] at h
  obtain ⟨rule, _, rfl⟩ := h
  exact ⟨rule.message, rfl⟩

/-- Every annotation of an eligible declaration calls for one step. -/
theorem of_declaration_eligible (h : declaration.Eligible) :
    ofDeclaration declaration = declaration.markers.map (Step.ofMarker declaration.name) := by
  unfold ofDeclaration
  cases hmarkers : declaration.markers with
  | nil => rfl
  | cons first rest => exact if_pos (complaints_eq_nil_iff.mpr h)

/-- For a declaration that is not eligible there are complaints instead. -/
theorem of_declaration_ineligible (h : ¬ declaration.Eligible)
    (hmarkers : declaration.markers ≠ []) :
    ∃ position, ofDeclaration declaration = complaints declaration position ∧
      complaints declaration position ≠ [] := by
  obtain ⟨first, rest, hfirst⟩ := List.exists_cons_of_ne_nil hmarkers
  have hcomplaints : complaints declaration first.position ≠ [] := by
    intro hnone
    exact h (complaints_eq_nil_iff.mp hnone)
  refine ⟨first.position, ?_, hcomplaints⟩
  simp only [ofDeclaration, hfirst, if_neg hcomplaints]

/-- A declaration is given the descriptors that its annotations name, if it is eligible. -/
theorem write_mem_of_declaration_iff :
    .write id className ∈ ofDeclaration declaration ↔
      declaration.Eligible ∧ (∃ marker ∈ declaration.markers, marker.Names id) ∧
        declaration.name = className := by
  by_cases heligible : declaration.Eligible
  · rw [of_declaration_eligible heligible, List.mem_map]
    simp only [of_marker_write_iff, heligible, true_and]
    constructor
    · rintro ⟨marker, hmarker, hnames, hclass⟩
      exact ⟨⟨marker, hmarker, hnames⟩, hclass.symm⟩
    · rintro ⟨⟨marker, hmarker, hnames⟩, hclass⟩
      exact ⟨marker, hmarker, hnames, hclass.symm⟩
  · simp only [heligible, false_and, iff_false]
    -- All steps for a declaration that is not eligible are reports.
    intro hwrite
    by_cases hmarkers : declaration.markers = []
    · simp [ofDeclaration, hmarkers] at hwrite
    obtain ⟨position, hsteps, _⟩ := of_declaration_ineligible heligible hmarkers
    rw [hsteps] at hwrite
    obtain ⟨message, hreport⟩ := report_of_mem_complaints hwrite
    cases hreport

/-- For an annotated declaration there is nothing to report if and only if it is faultless. -/
theorem reports_of_declaration_iff (hmarkers : declaration.markers ≠ []) :
    reports (ofDeclaration declaration) = [] ↔ declaration.Faultless := by
  by_cases heligible : declaration.Eligible
  · rw [reports_eq_nil, of_declaration_eligible heligible, List.forall_mem_map]
    constructor
    · intro h
      refine ⟨heligible, ?_⟩
      intro marker hmarker
      obtain ⟨id, className, hwrite⟩ := h marker hmarker
      exact ⟨id, (of_marker_write_iff.mp hwrite).1⟩
    · intro h marker hmarker
      obtain ⟨id, hnames⟩ := h.marked marker hmarker
      exact ⟨id, declaration.name, of_marker_write_iff.mpr ⟨hnames, rfl⟩⟩
  · obtain ⟨position, hsteps, hcomplaints⟩ := of_declaration_ineligible heligible hmarkers
    rw [reports_eq_nil, hsteps]
    constructor
    · intro h
      obtain ⟨step, rest, hstep⟩ := List.exists_cons_of_ne_nil hcomplaints
      have hmem : step ∈ complaints declaration position := hstep ▸ List.mem_cons_self
      obtain ⟨message, rfl⟩ := report_of_mem_complaints hmem
      obtain ⟨id, className, hwrite⟩ := h _ hmem
      cases hwrite
    · intro h
      exact absurd h.eligible heligible

/-! ## The steps of a compilation unit -/

/-- What is not nested is planned for, in order. -/
theorem of_unit_eq (declarations : List Declaration) :
    ofUnit declarations =
      (declarations.filter (·.enclosing = none)).flatMap ofDeclaration := by
  induction declarations with
  | nil => rfl
  | cons declaration rest ih =>
      unfold ofUnit at ih ⊢
      rw [List.filter_cons, List.filter_cons]
      by_cases htop : declaration.enclosing = none
      · rw [if_pos (decide_eq_true htop), List.flatMap_cons, ← ih]
        by_cases hmarkers : declaration.markers = []
        · -- Without annotations it is no candidate, but there would be no steps for it either.
          have hskipped : declaration.isCandidate = false := by
            simp [Declaration.isCandidate, hmarkers]
          have hnothing : ofDeclaration declaration = [] := by simp [ofDeclaration, hmarkers]
          rw [hskipped, hnothing]
          rfl
        · have hcandidate : declaration.isCandidate = true := by
            simp [Declaration.isCandidate, Declaration.isNested, htop, hmarkers]
          rw [if_pos hcandidate, List.flatMap_cons]
      · have hskipped : declaration.isCandidate = false := by
          simp [Declaration.isCandidate, Declaration.isNested, htop]
        simp only [hskipped, htop, decide_false, Bool.false_eq_true, if_false]
        exact ih

/-- A descriptor is asked for if and only if a declaration is entitled to it. -/
theorem mem_writes_iff :
    (id, className) ∈ writes (ofUnit declarations) ↔
      ∃ declaration ∈ declarations, declaration.Licenses id ∧ declaration.name = className := by
  rw [mem_writes, of_unit_eq, List.mem_flatMap]
  simp only [List.mem_filter, decide_eq_true_eq, write_mem_of_declaration_iff]
  constructor
  · rintro ⟨declaration, ⟨hmem, htop⟩, heligible, hmarked, hclass⟩
    exact ⟨declaration, hmem, ⟨htop, heligible, hmarked⟩, hclass⟩
  · rintro ⟨declaration, hmem, ⟨htop, heligible, hmarked⟩, hclass⟩
    exact ⟨declaration, ⟨hmem, htop⟩, heligible, hmarked, hclass⟩

/-- There is nothing to report about a compilation unit if and only if everything in it that is
annotated and not nested is faultless. -/
theorem reports_eq_nil_iff :
    reports (ofUnit declarations) = [] ↔
      ∀ declaration ∈ declarations, declaration.enclosing = none → declaration.markers ≠ [] →
        declaration.Faultless := by
  rw [of_unit_eq]
  induction declarations with
  | nil => simp [reports]
  | cons declaration rest ih =>
      rw [List.forall_mem_cons]
      by_cases htop : declaration.enclosing = none
      · rw [List.filter_cons_of_pos (by simpa using htop), List.flatMap_cons, reports_append,
          List.append_eq_nil_iff, ih]
        refine and_congr_left fun _ => ?_
        by_cases hmarkers : declaration.markers = []
        · simp [ofDeclaration, hmarkers, reports]
        · simp [reports_of_declaration_iff hmarkers, htop, hmarkers]
      · rw [List.filter_cons_of_neg (by simpa using htop), ih]
        simp [htop]

/-- If there is nothing to report, there is a descriptor for each annotation of what is not
nested. -/
theorem length_writes (h : reports (ofUnit declarations) = []) :
    (writes (ofUnit declarations)).length =
      ((declarations.filter (·.enclosing = none)).flatMap (·.markers)).length := by
  have hsteps := length_reports_add_writes (ofUnit declarations)
  rw [h, List.length_nil, Nat.zero_add] at hsteps
  rw [hsteps, of_unit_eq, List.length_flatMap, List.length_flatMap]
  congr 1
  apply List.map_congr_left
  intro declaration hdeclaration
  rw [List.mem_filter, decide_eq_true_eq] at hdeclaration
  obtain ⟨hmem, htop⟩ := hdeclaration
  by_cases hmarkers : declaration.markers = []
  · simp [ofDeclaration, hmarkers]
  · have hfaultless := reports_eq_nil_iff.mp h declaration hmem htop hmarkers
    rw [of_declaration_eligible hfaultless.eligible, List.length_map]

end Plan

end PluginDescriptor
