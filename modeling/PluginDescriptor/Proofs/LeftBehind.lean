import PluginDescriptor.Proofs.LastWriter

/-!
# What descriptors leave behind

Wherever the path to the descriptors leads, also where it goes through `..`, the file of each id
that has been put in place holds its latest descriptor, and no other file is new or different.
`Leaves` says so of any stretch of writes, `Executed.leaves` of the steps of a plan, however their
writes are made, and `leaves_of_run` of a pass.
-/

namespace PluginDescriptor.Plan

open FileTree Descriptor

/-- The descriptors that were put in place, by their ids and classes. -/
def names (writings : List Writing) : List (PluginId × String) :=
  writings.map fun writing => (writing.id, writing.className)

/-- What the descriptors that were put in place leave behind. The latest one of an id is what its
file holds, and no other file is new or different. -/
structure Leaves (directory : Path) (before after : FileTree) (writings : List Writing) :
    Prop where
  keeps : Keeps before after
  latest (id : PluginId) (writing : Writing) : latest? id writings = some writing →
    ∃ location, after.location? (directory.join ⟨id.fileName⟩) = some location ∧
      after.entryAt? location = some (.file writing.bytes)
  rest (location : Location) :
    (∀ writing ∈ writings,
      after.location? (directory.join ⟨writing.id.fileName⟩) ≠ some location) →
    ∀ bytes, after.entryAt? location = some (.file bytes) ↔
      before.entryAt? location = some (.file bytes)

variable {config : Config} {state : State} {directory : Path} {before tree after : FileTree}
  {first second : List Writing} {writing : Writing}

/-- Where no file has been put in place, no file is new or different. -/
theorem leaves_of_no_file (h : Changes directory noFile before after) :
    Leaves directory before after [] := by
  refine ⟨h.keeps, ?_, ?_⟩
  · intro id writing hlatest
    cases hlatest
  · intro location _
    exact h.file_iff fun _ _ hallowed => hallowed.elim

/-- A descriptor that is put in place is left behind. -/
theorem leaves_of_in_place (h : PutInPlace directory writing.id writing.bytes before after) :
    Leaves directory before after [writing] := by
  refine ⟨h.changes.keeps, ?_, ?_⟩
  · intro id latest hlatest
    obtain ⟨rfl, earlier, later, hwritings, _⟩ := latest_eq_some_iff.mp hlatest
    obtain rfl : latest = writing := by
      have hmember : latest ∈ [writing] := by rw [hwritings]; simp
      exact List.mem_singleton.mp hmember
    exact Option.bind_eq_some_iff.mp h.entry
  · intro location hlocation
    apply h.changes.file_iff
    intro id bytes hallowed
    rw [hallowed.1]
    exact hlocation writing (.head _)

/-- The files of two ids are never at the same location. -/
theorem id_eq_of_location_eq {id otherId : PluginId} {location : Location}
    (h : tree.location? (directory.join ⟨id.fileName⟩) = some location)
    (hother : tree.location? (directory.join ⟨otherId.fileName⟩) = some location) :
    id = otherId := by
  obtain ⟨parent, _, _, rfl⟩ := location_file_iff.mp h
  obtain ⟨otherParent, _, _, hsame⟩ := location_file_iff.mp hother
  exact PluginId.file_name_inj (List.cons.inj hsame).1

/-- What is left behind first stays until it is written over. -/
theorem Leaves.append (hfirst : Leaves directory before tree first)
    (hsecond : Leaves directory tree after second) :
    Leaves directory before after (first ++ second) := by
  refine ⟨hfirst.keeps.trans hsecond.keeps, ?_, ?_⟩
  · intro id writing hlatest
    rw [latest_append] at hlatest
    cases hlater : latest? id second with
    | some last =>
        rw [hlater] at hlatest
        exact hsecond.latest id writing (hlater.trans hlatest)
    | none =>
        rw [hlater, Option.none_or] at hlatest
        obtain ⟨location, hlocation, hfile⟩ := hfirst.latest id writing hlatest
        have hkept := hsecond.keeps.location_file hlocation
        -- What was put in place later is for other ids, so it is at other locations.
        refine ⟨location, hkept, (hsecond.rest location ?_ _).mpr hfile⟩
        intro later hmember hsame
        exact latest_eq_none_iff.mp hlater later hmember (id_eq_of_location_eq hsame hkept)
  · intro location hlocation bytes
    have hafter := hsecond.rest location
      (fun writing hmember => hlocation writing (List.mem_append_right _ hmember)) bytes
    refine hafter.trans (hfirst.rest location ?_ bytes)
    intro writing hmember hearlier
    exact hlocation writing (List.mem_append_left _ hmember)
      (hsecond.keeps.location_file hearlier)

/-- Steps leave the descriptors that they put in place, also where they are cut short. -/
theorem Executed.leaves {steps : List Step} {outcome : Except DescriptorError Unit}
    {ended : State} (h : Executed config (InPlace config) steps state outcome ended) :
    ∃ recorded, ended.writings = state.writings ++ recorded ∧
      Leaves config.descriptorDirectory state.tree ended.tree recorded :=
  h.recorded leaves_of_no_file leaves_of_in_place Leaves.append

/-- A pass leaves the descriptors that it puts in place, whether or not it is completed. -/
theorem leaves_of_run (config : Config) (declarations : List Declaration) (session : Session) :
    Leaves config.descriptorDirectory session.tree (Pass.run config declarations session).2.tree
      (placed config declarations session) := by
  obtain ⟨recorded, hwritings, hleaves⟩ :=
    (execute_in_place config (ofUnit declarations) (ofSession session [])).leaves
  obtain rfl : placed config declarations session = recorded := hwritings
  rw [run_tree]
  exact hleaves

end PluginDescriptor.Plan
