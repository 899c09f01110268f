import PluginDescriptor.Proofs.Descriptors
import PluginDescriptor.Proofs.FileTree.Shape

/-!
# Directories that are in place

Once the directory of the descriptors is there, creating it again does nothing, and whether the file
of an id can be put into it depends on the directories of the tree only. So the first write of many
does all that can be done about directories, `write_of_created`, and what the later ones come to can
be told from the tree that it finds ready: `write_of_prepared`.
-/

namespace PluginDescriptor

namespace FileTree

/-- The directory a path names is in place: the path is not refused, and it leads to a directory. -/
structure Prepared (tree : FileTree) (directory : Path) : Prop where
  refusal : refusal? directory = none
  leads : ∃ parent, Leads tree (tree.start directory).location directory.trail parent

/-- Nothing stands in the way of the file of an id: its path is not refused, its name is not too
long, and no directory has its place. -/
structure Admits (tree : FileTree) (directory : Path) (id : PluginId) : Prop where
  refusal : refusal? (directory.join ⟨id.fileName⟩) = none
  short : id.fileName.utf8ByteSize ≤ longestName
  free (location : Location) : tree.location? (directory.join ⟨id.fileName⟩) = some location →
    tree.entryAt? location ≠ some .directory

variable {tree other made : FileTree} {directory : Path} {id : PluginId} {bytes : List UInt8}

/-! ## The same directories -/

/-- Whether a directory is in place depends on the directories only. -/
theorem SameDirectories.prepared (h : SameDirectories tree other)
    (hready : tree.Prepared directory) : other.Prepared directory := by
  obtain ⟨hrefusal, parent, hleads⟩ := hready
  exact ⟨hrefusal, parent, h.leads_iff.mpr hleads⟩

/-- Whether anything stands in the way of a file depends on the directories only. -/
theorem SameDirectories.admits_iff (h : SameDirectories tree other) :
    other.Admits directory id ↔ tree.Admits directory id := by
  constructor
  · intro hadmits
    refine ⟨hadmits.refusal, hadmits.short, ?_⟩
    intro location hlocation
    rw [← h.location_file] at hlocation
    rw [ne_eq, ← h.directory]
    exact hadmits.free location hlocation
  · intro hadmits
    refine ⟨hadmits.refusal, hadmits.short, ?_⟩
    intro location hlocation
    rw [h.location_file] at hlocation
    rw [ne_eq, h.directory]
    exact hadmits.free location hlocation

/-! ## Creating what is there -/

/-- Names lead to one place only. -/
theorem Leads.unique {here : tree.Directory} {there elsewhere : Location} {trail : List String}
    (h : Leads tree here.location trail there) (hother : Leads tree here.location trail elsewhere) :
    there = elsewhere := by
  have hfirst := h.locate
  rw [hother.locate] at hfirst
  exact (Option.some.inj hfirst).symm

/-- A directory that is there is not created again. -/
theorem ensure_directory_of_leads {path : Path} {trail : List String} {there : Location}
    (h : Leads tree (tree.start path).location trail there) :
    tree.ensureDirectory path trail = .ok tree := by
  rcases tree.ensure_directory_cases path trail with
    ⟨made, hmade, _⟩ | ⟨error, _, ⟨_, hresult⟩ | ⟨hfind, _⟩⟩
  · -- What is created stood nowhere before, but this directory did.
    obtain ⟨location, hfree, hplaces, hleads⟩ := make_directory_ok hmade
    have hkept := (hplaces.keeps_of_free hfree).leads h
    obtain rfl := hleads.unique hkept
    rw [h.directory (tree.start path).isDirectory] at hfree
    cases hfree
  · exact hresult
  · exact absurd (find_of_leads h) hfind

/-- Creating a directory that is in place does nothing. -/
theorem create_directories_of_prepared (h : tree.Prepared directory) :
    tree.createDirectories directory = (.ok (), tree) := by
  obtain ⟨hrefusal, parent, hleads⟩ := h
  simp only [createDirectories, hrefusal, Path.creationTrails]
  split
  · rfl
  · simp only [ensureTrails, ensure_directory_of_leads hleads]

/-- A directory that has been created is in place. -/
theorem prepared_of_created (h : tree.createDirectories directory = (.ok (), made)) :
    made.Prepared directory := by
  refine ⟨?_, create_directories_ok h⟩
  unfold createDirectories at h
  cases hrefusal : refusal? directory with
  | none => rfl
  | some error =>
      rw [hrefusal] at h
      cases h

/-- A file can be put into a directory that is in place exactly if nothing stands in its way. -/
theorem replace_file_ok_iff (h : tree.Prepared directory) (id : PluginId) (bytes : List UInt8) :
    (∃ made, tree.replaceFile directory id.fileName bytes = .ok made) ↔
      tree.Admits directory id := by
  obtain ⟨_, parent, hleads⟩ := h
  let place : tree.Directory := ⟨parent, hleads.directory (tree.start directory).isDirectory⟩
  have hwalk : tree.walk (tree.start directory) directory.trail = .ok place :=
    walk_ok_iff.mpr hleads
  constructor
  · rintro ⟨made, hmade⟩
    obtain ⟨there, hthere, hshort, hfree, _⟩ := replace_file_ok hmade
    refine ⟨?_, hshort, ?_⟩
    · unfold replaceFile at hmade
      cases hrefusal : refusal? (directory.join ⟨id.fileName⟩) with
      | none => rfl
      | some error =>
          rw [hrefusal] at hmade
          cases hmade
    · intro location hlocation
      obtain ⟨found, hfound, _, rfl⟩ := location_file_iff.mp hlocation
      obtain rfl := hfound.unique hthere
      exact hfree
  · intro hadmits
    have hfree : tree.entryAt? (id.fileName :: place.location) ≠ some .directory :=
      hadmits.free _ (location_file_iff.mpr ⟨parent, hleads, hadmits.short, rfl⟩)
    have hshort : ¬ longestName < id.fileName.utf8ByteSize := Nat.not_lt.mpr hadmits.short
    refine ⟨tree.place id.fileName place (.file bytes) fun found => absurd found hfree, ?_⟩
    simp only [replaceFile, hadmits.refusal, hwalk, hshort, hfree, if_false, dite_false]

/-- Putting a file in place makes no difference to the directories. -/
theorem same_directories_of_replaced
    (h : tree.replaceFile directory id.fileName bytes = .ok made) : SameDirectories tree made := by
  obtain ⟨parent, _, _, hfree, hplaces⟩ := replace_file_ok h
  refine ⟨hplaces.working, ?_⟩
  intro location
  rw [hplaces.entryAt]
  by_cases hlocation : location = id.fileName :: parent
  · rw [if_pos hlocation, hlocation]
    simp [hfree]
  · rw [if_neg hlocation]

end FileTree

namespace Descriptor

open FileTree

variable {tree ready : FileTree} {directory : Path} {id : PluginId} {bytes : List UInt8}

/-- A write comes to what it comes to once its directory has been created. -/
theorem write_of_created (h : tree.createDirectories directory = (.ok (), ready)) :
    write tree directory id bytes = write ready directory id bytes := by
  unfold write
  rw [h, create_directories_of_prepared (prepared_of_created h)]

/-- A write that succeeds has created its directory. -/
theorem created_of_write_ok {target : Path} {made : FileTree}
    (h : write tree directory id bytes = (.ok target, made)) :
    ∃ ready, tree.createDirectories directory = (.ok (), ready) := by
  rcases write_cases tree directory id bytes with
    ⟨cause, left, _, hresult⟩ | ⟨ready, hcreated, _⟩
  · rw [hresult] at h
    cases h
  · exact ⟨ready, hcreated⟩

/-- Where the directory is in place, a write succeeds exactly if nothing stands in its way, and
either way it makes no difference to the directories. -/
theorem write_of_prepared (h : tree.Prepared directory) (id : PluginId) (bytes : List UInt8) :
    ((∃ target, (write tree directory id bytes).1 = .ok target) ↔ tree.Admits directory id) ∧
      SameDirectories tree (write tree directory id bytes).2 := by
  have hreplace := replace_file_ok_iff h id bytes
  unfold write
  rw [create_directories_of_prepared h, ← hreplace]
  dsimp only
  cases hreplaced : tree.replaceFile directory id.fileName bytes with
  | error cause => simp [SameDirectories.refl]
  | ok made => simp [same_directories_of_replaced hreplaced]

end Descriptor

end PluginDescriptor
