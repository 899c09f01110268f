import PluginDescriptor.Proofs.FileTree.Changes

/-!
# Descriptors in a file tree

What writing a descriptor comes to, as steps of the file tree, and what it means for the entries at
the paths of descriptors. A file that is put in place is found at its path, `entry_of_replaced`, and
where the directory is spelled without any `..`, steps touch the path of no id for which they put no
file in place, `Changes.entry_of_file`. A write takes such steps, for one id if it succeeds and for
none if it fails: `write_ok`, `write_error`.
-/

namespace PluginDescriptor

/-- No part of a path is `..`. -/
def Path.HasNoOuter (path : Path) : Prop :=
  Path.Component.parent ∉ path.components

instance (path : Path) : Decidable path.HasNoOuter :=
  inferInstanceAs (Decidable (¬ _))

/-- A path has no part `..` exactly if it passes no such name. -/
theorem Path.has_no_outer_iff (path : Path) : path.HasNoOuter ↔ ".." ∉ path.trail := by
  have hnames : Path.Component.parent ∈ path.names.map Component.ofName ↔ ".." ∈ path.trail := by
    simp only [List.mem_map, names, List.mem_filter]
    constructor
    · rintro ⟨name, ⟨hname, _⟩, hparent⟩
      unfold Component.ofName at hparent
      by_cases houter : name = ".."
      · exact houter ▸ hname
      · rw [if_neg houter] at hparent
        cases hparent
    · intro h
      exact ⟨"..", ⟨h, by decide⟩, rfl⟩
  unfold HasNoOuter components
  rw [← hnames]
  split
  · simp
  · split <;> simp

/-- The names along the directory of descriptors. -/
theorem Config.trail_descriptor_directory (config : Config) :
    config.descriptorDirectory.trail =
      config.outputRoot.trail ++ ["META-INF", "gradle-plugins"] := by
  rw [descriptorDirectory, Path.trail_join (by decide)]
  rfl

/-- The directory of descriptors has no part `..` if the output root has none. -/
theorem Config.descriptor_directory_no_outer {config : Config}
    (h : config.outputRoot.HasNoOuter) : ".." ∉ config.descriptorDirectory.trail := by
  rw [config.trail_descriptor_directory]
  rw [Path.has_no_outer_iff] at h
  simp [h]

/-- No file at all. -/
def noFile (_ : PluginId) (_ : List UInt8) : Prop :=
  False

/-- The one file of an id with these bytes. -/
def onlyFile (id : PluginId) (bytes : List UInt8) (other : PluginId) (content : List UInt8) :
    Prop :=
  other = id ∧ content = bytes

namespace FileTree

variable {before after : FileTree} {directory : Path} {id : PluginId} {name : String}
  {allowed : PluginId → List UInt8 → Prop}

/-- Without any `..`, what stands at the path of a plain name is at the location that the names of
the path spell. -/
theorem entry_of_name_iff {tree : FileTree} {entry : Entry} (hdirectory : ".." ∉ directory.trail)
    (hname : Path.PlainName name) :
    tree.entryOf? (directory.join ⟨name⟩) = some entry ↔
      ((∀ outer ∈ directory.names, outer.utf8ByteSize ≤ longestName) ∧
        name.utf8ByteSize ≤ longestName) ∧
      tree.entryAt? (name :: (directory.names.reverse ++ (tree.start directory).location)) =
        some entry := by
  have hstart :
      (tree.start (directory.join ⟨name⟩)).location = (tree.start directory).location := by
    rw [start_location, start_location, Path.is_absolute_join hname.relative]
  rw [entryOf?, location?, Path.trail_join hname.relative, hname.trail,
    entry_concat_iff hdirectory hname.ordinary, hstart]
  rfl

/-- A step leaves what stands at a plain name alone if it is not the file name of an id for which it
allows something. -/
theorem Change.entry_of_name (h : Change directory allowed before after)
    (hdirectory : ".." ∉ directory.trail) (hname : Path.PlainName name)
    (hother : ∀ id bytes, allowed id bytes → id.fileName ≠ name) :
    after.entryOf? (directory.join ⟨name⟩) = before.entryOf? (directory.join ⟨name⟩) := by
  have hkeeps := h.keeps
  suffices hsame : after.entryAt?
      (name :: (directory.names.reverse ++ (before.start directory).location)) =
      before.entryAt? (name :: (directory.names.reverse ++ (before.start directory).location)) by
    apply Option.ext
    intro entry
    rw [entry_of_name_iff hdirectory hname, entry_of_name_iff hdirectory hname, hkeeps.start, hsame]
  cases h with
  | directory trail htrail hmade =>
      obtain ⟨location, part, hplaces, _, hpart, hleads⟩ := make_directory_part htrail hmade
      rw [hplaces.entryAt, if_neg]
      -- A created directory is no deeper than the directory that the name is looked up in.
      intro hsame
      have houter : ".." ∉ part := fun houter => hdirectory (hpart.subset houter)
      have hspelled := (leads_iff_of_no_outer houter (after.start directory).isDirectory).mp hleads
      have hlength : (part.filter (· ≠ ".")).length ≤ directory.names.length :=
        (hpart.filter _).length_le
      have hdepth := congrArg List.length (hsame.trans hspelled.1)
      rw [hkeeps.start] at hdepth
      simp only [List.length_cons, List.length_append, List.length_reverse] at hdepth
      omega
  | file id bytes hallowed hmade =>
      obtain ⟨parent, hparent, _, _, hplaces⟩ := replace_file_ok hmade
      rw [hplaces.entryAt, if_neg]
      intro hsame
      exact hother id bytes hallowed (List.cons.inj hsame).1.symm

/-- Steps leave what stands at a plain name alone if it is not the file name of an id for which they
allow something. -/
theorem Changes.entry_of_name (h : Changes directory allowed before after)
    (hdirectory : ".." ∉ directory.trail) (hname : Path.PlainName name)
    (hother : ∀ id bytes, allowed id bytes → id.fileName ≠ name) :
    after.entryOf? (directory.join ⟨name⟩) = before.entryOf? (directory.join ⟨name⟩) := by
  induction h with
  | refl => rfl
  | tail _ hstep ih => exact (hstep.entry_of_name hdirectory hname hother).trans ih

/-- Steps leave the file of an id alone for which they allow nothing. -/
theorem Changes.entry_of_file (h : Changes directory allowed before after)
    (hdirectory : ".." ∉ directory.trail) (hid : ∀ bytes, ¬ allowed id bytes) :
    after.entryOf? (directory.join ⟨id.fileName⟩) =
      before.entryOf? (directory.join ⟨id.fileName⟩) := by
  refine h.entry_of_name hdirectory id.file_name_plain ?_
  intro other bytes hallowed hsame
  obtain rfl := PluginId.file_name_inj hsame
  exact hid bytes hallowed

/-- Steps leave a file alone that is at the path of no id for which they put a file in place. -/
theorem Changes.file_iff (h : Changes directory allowed before after) {location : Location}
    (hlocation : ∀ id bytes, allowed id bytes →
      after.location? (directory.join ⟨id.fileName⟩) ≠ some location) (bytes : List UInt8) :
    after.entryAt? location = some (.file bytes) ↔
      before.entryAt? location = some (.file bytes) := by
  have hback : ∀ content, after.entryAt? location = some (.file content) →
      before.entryAt? location = some (.file content) := by
    intro content hafter
    rcases h.confined.file location content hafter with hsame | ⟨id, hallowed, hreplaced⟩
    · exact hsame
    · exact absurd hreplaced (hlocation id content hallowed)
  refine ⟨hback bytes, ?_⟩
  intro hbefore
  obtain ⟨replaced, hafter⟩ := h.keeps.file location bytes hbefore
  rw [← hbefore, hback replaced hafter]
  exact hafter

/-- A file that has been put in place is what stands at its path. -/
theorem entry_of_replaced {bytes : List UInt8}
    (h : before.replaceFile directory id.fileName bytes = .ok after) :
    after.entryOf? (directory.join ⟨id.fileName⟩) = some (.file bytes) := by
  have hstep : Change directory (onlyFile id bytes) before after :=
    .file _ _ id bytes ⟨rfl, rfl⟩ h
  have hkeeps := hstep.keeps
  obtain ⟨parent, hparent, hshort, _, hplaces⟩ := replace_file_ok h
  have hlocation : after.location? (directory.join ⟨id.fileName⟩) = some (id.fileName :: parent) :=
    location_file_iff.mpr ⟨parent, hkeeps.leads hparent, hshort, rfl⟩
  rw [entryOf?, hlocation, Option.bind_some, hplaces.entryAt, if_pos rfl]

/-- The file of an id is put in place with these bytes, once the directory is there. -/
def PutInPlace (directory : Path) (id : PluginId) (bytes : List UInt8) (before after : FileTree) :
    Prop :=
  ∃ ready, Changes directory noFile before ready ∧
    ready.replaceFile directory id.fileName bytes = .ok after

/-- What is put in place is the file of the id and nothing else. -/
theorem PutInPlace.changes {bytes : List UInt8} (h : PutInPlace directory id bytes before after) :
    Changes directory (onlyFile id bytes) before after := by
  obtain ⟨ready, hready, hreplaced⟩ := h
  have hcreated : Changes directory (onlyFile id bytes) before ready :=
    hready.mono fun _ _ hallowed => hallowed.elim
  exact hcreated.tail (.file _ _ id bytes ⟨rfl, rfl⟩ hreplaced)

/-- What is put in place is what stands at its path. -/
theorem PutInPlace.entry {bytes : List UInt8} (h : PutInPlace directory id bytes before after) :
    after.entryOf? (directory.join ⟨id.fileName⟩) = some (.file bytes) := by
  obtain ⟨ready, _, hreplaced⟩ := h
  exact entry_of_replaced hreplaced

end FileTree

namespace Descriptor

open FileTree

variable {tree made : FileTree} {directory target : Path} {id : PluginId} {bytes : List UInt8}
  {error : DescriptorError}

/-- A write that succeeds puts the file of the id in place once its directory is there. -/
theorem write_ok (h : write tree directory id bytes = (.ok target, made)) :
    target = directory.join ⟨id.fileName⟩ ∧ PutInPlace directory id bytes tree made := by
  have hready : Changes directory noFile tree (tree.createDirectories directory).2 :=
    create_directories_changes
  rcases write_cases tree directory id bytes with
    ⟨cause, left, _, hresult⟩ |
    ⟨ready, hcreated, ⟨cause, _, hresult⟩ | ⟨written, hreplaced, hresult⟩⟩
  · rw [hresult] at h
    cases h
  · rw [hresult] at h
    cases h
  · rw [hresult] at h
    cases h
    rw [hcreated] at hready
    exact ⟨rfl, ready, hready, hreplaced⟩

/-- A write that fails puts no file in place. -/
theorem write_error (h : write tree directory id bytes = (.error error, made)) :
    Changes directory noFile tree made := by
  have hready : Changes directory noFile tree (tree.createDirectories directory).2 :=
    create_directories_changes
  rcases write_cases tree directory id bytes with
    ⟨cause, left, hfailed, hresult⟩ | ⟨ready, hcreated, ⟨cause, _, hresult⟩ | ⟨written, _, hresult⟩⟩
  · rw [hresult] at h
    cases h
    rw [hfailed] at hready
    exact hready
  · rw [hresult] at h
    cases h
    rw [hcreated] at hready
    exact hready
  · rw [hresult] at h
    cases h

end Descriptor

end PluginDescriptor
