import PluginDescriptor.Proofs.Paths

/-!
# Where descriptors lie

The path of a descriptor is the output root, the directory of descriptors and the file name of the
id, one behind the other. `Path.components_join` says that joining paths is putting their components
together, whatever the first path looks like. Since the file name of an id is one ordinary
component, and a different one for each id, the paths of different descriptors differ and all of
them lie in the directory of descriptors: `descriptor_path`.
-/

namespace PluginDescriptor

namespace Path

/-- The components of the path above a path: all but the last one. No path is above the root or
above the empty path. -/
def parentComponents (path : Path) : Option (List Component) :=
  match path.components.getLast? with
  | none => none
  | some .root => none
  | some _ => some path.components.dropLast

/-- What stands between two joined paths: a separator, unless the first path is empty or ends in
one. -/
def separator (path : Path) : String :=
  if path.text = "" ∨ path.text.toList.getLast? = some '/' then "" else "/"

variable {path rest : Path}

/-! ## Joined paths -/

/-- A relative path is written behind the path that it is joined to. -/
theorem text_join_relative (hrest : rest.isAbsolute = false) :
    (path.join rest).text = path.text ++ path.separator ++ rest.text := by
  unfold join separator
  rw [if_neg (by simp [hrest])]
  simp only [endsWithSeparator, Bool.or_eq_true, decide_eq_true_eq]
  split
  · rw [String.append_empty]
  · rfl

/-- What follows a separator does not change what stands before the first one. -/
theorem head_split_append (front back : List Char) :
    ((front ++ '/' :: back).splitOn '/').head? = (front.splitOn '/').head? := by
  obtain ⟨first, others, hsplit⟩ := List.exists_cons_of_ne_nil (List.splitOn_ne_nil '/' front)
  rw [List.splitOn_append_cons_self, hsplit]
  rfl

/-- A joined path is led by what its first part is led by, if there is a first part. -/
theorem head_segments_join (hrest : rest.isAbsolute = false) (hpath : path.text ≠ "") :
    (path.join rest).segments.head? = path.segments.head? := by
  simp only [segments, List.head?_map]
  congr 1
  unfold join
  rw [if_neg (by simp [hrest])]
  by_cases hbare : (decide (path.text = "") || path.endsWithSeparator) = true
  · rw [if_pos hbare]
    simp only [hpath, decide_false, Bool.false_or] at hbare
    obtain ⟨front, hfront⟩ := ends_with_separator hbare
    have hslash : (front ++ "/").toList = front.toList ++ '/' :: [] := by simp
    have hjoined : (path.text ++ rest.text).toList = front.toList ++ '/' :: rest.text.toList := by
      simp [hfront]
    rw [hjoined, hfront, hslash, head_split_append, head_split_append]
  · rw [if_neg hbare]
    have hjoined : (path.text ++ "/" ++ rest.text).toList =
        path.text.toList ++ '/' :: rest.text.toList := by simp
    rw [hjoined, head_split_append]

/-- The empty path has no components. -/
theorem components_empty : components ⟨""⟩ = [] := by
  simp [components, names, trail_empty, isAbsolute, segments]

/-- The components of a joined path are those of its parts, if the second part is relative and is
not led by a `.`, which would count only in front. -/
theorem components_join (hrest : rest.isAbsolute = false)
    (hhead : rest.segments.head? ≠ some ".") :
    (path.join rest).components = path.components ++ rest.components := by
  have hnames : (path.join rest).names = path.names ++ rest.names := by
    rw [names, trail_join hrest, List.filter_append]
    rfl
  have hbehind : rest.components = rest.names.map Component.ofName := by
    simp [components, hrest, hhead]
  by_cases hpath : path.text = ""
  · obtain ⟨text⟩ := path
    obtain rfl : text = "" := hpath
    have hjoin : join ⟨""⟩ rest = rest := by simp [join]
    rw [hjoin, components_empty, List.nil_append]
  · rw [hbehind]
    unfold components
    rw [is_absolute_join hrest, head_segments_join hrest hpath, hnames, List.map_append]
    split
    · rfl
    · split <;> rfl

/-- Above a path with an ordinary name at its end is the path without that name. -/
theorem parent_of_name {above : List Component} {name : String}
    (h : path.components = above ++ [.name name]) : path.parentComponents = some above := by
  rw [parentComponents, h, List.getLast?_concat, List.dropLast_concat]

end Path

namespace PluginId

/-- The file name of a plugin id holds no separator. -/
theorem separator_not_mem_file_name (id : PluginId) : '/' ∉ id.fileName.toList := by
  simp [fileName, id.separator_not_mem]

/-- The file name of a plugin id is the only text between separators. -/
theorem segments_file_name (id : PluginId) : Path.segments ⟨id.fileName⟩ = [id.fileName] := by
  simp [Path.segments, List.splitOn_eq_singleton id.separator_not_mem_file_name]

/-- The file name of a plugin id is one ordinary component. -/
theorem components_file_name (id : PluginId) :
    Path.components ⟨id.fileName⟩ = [.name id.fileName] := by
  obtain ⟨hcurrent, hparent⟩ := id.file_name_ordinary
  have hnames : Path.names ⟨id.fileName⟩ = [id.fileName] := by
    simp [Path.names, id.trail_file_name, hcurrent]
  simp [Path.components, id.file_name_relative, id.segments_file_name, hnames, hcurrent, hparent,
    Path.Component.ofName]

end PluginId

namespace Config

/-! ## The path of a descriptor -/

/-- The directory of descriptors is written as the output root with two more names. -/
theorem text_descriptor_directory (config : Config) :
    config.descriptorDirectory.text =
      config.outputRoot.text ++ config.outputRoot.separator ++ "META-INF/gradle-plugins" :=
  Path.text_join_relative (by decide)

/-- The directory of descriptors is not empty and does not end in a separator, so one is written
behind it. -/
theorem separator_descriptor_directory (config : Config) :
    config.descriptorDirectory.separator = "/" := by
  have hlast : config.descriptorDirectory.text.toList.getLast? = some 's' := by
    rw [text_descriptor_directory]
    simp
  rw [Path.separator, hlast, if_neg]
  rintro (hempty | hslash)
  · rw [hempty] at hlast
    cases hlast
  · cases hslash

/-- The components of the path of a descriptor are those of the directory of descriptors and the
file name. -/
theorem components_descriptor (config : Config) (id : PluginId) :
    (config.descriptorDirectory.join ⟨id.fileName⟩).components =
      config.descriptorDirectory.components ++ [.name id.fileName] := by
  have hhead : (Path.segments ⟨id.fileName⟩).head? ≠ some "." := by
    simp [id.segments_file_name, id.file_name_ordinary.1]
  rw [Path.components_join id.file_name_relative hhead, id.components_file_name]

/-- The path of a descriptor is the output root, a separator unless the root is empty or ends in
one, and then `META-INF/gradle-plugins/` with the file name of the id. The file name is one ordinary
component: it holds no separator and no U+0000 and is neither `.` nor `..`. So the path above is the
directory of descriptors, and the descriptors of two ids have the same path only if the ids are the
same. -/
theorem descriptor_path (config : Config) (id other : PluginId) :
    let root := config.outputRoot.text
    let directory := config.descriptorDirectory
    let path := directory.join ⟨id.fileName⟩
    (path.text = root ++ (if root = "" ∨ root.toList.getLast? = some '/' then "" else "/") ++
        "META-INF/gradle-plugins/" ++ id.text ++ ".properties" ∧
      path.text = directory.text ++ "/" ++ id.fileName) ∧
    (path.components = directory.components ++ [.name id.fileName] ∧
      '/' ∉ id.fileName.toList ∧ '\x00' ∉ id.fileName.toList ∧
      id.fileName ≠ "." ∧ id.fileName ≠ "..") ∧
    path.parentComponents = some directory.components ∧
    (path.same (directory.join ⟨other.fileName⟩) = true ↔ id = other) := by
  intro root directory path
  have htext : path.text = directory.text ++ "/" ++ id.fileName := by
    rw [← config.separator_descriptor_directory]
    exact Path.text_join_relative id.file_name_relative
  have hcomponents : path.components = directory.components ++ [.name id.fileName] :=
    config.components_descriptor id
  have hother := config.components_descriptor other
  obtain ⟨hcurrent, hparent⟩ := id.file_name_ordinary
  refine ⟨⟨?_, htext⟩, ⟨hcomponents, id.separator_not_mem_file_name, id.nul_not_mem_file_name,
    hcurrent, hparent⟩, Path.parent_of_name hcomponents, ?_⟩
  · have hfolder : "META-INF/gradle-plugins/" = "META-INF/gradle-plugins" ++ "/" := rfl
    have hdirectory : directory.text =
        root ++ (if root = "" ∨ root.toList.getLast? = some '/' then "" else "/") ++
          "META-INF/gradle-plugins" := config.text_descriptor_directory
    rw [htext, hdirectory, PluginId.fileName, hfolder]
    simp only [String.append_assoc]
  · rw [Path.same, decide_eq_true_eq, hcomponents, hother]
    constructor
    · intro hsame
      have hlast := List.append_cancel_left hsame
      injection hlast with hname
      injection hname with hname
      exact PluginId.file_name_inj hname
    · rintro rfl
      rfl

end Config

end PluginDescriptor
