import PluginDescriptor.Descriptor

/-!
# Joined paths and descriptor names

How the names along a joined path are made up of the names along its parts, and what the file name
of a plugin id is as a part of a path: one ordinary name, and a different one for each id.
-/

namespace PluginDescriptor

namespace Path

/-- Around a separator, the names along a path are those before it and then those after it. -/
theorem trail_append (front back : String) :
    trail ⟨front ++ "/" ++ back⟩ = trail ⟨front⟩ ++ trail ⟨back⟩ := by
  have hchars : (front ++ "/" ++ back).toList = front.toList ++ '/' :: back.toList := by simp
  simp only [trail, segments, hchars, List.splitOn_append_cons_self, List.map_append,
    List.filter_append]

/-- The empty path passes no name. -/
theorem trail_empty : trail ⟨""⟩ = [] := by
  simp [trail, segments]

/-- A name without a separator is the only name along the path it makes. -/
theorem trail_name {name : String} (hplain : '/' ∉ name.toList) (hname : name ≠ "") :
    trail ⟨name⟩ = [name] := by
  simp [trail, segments, List.splitOn_eq_singleton hplain, hname]

/-- A path that ends with a separator is something followed by that separator. -/
theorem ends_with_separator {path : Path} (h : path.endsWithSeparator = true) :
    ∃ front : String, path.text = front ++ "/" := by
  simp only [endsWithSeparator, decide_eq_true_eq, List.getLast?_eq_some_iff] at h
  obtain ⟨front, hfront⟩ := h
  refine ⟨String.ofList front, ?_⟩
  rw [← String.toList_inj]
  simpa using hfront

/-- What is joined to a path is written after the same text, whatever it is. -/
theorem text_join (path : Path) :
    ∃ front : String, ∀ rest : Path, rest.isAbsolute = false →
      (path.join rest).text = front ++ rest.text := by
  by_cases hbare : path.text = "" || path.endsWithSeparator
  · refine ⟨path.text, ?_⟩
    intro rest hrest
    rw [join, if_neg (by simp [hrest]), if_pos hbare]
  · refine ⟨path.text ++ "/", ?_⟩
    intro rest hrest
    rw [join, if_neg (by simp [hrest]), if_neg hbare]

/-- The names along a joined path are those of its parts. -/
theorem trail_join {path rest : Path} (hrest : rest.isAbsolute = false) :
    (path.join rest).trail = path.trail ++ rest.trail := by
  obtain ⟨text⟩ := path
  unfold join
  rw [if_neg (by simp [hrest])]
  by_cases hbare : (decide (text = "") || endsWithSeparator ⟨text⟩) = true
  · rw [if_pos hbare]
    simp only [Bool.or_eq_true, decide_eq_true_eq] at hbare
    rcases hbare with rfl | hends
    · simp [trail_empty]
    · obtain ⟨front, rfl⟩ := ends_with_separator hends
      have hpath := trail_append front ""
      rw [String.append_empty, trail_empty, List.append_nil] at hpath
      rw [trail_append front rest.text, hpath]
  · rw [if_neg hbare]
    exact trail_append text rest.text

/-- The paths above a path are its beginnings. -/
theorem prefix_of_mem_outwards {names trail : List String} (h : trail ∈ outwards names) :
    trail <+: names.reverse := by
  induction names with
  | nil => simp [outwards] at h
  | cons name outer ih =>
      rcases List.mem_cons.mp h with rfl | h
      · exact List.prefix_rfl
      · rw [List.reverse_cons]
        exact (ih h).trans (List.prefix_append _ _)

/-- Up to `.`, whatever is created on the way to a path is a leading part of it. -/
theorem creation_trail_prefix {path : Path} {trail : List String}
    (h : trail ∈ path.creationTrails) :
    ∃ part, part <+: path.trail ∧ part.filter (· ≠ ".") = trail.filter (· ≠ ".") := by
  unfold creationTrails at h
  split at h
  · simp at h
  · rcases List.mem_cons.mp h with rfl | h
    · exact ⟨path.trail, List.prefix_rfl, rfl⟩
    · have hnames : trail <+: path.names := by
        have htail := List.reverse_prefix.mpr (List.tail_suffix path.names.reverse)
        rw [List.reverse_reverse] at htail
        exact (prefix_of_mem_outwards h).trans htail
      obtain ⟨part, hpart, rfl⟩ := List.prefix_filter_iff.mp hnames
      exact ⟨part, hpart, by simp⟩

/-- A joined path starts where its first part starts. -/
theorem is_absolute_join {path rest : Path} (hrest : rest.isAbsolute = false) :
    (path.join rest).isAbsolute = path.isAbsolute := by
  obtain ⟨text⟩ := path
  unfold join
  rw [if_neg (by simp [hrest])]
  have hhead (back : String) (hback : text ≠ "") :
      (text ++ back).toList.head? = text.toList.head? := by
    have hchars : text.toList ≠ [] := by simpa using hback
    obtain ⟨first, rest, htext⟩ := List.exists_cons_of_ne_nil hchars
    simp [htext]
  by_cases hempty : text = ""
  · subst hempty
    simpa [isAbsolute] using hrest
  · split
    · simp only [isAbsolute, hhead rest.text hempty]
    · rw [String.append_assoc]
      simp only [isAbsolute, hhead ("/" ++ rest.text) hempty]

/-- A name that is a relative path of its own, and names neither the directory it is looked up in
nor the one around it. -/
structure PlainName (name : String) : Prop where
  relative : isAbsolute ⟨name⟩ = false
  trail : trail ⟨name⟩ = [name]
  ordinary : name ≠ "." ∧ name ≠ ".."

end Path

namespace PluginId

/-- A text that cannot be continued to a plugin id stays so. -/
theorem foldl_next_failed (chars : List Char) :
    chars.foldl Progress.next .failed = .failed := by
  induction chars with
  | nil => rfl
  | cons c rest ih => exact ih

/-- Reading goes on only over segment characters and dots. -/
theorem next_ne_failed {progress : Progress} {c : Char} (h : progress.next c ≠ .failed) :
    isSegmentChar c = true ∨ c = '.' := by
  cases progress with
  | expecting dotted =>
      by_cases hc : isSegmentChar c = true
      · exact Or.inl hc
      · exact absurd (by simp [Progress.next, hc]) h
  | inside dotted =>
      by_cases hc : isSegmentChar c = true
      · exact Or.inl hc
      · by_cases hdot : c = '.'
        · exact Or.inr hdot
        · exact absurd (by simp [Progress.next, hc, hdot]) h
  | failed => exact absurd rfl h

/-- An accepted text holds segment characters and dots only. -/
theorem accepted_chars {chars : List Char} {progress : Progress} {dotted : Bool}
    (h : chars.foldl Progress.next progress = .inside dotted) :
    ∀ c ∈ chars, isSegmentChar c = true ∨ c = '.' := by
  induction chars generalizing progress with
  | nil => simp
  | cons first rest ih =>
      intro c hc
      rcases List.mem_cons.mp hc with rfl | hc
      · refine next_ne_failed fun hfailed : progress.next c = .failed => ?_
        rw [List.foldl_cons, hfailed, foldl_next_failed] at h
        cases h
      · exact ih h c hc

/-- A plugin id holds no separator. -/
theorem separator_not_mem (id : PluginId) : '/' ∉ id.text.toList := by
  intro h
  have hvalid := id.valid
  simp only [isValid, decide_eq_true_eq] at hvalid
  rcases accepted_chars hvalid '/' h with hc | hc
  · exact absurd hc (by decide)
  · exact absurd hc (by decide)

/-- The file name of a plugin id holds no U+0000. -/
theorem nul_not_mem_file_name (id : PluginId) : '\x00' ∉ id.fileName.toList := by
  have hvalid := id.valid
  simp only [isValid, decide_eq_true_eq] at hvalid
  intro h
  rw [fileName, String.toList_append, List.mem_append] at h
  rcases h with h | h
  · rcases accepted_chars hvalid _ h with hc | hc
    · exact absurd hc (by decide)
    · exact absurd hc (by decide)
  · exact absurd h (by decide)

/-- The file name of a plugin id is the only name along the path it makes. -/
theorem trail_file_name (id : PluginId) : Path.trail ⟨id.fileName⟩ = [id.fileName] := by
  apply Path.trail_name
  · have h := id.separator_not_mem
    simp [fileName, h]
  · intro h
    have hlength := congrArg String.length h
    simp [fileName] at hlength

/-- The file name of a plugin id is a relative path. -/
theorem file_name_relative (id : PluginId) : Path.isAbsolute ⟨id.fileName⟩ = false := by
  have h := id.separator_not_mem
  unfold Path.isAbsolute fileName
  cases hchars : id.text.toList with
  | nil => simp [hchars]
  | cons c rest =>
      rw [hchars, List.mem_cons, not_or] at h
      simp [hchars, Ne.symm h.1]

/-- The file name of a plugin id names neither the directory it is looked up in nor the one
around it. -/
theorem file_name_ordinary (id : PluginId) : id.fileName ≠ "." ∧ id.fileName ≠ ".." := by
  have hlength : id.fileName.length = id.text.length + 11 := String.length_append ..
  constructor <;> intro h <;> rw [h] at hlength
  · exact absurd hlength (by simp [show ".".length = 1 from rfl])
  · exact absurd hlength (by simp [show "..".length = 2 from rfl])

/-- The file name of a plugin id is a plain one. -/
theorem file_name_plain (id : PluginId) : Path.PlainName id.fileName :=
  ⟨id.file_name_relative, id.trail_file_name, id.file_name_ordinary⟩

/-- Different plugin ids have different file names. -/
theorem file_name_inj {id other : PluginId} (h : id.fileName = other.fileName) : id = other := by
  obtain ⟨text, _⟩ := id
  obtain ⟨otherText, _⟩ := other
  have hchars := congrArg String.toList h
  simp only [fileName, String.toList_append, List.append_cancel_right_eq,
    String.toList_inj] at hchars
  subst hchars
  rfl

end PluginId

end PluginDescriptor
