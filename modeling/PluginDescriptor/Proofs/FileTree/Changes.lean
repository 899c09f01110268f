import Mathlib.Logic.Relation
import PluginDescriptor.Proofs.FileTree.Locations

/-!
# How a file tree changes

Two operations change a file tree: creating one directory and putting one file in place. `Change`
says what a single step towards the descriptors below a directory can be, and `Changes` is any
number of such steps. Everything that is said about a longer operation is read off these steps:
`Changes.keeps` is what no step undoes, and `Changes.confined` is where new entries can be.
-/

namespace PluginDescriptor.FileTree

/-- `Places tree made location entry` says that `made` is `tree` with `entry` at `location`. -/
structure Places (tree made : FileTree) (location : Location) (entry : Entry) : Prop where
  working : made.working = tree.working
  entryAt (other : Location) :
    made.entryAt? other = if other = location then some entry else tree.entryAt? other

/-- What later steps never undo: directories stay, and a file gives way to a file only. -/
structure Keeps (before after : FileTree) : Prop where
  working : after.working = before.working
  directory (location : Location) :
    before.entryAt? location = some .directory → after.entryAt? location = some .directory
  file (location : Location) (bytes : List UInt8) :
    before.entryAt? location = some (.file bytes) →
    ∃ replaced, after.entryAt? location = some (.file replaced)

variable {tree made before after : FileTree}

/-- Every tree keeps itself. -/
theorem Keeps.refl (tree : FileTree) : Keeps tree tree :=
  ⟨rfl, fun _ h => h, fun _ bytes h => ⟨bytes, h⟩⟩

/-- What is kept twice is kept. -/
theorem Keeps.trans (hfirst : Keeps before tree) (hsecond : Keeps tree after) :
    Keeps before after := by
  refine ⟨hsecond.working.trans hfirst.working, ?_, ?_⟩
  · intro location h
    exact hsecond.directory location (hfirst.directory location h)
  · intro location bytes h
    obtain ⟨replaced, h⟩ := hfirst.file location bytes h
    exact hsecond.file location replaced h

/-- A path starts at the same location as long as the working directory is kept. -/
theorem Keeps.start (h : Keeps before after) (path : Path) :
    (after.start path).location = (before.start path).location := by
  rw [start_location, start_location, h.working]

/-- Names lead where they led before. -/
theorem Keeps.leads (h : Keeps before after) {path : Path} {trail : List String}
    {there : Location} (hleads : Leads before (before.start path).location trail there) :
    Leads after (after.start path).location trail there := by
  rw [h.start]
  exact hleads.mono h.directory

/-- Placing an entry keeps the rest, and a directory or file where the entry is of that kind. -/
theorem Places.keeps {location : Location} {entry : Entry} (h : Places tree made location entry)
    (hdirectory : tree.entryAt? location = some .directory → entry = .directory)
    (hfile : ∀ bytes, tree.entryAt? location = some (.file bytes) →
      ∃ replaced, entry = .file replaced) : Keeps tree made := by
  refine ⟨h.working, ?_, ?_⟩
  · intro other hother
    rw [h.entryAt]
    by_cases hsame : other = location
    · rw [hsame] at hother
      rw [if_pos hsame, hdirectory hother]
    · rw [if_neg hsame]
      exact hother
  · intro other bytes hother
    rw [h.entryAt]
    by_cases hsame : other = location
    · rw [hsame] at hother
      obtain ⟨replaced, rfl⟩ := hfile bytes hother
      exact ⟨replaced, if_pos hsame⟩
    · rw [if_neg hsame]
      exact ⟨bytes, hother⟩

/-- What stands somewhere after an entry has been placed is that entry or stood there before. -/
theorem Places.cases {location other : Location} {entry found : Entry}
    (h : Places tree made location entry) (hother : made.entryAt? other = some found) :
    other = location ∧ found = entry ∨ tree.entryAt? other = some found := by
  rw [h.entryAt] at hother
  by_cases hsame : other = location
  · rw [if_pos hsame, Option.some.injEq] at hother
    exact Or.inl ⟨hsame, hother.symm⟩
  · rw [if_neg hsame] at hother
    exact Or.inr hother

/-- Placing an entry where nothing stood keeps everything. -/
theorem Places.keeps_of_free {location : Location} {entry : Entry}
    (h : Places tree made location entry) (hfree : tree.entryAt? location = none) :
    Keeps tree made := by
  apply h.keeps <;> simp [hfree]

/-! ## One directory, one file -/

/-- A name that is neither `.` nor `..` is an ordinary one. -/
theorem ordinary_of_not_dots {name : String} (h : ¬ (name = "." || name = "..") = true) :
    name ≠ "." ∧ name ≠ ".." := by
  simpa using h

/-- A directory is created in the directory that the names before its own lead to. -/
theorem make_directory_concat (tree : FileTree) (path : Path) (names : List String)
    (last : String) :
    tree.makeDirectory path (names ++ [last]) =
      match tree.walk (tree.start path) names with
      | .error error => .error error
      | .ok parent =>
        if last = "." || last = ".." then .error .alreadyExists
        else if longestName < last.utf8ByteSize then .error .nameTooLong
        else
          match tree.entryAt? (last :: parent.location) with
          | some _ => .error .alreadyExists
          | none => .ok (tree.place last parent .directory fun _ => rfl) := by
  have h := makeDirectory.eq_def tree path (names ++ [last])
  simp only [List.getLast?_concat, List.dropLast_concat] at h
  exact h

/-- Behind a `.` or `..` there is a directory, and anything else is found in the directory that the
names before it lead to. -/
theorem find_concat (tree : FileTree) (here : tree.Directory) (names : List String)
    (last : String) :
    tree.find here (names ++ [last]) =
      if last = "." || last = ".." then
        (tree.walk here (names ++ [last])).map fun _ => .directory
      else
        match tree.walk here names with
        | .error error => .error error
        | .ok parent =>
          if longestName < last.utf8ByteSize then .error .nameTooLong
          else
            match tree.entryAt? (last :: parent.location) with
            | none => .error .notFound
            | some entry => .ok entry := by
  have h := find.eq_def tree here (names ++ [last])
  simp only [List.getLast?_concat, List.dropLast_concat] at h
  exact h

/-- A directory is created where nothing stood, and its names lead there afterwards. -/
theorem make_directory_ok {path : Path} {trail : List String}
    (h : tree.makeDirectory path trail = .ok made) :
    ∃ location, tree.entryAt? location = none ∧ Places tree made location .directory ∧
      Leads made (made.start path).location trail location := by
  rcases trail.eq_nil_or_concat' with rfl | ⟨names, last, rfl⟩
  · cases h
  rw [make_directory_concat] at h
  cases hwalk : tree.walk (tree.start path) names with
  | error error =>
      rw [hwalk] at h
      cases h
  | ok parent =>
      rw [hwalk] at h
      dsimp only at h
      by_cases hdots : (last = "." || last = "..") = true
      · rw [if_pos hdots] at h
        cases h
      by_cases hlong : longestName < last.utf8ByteSize
      · rw [if_neg hdots, if_pos hlong] at h
        cases h
      rw [if_neg hdots, if_neg hlong] at h
      cases hfree : tree.entryAt? (last :: parent.location) with
      | some entry =>
          simp only [hfree] at h
          cases h
      | none =>
          simp only [hfree] at h
          cases h
          have hplaces : Places tree (tree.place last parent .directory fun _ => rfl)
              (last :: parent.location) .directory := ⟨rfl, entryAt?_place _ _ _ _ _⟩
          refine ⟨last :: parent.location, hfree, hplaces, ?_⟩
          have hkeeps := hplaces.keeps_of_free hfree
          apply (hkeeps.leads (walk_ok_iff.mp hwalk)).concat (ordinary_of_not_dots hdots) (by omega)
          rw [hplaces.entryAt, if_pos rfl]

/-- A file is put into the directory its path leads to, where no directory stood. -/
theorem replace_file_ok {directory : Path} {name : String} {bytes : List UInt8}
    (h : tree.replaceFile directory name bytes = .ok made) :
    ∃ parent, Leads tree (tree.start directory).location directory.trail parent ∧
      name.utf8ByteSize ≤ longestName ∧
      tree.entryAt? (name :: parent) ≠ some .directory ∧
      Places tree made (name :: parent) (.file bytes) := by
  unfold replaceFile at h
  cases hrefusal : refusal? (directory.join ⟨name⟩) with
  | some error =>
      rw [hrefusal] at h
      cases h
  | none =>
      rw [hrefusal] at h
      cases hwalk : tree.walk (tree.start directory) directory.trail with
      | error error =>
          rw [hwalk] at h
          cases h
      | ok parent =>
          rw [hwalk] at h
          dsimp only at h
          by_cases hlong : longestName < name.utf8ByteSize
          · rw [if_pos hlong] at h
            cases h
          by_cases htaken : tree.entryAt? (name :: parent.location) = some .directory
          · rw [if_neg hlong, dif_pos htaken] at h
            cases h
          rw [if_neg hlong, dif_neg htaken] at h
          cases h
          exact ⟨parent.location, walk_ok_iff.mp hwalk, by omega, htaken,
            ⟨rfl, entryAt?_place _ _ _ _ _⟩⟩

/-- Names that end at a directory lead there. -/
theorem find_directory {here : tree.Directory} {trail : List String}
    (h : tree.find here trail = .ok .directory) :
    ∃ there, Leads tree here.location trail there := by
  rcases trail.eq_nil_or_concat' with rfl | ⟨names, last, rfl⟩
  · exact ⟨here.location, .stop _⟩
  rw [find_concat] at h
  by_cases hdots : (last = "." || last = "..") = true
  · cases hwalk : tree.walk here (names ++ [last]) with
    | error error =>
        rw [if_pos hdots, hwalk] at h
        cases h
    | ok there => exact ⟨there.location, walk_ok_iff.mp hwalk⟩
  rw [if_neg hdots] at h
  cases hwalk : tree.walk here names with
  | error error =>
      rw [hwalk] at h
      cases h
  | ok parent =>
      rw [hwalk] at h
      dsimp only at h
      by_cases hlong : longestName < last.utf8ByteSize
      · rw [if_pos hlong] at h
        cases h
      rw [if_neg hlong] at h
      cases hentry : tree.entryAt? (last :: parent.location) with
      | none =>
          rw [hentry] at h
          cases h
      | some entry =>
          rw [hentry] at h
          cases h
          exact ⟨last :: parent.location,
            (walk_ok_iff.mp hwalk).concat (ordinary_of_not_dots hdots) (by omega) hentry⟩

/-- A directory that cannot be created is ensured if it is found to be there. -/
theorem ensure_directory_of_found {path : Path} {trail : List String} {error : FileError}
    (hmake : tree.makeDirectory path trail = .error error)
    (hfind : tree.find (tree.start path) trail = .ok .directory) :
    tree.ensureDirectory path trail = .ok tree := by
  rw [ensureDirectory, hmake, hfind]

/-- A directory that can neither be created nor found fails for what kept it from being created. -/
theorem ensure_directory_of_not_found {path : Path} {trail : List String} {error : FileError}
    (hmake : tree.makeDirectory path trail = .error error)
    (hfind : tree.find (tree.start path) trail ≠ .ok .directory) :
    tree.ensureDirectory path trail = .error error := by
  rw [ensureDirectory, hmake]
  dsimp only
  cases hfound : tree.find (tree.start path) trail with
  | error cause => rfl
  | ok entry =>
      cases entry with
      | file bytes => rfl
      | directory => exact absurd hfound hfind

/-- A directory is created, or it is found to be there, or the attempt to create it fails. -/
theorem ensure_directory_cases (tree : FileTree) (path : Path) (trail : List String) :
    (∃ made, tree.makeDirectory path trail = .ok made ∧
      tree.ensureDirectory path trail = .ok made) ∨
    ∃ error, tree.makeDirectory path trail = .error error ∧
      (tree.find (tree.start path) trail = .ok .directory ∧
          tree.ensureDirectory path trail = .ok tree ∨
        tree.find (tree.start path) trail ≠ .ok .directory ∧
          tree.ensureDirectory path trail = .error error) := by
  cases hmake : tree.makeDirectory path trail with
  | ok made => exact Or.inl ⟨made, rfl, by rw [ensureDirectory, hmake]⟩
  | error error =>
      refine Or.inr ⟨error, rfl, ?_⟩
      by_cases hfind : tree.find (tree.start path) trail = .ok .directory
      · exact Or.inl ⟨hfind, ensure_directory_of_found hmake hfind⟩
      · exact Or.inr ⟨hfind, ensure_directory_of_not_found hmake hfind⟩

/-- A directory that is ensured was there or has been created, and its names lead there. -/
theorem ensure_directory_ok {path : Path} {trail : List String}
    (h : tree.ensureDirectory path trail = .ok made) :
    (made = tree ∨ tree.makeDirectory path trail = .ok made) ∧
      ∃ there, Leads made (made.start path).location trail there := by
  rcases tree.ensure_directory_cases path trail with
    ⟨created, hmake, hresult⟩ | ⟨error, _, ⟨hfind, hresult⟩ | ⟨_, hresult⟩⟩
  · rw [hresult] at h
    cases h
    obtain ⟨location, _, _, hleads⟩ := make_directory_ok hmake
    exact ⟨Or.inr hmake, location, hleads⟩
  · rw [hresult] at h
    cases h
    exact ⟨Or.inl rfl, find_directory hfind⟩
  · rw [hresult] at h
    cases h

section

variable {path : Path} {trail : List String}

/-- The directory of the first trail is ensured at once. -/
theorem ensure_trails_of_ensured (h : tree.ensureDirectory path trail = .ok made)
    (shorter : List (List String)) :
    tree.ensureTrails path (trail :: shorter) = (.ok (), made) := by
  rw [ensureTrails, h]

/-- The directory of the first trail fails for another reason than that one above it is missing. -/
theorem ensure_trails_of_failed {error : FileError}
    (h : tree.ensureDirectory path trail = .error error) (hreason : error ≠ .notFound)
    (shorter : List (List String)) :
    tree.ensureTrails path (trail :: shorter) = (.error error, tree) := by
  unfold ensureTrails
  rw [h]
  split
  case h_1 hensured => cases hensured
  case h_2 hmissing => exact absurd (Except.error.inj hmissing) hreason
  case h_3 hfailed => rw [Except.error.inj hfailed]

/-- The directory of the first trail waits for those of the other trails. -/
theorem ensure_trails_of_missing (h : tree.ensureDirectory path trail = .error .notFound)
    (shorter : List (List String)) :
    tree.ensureTrails path (trail :: shorter) =
      match tree.ensureTrails path shorter with
      | (.error error, made) => (.error error, made)
      | (.ok (), made) =>
        match made.ensureDirectory path trail with
        | .ok complete => (.ok (), complete)
        | .error error => (.error error, made) := by
  simp only [ensureTrails, h]
  rfl

/-- The directory of the first trail is ensured at once, or cannot be, or waits for those of the
other trails and is ensured or not after them. -/
theorem ensure_trails_cons_cases (tree : FileTree) (path : Path) (trail : List String)
    (shorter : List (List String)) :
    (∃ made, tree.ensureDirectory path trail = .ok made ∧
      tree.ensureTrails path (trail :: shorter) = (.ok (), made)) ∨
    (∃ error, tree.ensureTrails path (trail :: shorter) = (.error error, tree)) ∨
    (∃ error made, tree.ensureTrails path shorter = (.error error, made) ∧
      tree.ensureTrails path (trail :: shorter) = (.error error, made)) ∨
    ∃ made, tree.ensureTrails path shorter = (.ok (), made) ∧
      ((∃ complete, made.ensureDirectory path trail = .ok complete ∧
        tree.ensureTrails path (trail :: shorter) = (.ok (), complete)) ∨
      ∃ error, tree.ensureTrails path (trail :: shorter) = (.error error, made)) := by
  cases hfirst : tree.ensureDirectory path trail with
  | ok made => exact Or.inl ⟨made, rfl, ensure_trails_of_ensured hfirst shorter⟩
  | error error =>
      by_cases hmissing : error = .notFound
      case neg => exact Or.inr (Or.inl ⟨error, ensure_trails_of_failed hfirst hmissing shorter⟩)
      subst hmissing
      rw [ensure_trails_of_missing hfirst]
      cases tree.ensureTrails path shorter with
      | mk outcome made =>
          cases outcome with
          | error error => exact Or.inr (Or.inr (Or.inl ⟨error, made, rfl, rfl⟩))
          | ok =>
              refine Or.inr (Or.inr (Or.inr ⟨made, rfl, ?_⟩))
              dsimp only
              cases made.ensureDirectory path trail with
              | ok complete => exact Or.inl ⟨complete, rfl, rfl⟩
              | error error => exact Or.inr ⟨error, rfl⟩

end

/-- A directory that has been created with all directories above it is there. -/
theorem create_directories_ok {directory : Path}
    (h : tree.createDirectories directory = (.ok (), made)) :
    ∃ there, Leads made (made.start directory).location directory.trail there := by
  unfold createDirectories at h
  cases hrefusal : refusal? directory with
  | some error =>
      rw [hrefusal] at h
      cases h
  | none =>
      rw [hrefusal] at h
      dsimp only at h
      by_cases htrail : directory.trail = []
      · rw [htrail]
        exact ⟨_, .stop _⟩
      rw [Path.creationTrails, if_neg htrail] at h
      rcases tree.ensure_trails_cons_cases directory directory.trail
          (Path.outwards directory.names.reverse.tail) with
        ⟨made, hensured, hresult⟩ | ⟨error, hresult⟩ | ⟨error, made, _, hresult⟩ |
        ⟨made, _, ⟨complete, hensured, hresult⟩ | ⟨error, hresult⟩⟩
      all_goals
        rw [hresult] at h
        cases h
      · exact (ensure_directory_ok hensured).2
      · exact (ensure_directory_ok hensured).2

/-! ## Steps and runs of steps -/

/-- One step towards the descriptors in `directory`: a directory is created on the way, or the file
of an id is put in place with bytes that are allowed for it. -/
inductive Change (directory : Path) (allowed : PluginId → List UInt8 → Prop) :
    FileTree → FileTree → Prop where
  | directory (tree made trail) :
      trail ∈ directory.creationTrails → tree.makeDirectory directory trail = .ok made →
      Change directory allowed tree made
  | file (tree made id bytes) :
      allowed id bytes → tree.replaceFile directory id.fileName bytes = .ok made →
      Change directory allowed tree made

/-- Any number of steps. -/
abbrev Changes (directory : Path) (allowed : PluginId → List UInt8 → Prop) :
    FileTree → FileTree → Prop :=
  Relation.ReflTransGen (Change directory allowed)

variable {directory : Path} {allowed : PluginId → List UInt8 → Prop}

/-- A step undoes nothing. -/
theorem Change.keeps (h : Change directory allowed before after) : Keeps before after := by
  cases h with
  | directory trail htrail hmade =>
      obtain ⟨location, hfree, hplaces, _⟩ := make_directory_ok hmade
      exact hplaces.keeps_of_free hfree
  | file id bytes hallowed hmade =>
      obtain ⟨parent, _, _, hfree, hplaces⟩ := replace_file_ok hmade
      exact hplaces.keeps (fun hdirectory => absurd hdirectory hfree)
        (fun _ _ => ⟨bytes, rfl⟩)

/-- No number of steps undoes anything. -/
theorem Changes.keeps (h : Changes directory allowed before after) : Keeps before after := by
  induction h with
  | refl => exact .refl _
  | tail _ hstep ih => exact ih.trans hstep.keeps

/-- More may be done where more is allowed. -/
theorem Changes.mono {wider : PluginId → List UInt8 → Prop}
    (h : Changes directory allowed before after)
    (hwider : ∀ id bytes, allowed id bytes → wider id bytes) :
    Changes directory wider before after := by
  refine Relation.ReflTransGen.mono (fun _ _ hstep => ?_) _ _ h
  cases hstep with
  | directory trail htrail hmade => exact .directory _ _ _ htrail hmade
  | file id bytes hallowed hmade => exact .file _ _ _ _ (hwider id bytes hallowed) hmade

/-- Ensuring a directory on the way is at most one step. -/
theorem ensure_directory_changes {trail : List String}
    (htrail : trail ∈ directory.creationTrails)
    (h : tree.ensureDirectory directory trail = .ok made) :
    Changes directory allowed tree made := by
  rcases (ensure_directory_ok h).1 with rfl | hmade
  · exact .refl
  · exact .single (.directory _ _ _ htrail hmade)

/-- Creating directories along some of the trails takes such steps only. -/
theorem ensure_trails_changes {trails : List (List String)}
    (htrails : trails ⊆ directory.creationTrails) :
    Changes directory allowed tree (tree.ensureTrails directory trails).2 := by
  induction trails with
  | nil => exact .refl
  | cons trail shorter ih =>
      rw [List.cons_subset] at htrails
      obtain ⟨htrail, hshorter⟩ := htrails
      have hrest := ih hshorter
      rcases tree.ensure_trails_cons_cases directory trail shorter with
        ⟨made, hensured, hresult⟩ | ⟨error, hresult⟩ | ⟨error, made, hcreated, hresult⟩ |
        ⟨made, hcreated, ⟨complete, hensured, hresult⟩ | ⟨error, hresult⟩⟩
      · rw [hresult]
        exact ensure_directory_changes htrail hensured
      · rw [hresult]
      -- A directory on the way is missing: the shorter trails come first, then this one again.
      · rw [hcreated] at hrest
        rw [hresult]
        exact hrest
      · rw [hcreated] at hrest
        rw [hresult]
        exact hrest.trans (ensure_directory_changes htrail hensured)
      · rw [hcreated] at hrest
        rw [hresult]
        exact hrest

/-- Creating a directory with all directories above it takes such steps only. -/
theorem create_directories_changes :
    Changes directory allowed tree (tree.createDirectories directory).2 := by
  unfold createDirectories
  cases refusal? directory with
  | some error => exact .refl
  | none => exact ensure_trails_changes (List.Subset.refl _)

/-! ## Where new entries are -/

/-- A plain name stands for a place in the directory that the path in front of it leads to. -/
theorem location_name_iff {name : String} {location : Location} (hname : Path.PlainName name) :
    tree.location? (directory.join ⟨name⟩) = some location ↔
      ∃ parent, Leads tree (tree.start directory).location directory.trail parent ∧
        name.utf8ByteSize ≤ longestName ∧ location = name :: parent := by
  rw [location?, Path.trail_join hname.relative, hname.trail, locate_concat_iff hname.ordinary,
    start_location, start_location, Path.is_absolute_join hname.relative]

/-- The file of an id stands in the directory its path leads to. -/
theorem location_file_iff {id : PluginId} {location : Location} :
    tree.location? (directory.join ⟨id.fileName⟩) = some location ↔
      ∃ parent, Leads tree (tree.start directory).location directory.trail parent ∧
        id.fileName.utf8ByteSize ≤ longestName ∧ location = id.fileName :: parent :=
  location_name_iff id.file_name_plain

/-- A path to the file of an id stands for what it stood for before. -/
theorem Keeps.location_file (h : Keeps before after) {id : PluginId} {location : Location}
    (hlocation : before.location? (directory.join ⟨id.fileName⟩) = some location) :
    after.location? (directory.join ⟨id.fileName⟩) = some location := by
  rw [location_file_iff] at hlocation ⊢
  obtain ⟨parent, hparent, hrest⟩ := hlocation
  exact ⟨parent, h.leads hparent, hrest⟩

/-- What steps towards the descriptors in `directory` can have come to. Every file that is new or
different is that of an id, with allowed bytes, and every new directory is on the way. -/
structure Confined (directory : Path) (allowed : PluginId → List UInt8 → Prop)
    (before after : FileTree) : Prop where
  file (location : Location) (bytes : List UInt8) :
    after.entryAt? location = some (.file bytes) →
    before.entryAt? location = some (.file bytes) ∨
      ∃ id, allowed id bytes ∧
        after.location? (directory.join ⟨id.fileName⟩) = some location
  directory (location : Location) :
    after.entryAt? location = some .directory →
    before.entryAt? location = some .directory ∨
      ∃ part, part <+: directory.trail ∧
        Leads after (after.start directory).location part location

/-- A created directory is a leading part of the path that is being created. -/
theorem make_directory_part {trail : List String} (htrail : trail ∈ directory.creationTrails)
    (h : tree.makeDirectory directory trail = .ok made) :
    ∃ location part, Places tree made location .directory ∧ tree.entryAt? location = none ∧
      part <+: directory.trail ∧ Leads made (made.start directory).location part location := by
  obtain ⟨location, hfree, hplaces, hleads⟩ := make_directory_ok h
  obtain ⟨part, hpart, hsame⟩ := Path.creation_trail_prefix htrail
  rw [← leads_filter_iff, ← hsame, leads_filter_iff] at hleads
  exact ⟨location, part, hplaces, hfree, hpart, hleads⟩

/-- A step adds nothing in any other place. -/
theorem Change.confined (h : Change directory allowed before after) :
    Confined directory allowed before after := by
  have hkeeps := h.keeps
  cases h with
  | directory trail htrail hmade =>
      obtain ⟨location, part, hplaces, _, hpart, hleads⟩ := make_directory_part htrail hmade
      refine ⟨?_, ?_⟩
      · intro other bytes hother
        rcases hplaces.cases hother with ⟨_, hkind⟩ | hbefore
        · cases hkind
        · exact Or.inl hbefore
      · intro other hother
        rcases hplaces.cases hother with ⟨rfl, _⟩ | hbefore
        · exact Or.inr ⟨part, hpart, hleads⟩
        · exact Or.inl hbefore
  | file id written hallowed hmade =>
      obtain ⟨parent, hparent, hshort, _, hplaces⟩ := replace_file_ok hmade
      refine ⟨?_, ?_⟩
      · intro other bytes hother
        rcases hplaces.cases hother with ⟨hlocation, hbytes⟩ | hbefore
        · cases hbytes
          exact Or.inr ⟨id, hallowed,
            location_file_iff.mpr ⟨parent, hkeeps.leads hparent, hshort, hlocation⟩⟩
        · exact Or.inl hbefore
      · intro other hother
        rcases hplaces.cases hother with ⟨_, hkind⟩ | hbefore
        · cases hkind
        · exact Or.inl hbefore

/-- Steps add nothing in any other place. -/
theorem Changes.confined (h : Changes directory allowed before after) :
    Confined directory allowed before after := by
  induction h with
  | refl => exact ⟨fun _ _ h => Or.inl h, fun _ h => Or.inl h⟩
  | tail _ hstep ih =>
      have hkeeps := hstep.keeps
      refine ⟨?_, ?_⟩
      · intro location bytes hafter
        rcases hstep.confined.file location bytes hafter with hmiddle | hnew
        · rcases ih.file location bytes hmiddle with hbefore | ⟨id, hallowed, hlocation⟩
          · exact Or.inl hbefore
          · exact Or.inr ⟨id, hallowed, hkeeps.location_file hlocation⟩
        · exact Or.inr hnew
      · intro location hafter
        rcases hstep.confined.directory location hafter with hmiddle | hnew
        · rcases ih.directory location hmiddle with hbefore | ⟨part, hpart, hleads⟩
          · exact Or.inl hbefore
          · exact Or.inr ⟨part, hpart, hkeeps.leads hleads⟩
        · exact Or.inr hnew

end PluginDescriptor.FileTree
