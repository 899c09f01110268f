import PluginDescriptor.Proofs.FileTree.Changes

/-!
# The shape of a file tree

Two trees of the same shape have directories and files at the same locations, whatever the files
contain. Where names lead depends on the directories alone, so part of what is said here is said of
trees with the same directories. Creating directories and putting a file in place ask for nothing
more than the shape: in two trees of the same shape they fail in the same way, or succeed in both
and leave trees of the same shape, even if the two files differ. `Descriptor.write_same_shape` says
so of a whole write.
-/

namespace PluginDescriptor

namespace FileTree

/-- Two trees have the same directories. -/
structure SameDirectories (tree other : FileTree) : Prop where
  working : other.working = tree.working
  directory (location : Location) :
    other.entryAt? location = some .directory ↔ tree.entryAt? location = some .directory

/-- Two trees have the same shape: the same locations hold directories, and the same hold files. -/
structure SameShape (tree other : FileTree) : Prop extends SameDirectories tree other where
  free (location : Location) :
    other.entryAt? location = none ↔ tree.entryAt? location = none

/-- Two attempts to change a tree fail in the same way, or succeed and leave the same shape. -/
def SameOutcome : Except FileError FileTree → Except FileError FileTree → Prop
  | .ok made, .ok other => SameShape made other
  | .error error, .error other => other = error
  | _, _ => False

variable {tree other made otherMade : FileTree} {path : Path}

/-- Either both attempts fail in the same way or both succeed. -/
theorem SameOutcome.cases {first second : Except FileError FileTree}
    (h : SameOutcome first second) :
    (∃ error, first = .error error ∧ second = .error error) ∨
      ∃ made otherMade, first = .ok made ∧ second = .ok otherMade ∧ SameShape made otherMade := by
  cases first with
  | error error =>
      cases second with
      | error otherError =>
          obtain rfl : otherError = error := h
          exact Or.inl ⟨otherError, rfl, rfl⟩
      | ok otherMade => exact h.elim
  | ok made =>
      cases second with
      | error otherError => exact h.elim
      | ok otherMade => exact Or.inr ⟨made, otherMade, rfl, rfl, h⟩

/-- Every tree has its own directories. -/
theorem SameDirectories.refl (tree : FileTree) : SameDirectories tree tree :=
  ⟨rfl, fun _ => Iff.rfl⟩

/-- What has the directories of a second tree has those of a first, if the two have the same. -/
theorem SameDirectories.trans (hfirst : SameDirectories tree other)
    (hsecond : SameDirectories other made) : SameDirectories tree made :=
  ⟨hsecond.working.trans hfirst.working,
    fun location => (hsecond.directory location).trans (hfirst.directory location)⟩

/-- It does not matter which of two trees with the same directories comes first. -/
theorem SameDirectories.symm (h : SameDirectories tree other) : SameDirectories other tree :=
  ⟨h.working.symm, fun location => (h.directory location).symm⟩

/-- Every tree has its own shape. -/
theorem SameShape.refl (tree : FileTree) : SameShape tree tree :=
  ⟨.refl tree, fun _ => Iff.rfl⟩

/-- Placing entries of the same kind at the same location keeps the shape the same. -/
theorem SameShape.place (h : SameShape tree other) {name : String} {parent : tree.Directory}
    {otherParent : other.Directory} {entry otherEntry : Entry}
    {keeps : tree.entryAt? (name :: parent.location) = some .directory → entry = .directory}
    {otherKeeps : other.entryAt? (name :: otherParent.location) = some .directory →
      otherEntry = .directory}
    (hsame : otherParent.location = parent.location)
    (hkind : otherEntry = .directory ↔ entry = .directory) :
    SameShape (tree.place name parent entry keeps)
      (other.place name otherParent otherEntry otherKeeps) := by
  refine ⟨⟨h.working, ?_⟩, ?_⟩
  · intro location
    rw [entryAt?_place, entryAt?_place, hsame]
    split
    · simp [hkind]
    · exact h.directory location
  · intro location
    rw [entryAt?_place, entryAt?_place, hsame]
    split
    · simp
    · exact h.free location

/-! ## Where names lead -/

/-- A path starts at the same location. -/
theorem SameDirectories.start (h : SameDirectories tree other) (path : Path) :
    (other.start path).location = (tree.start path).location := by
  rw [start_location, start_location, h.working]

/-- A path leads to the same place. -/
theorem SameDirectories.leads_iff (h : SameDirectories tree other) {path : Path} {there : Location}
    {trail : List String} : Leads other (other.start path).location trail there ↔
      Leads tree (tree.start path).location trail there := by
  rw [h.start]
  exact ⟨fun hleads => hleads.mono fun location => (h.directory location).mp,
    fun hleads => hleads.mono fun location => (h.directory location).mpr⟩

/-- A path to the file of an id stands for the same location. -/
theorem SameDirectories.location_file (h : SameDirectories tree other) {directory : Path}
    {id : PluginId} :
    other.location? (directory.join ⟨id.fileName⟩) =
      tree.location? (directory.join ⟨id.fileName⟩) := by
  apply Option.ext
  intro location
  simp only [location_file_iff, h.leads_iff]

/-- Entering a directory leads to the same place or fails in the same way. -/
theorem SameShape.enter (h : SameShape tree other) {here : tree.Directory}
    {there : other.Directory} (hsame : there.location = here.location) (name : String) :
    (other.enter there name).map Directory.location =
      (tree.enter here name).map Directory.location := by
  obtain ⟨location, _⟩ := here
  obtain ⟨place, _⟩ := there
  obtain rfl : location = place := hsame.symm
  have hdirectory := h.directory (name :: location)
  have hfree := h.free (name :: location)
  unfold FileTree.enter
  split
  · rfl
  · -- What stands at the name is nothing, a file or a directory, and it is the same in both.
    split <;> split <;> simp_all [Except.map]

/-- A walk ends at the same place or fails in the same way. -/
theorem SameShape.walk (h : SameShape tree other) {here : tree.Directory}
    {there : other.Directory} (hsame : there.location = here.location) (trail : List String) :
    (other.walk there trail).map Directory.location =
      (tree.walk here trail).map Directory.location := by
  induction trail generalizing here there with
  | nil => exact congrArg Except.ok hsame
  | cons name rest ih =>
      unfold FileTree.walk
      split
      · exact ih hsame
      · split
        · exact ih (by rw [outer_location, outer_location, hsame])
        · have henter := h.enter hsame name
          cases hother : other.enter there name with
          | error error =>
              cases htree : tree.enter here name with
              | error error => rwa [hother, htree] at henter
              | ok next => rw [hother, htree] at henter; cases henter
          | ok otherNext =>
              cases htree : tree.enter here name with
              | error error => rw [hother, htree] at henter; cases henter
              | ok next =>
                  rw [hother, htree] at henter
                  exact ih (Except.ok.inj henter)

/-- The names along a path lead to directories at the same location or cannot be followed for the
same reason. -/
theorem SameShape.walk_cases (h : SameShape tree other) (path : Path) (trail : List String) :
    (∃ error, tree.walk (tree.start path) trail = .error error ∧
      other.walk (other.start path) trail = .error error) ∨
    ∃ parent otherParent, tree.walk (tree.start path) trail = .ok parent ∧
      other.walk (other.start path) trail = .ok otherParent ∧
      otherParent.location = parent.location := by
  have hwalk := h.walk (h.start path) trail
  cases htree : tree.walk (tree.start path) trail with
  | error error =>
      cases hother : other.walk (other.start path) trail with
      | error otherError =>
          rw [hother, htree] at hwalk
          exact Or.inl ⟨error, rfl, congrArg Except.error (Except.error.inj hwalk)⟩
      | ok otherParent => rw [hother, htree] at hwalk; cases hwalk
  | ok parent =>
      cases hother : other.walk (other.start path) trail with
      | error otherError => rw [hother, htree] at hwalk; cases hwalk
      | ok otherParent =>
          rw [hother, htree] at hwalk
          exact Or.inr ⟨parent, otherParent, rfl, rfl, Except.ok.inj hwalk⟩

/-- Names that lead to a directory are found to end at one. -/
theorem find_of_leads {here : tree.Directory} {there : Location} {trail : List String}
    (h : Leads tree here.location trail there) : tree.find here trail = .ok .directory := by
  have hwalk : tree.walk here trail = .ok ⟨there, h.directory here.isDirectory⟩ :=
    walk_ok_iff.mpr h
  rcases trail.eq_nil_or_concat' with rfl | ⟨names, last, rfl⟩
  · rfl
  rw [find_concat]
  by_cases hdots : (last = "." || last = "..") = true
  · rw [if_pos hdots, hwalk]
    rfl
  · rw [if_neg hdots]
    obtain ⟨parent, hnames, hend⟩ := leads_append_iff.mp h
    simp only [leads_cons_iff, leads_nil_iff, ordinary_of_not_dots hdots, false_and, false_or]
      at hend
    obtain ⟨_, hshort, hentry, _⟩ := hend
    have hparent : tree.walk here names = .ok ⟨parent, hnames.directory here.isDirectory⟩ :=
      walk_ok_iff.mpr hnames
    rw [hparent]
    dsimp only
    rw [if_neg (by omega), hentry]

/-- A directory is found in one tree if and only if one is found in the other. -/
theorem SameDirectories.find_directory_iff (h : SameDirectories tree other) (path : Path)
    (trail : List String) :
    other.find (other.start path) trail = .ok .directory ↔
      tree.find (tree.start path) trail = .ok .directory := by
  constructor
  · intro hfound
    obtain ⟨there, hleads⟩ := find_directory hfound
    exact find_of_leads (h.leads_iff.mp hleads)
  · intro hfound
    obtain ⟨there, hleads⟩ := find_directory hfound
    exact find_of_leads (h.leads_iff.mpr hleads)

/-! ## What is created -/

/-- Creating one directory. -/
theorem SameShape.makeDirectory (h : SameShape tree other) (path : Path) (trail : List String) :
    SameOutcome (tree.makeDirectory path trail) (other.makeDirectory path trail) := by
  rcases trail.eq_nil_or_concat' with rfl | ⟨names, last, rfl⟩
  · exact rfl
  rw [make_directory_concat, make_directory_concat]
  rcases h.walk_cases path names with
    ⟨error, htree, hother⟩ | ⟨parent, otherParent, htree, hother, hsame⟩
  · rw [htree, hother]
    exact rfl
  rw [htree, hother]
  dsimp only
  by_cases hdots : (last = "." || last = "..") = true
  · rw [if_pos hdots, if_pos hdots]
    exact rfl
  by_cases hlong : longestName < last.utf8ByteSize
  · rw [if_neg hdots, if_neg hdots, if_pos hlong, if_pos hlong]
    exact rfl
  rw [if_neg hdots, if_neg hdots, if_neg hlong, if_neg hlong]
  by_cases hfree : tree.entryAt? (last :: parent.location) = none
  · have hotherFree : other.entryAt? (last :: otherParent.location) = none := by
      rw [hsame]
      exact (h.free _).mpr hfree
    simp only [hfree, hotherFree]
    exact h.place hsame Iff.rfl
  · have hotherTaken : other.entryAt? (last :: otherParent.location) ≠ none := by
      rw [hsame, ne_eq, h.free]
      exact hfree
    obtain ⟨entry, hentry⟩ := Option.ne_none_iff_exists'.mp hfree
    obtain ⟨otherEntry, hotherEntry⟩ := Option.ne_none_iff_exists'.mp hotherTaken
    simp only [hentry, hotherEntry]
    exact rfl

/-- Ensuring one directory. -/
theorem SameShape.ensureDirectory (h : SameShape tree other) (path : Path) (trail : List String) :
    SameOutcome (tree.ensureDirectory path trail) (other.ensureDirectory path trail) := by
  have hfind := h.find_directory_iff path trail
  rcases (h.makeDirectory path trail).cases with
    ⟨error, htree, hother⟩ | ⟨made, otherMade, htree, hother, hmade⟩
  · by_cases hfound : tree.find (tree.start path) trail = .ok .directory
    · rw [ensure_directory_of_found htree hfound,
        ensure_directory_of_found hother (hfind.mpr hfound)]
      exact h
    · rw [ensure_directory_of_not_found htree hfound,
        ensure_directory_of_not_found hother (mt hfind.mp hfound)]
      exact rfl
  · rw [FileTree.ensureDirectory, FileTree.ensureDirectory, htree, hother]
    exact hmade

/-- Creating directories along trails. -/
theorem SameShape.ensureTrails (h : SameShape tree other) (path : Path)
    (trails : List (List String)) :
    (other.ensureTrails path trails).1 = (tree.ensureTrails path trails).1 ∧
      SameShape (tree.ensureTrails path trails).2 (other.ensureTrails path trails).2 := by
  induction trails with
  | nil => exact ⟨rfl, h⟩
  | cons trail shorter ih =>
      rcases (h.ensureDirectory path trail).cases with
        ⟨error, htree, hother⟩ | ⟨made, otherMade, htree, hother, hmade⟩
      · by_cases hmissing : error = .notFound
        case neg =>
          rw [ensure_trails_of_failed htree hmissing, ensure_trails_of_failed hother hmissing]
          exact ⟨rfl, h⟩
        subst hmissing
        rw [ensure_trails_of_missing htree, ensure_trails_of_missing hother]
        cases hrest : tree.ensureTrails path shorter with
        | mk outcome made =>
            cases hotherRest : other.ensureTrails path shorter with
            | mk otherOutcome otherMade =>
                rw [hrest, hotherRest] at ih
                obtain ⟨houtcome, hmade⟩ := ih
                obtain rfl : otherOutcome = outcome := houtcome
                cases otherOutcome with
                | error error => exact ⟨rfl, hmade⟩
                | ok =>
                    -- Now that the directories above are there, the trail is tried once more.
                    dsimp only
                    rcases (hmade.ensureDirectory path trail).cases with
                      ⟨error, htree, hother⟩ | ⟨complete, otherComplete, htree, hother, hlast⟩
                    · rw [htree, hother]
                      exact ⟨rfl, hmade⟩
                    · rw [htree, hother]
                      exact ⟨rfl, hlast⟩
      · rw [ensure_trails_of_ensured htree, ensure_trails_of_ensured hother]
        exact ⟨rfl, hmade⟩

/-- Creating a directory and all directories above it. -/
theorem SameShape.createDirectories (h : SameShape tree other) (path : Path) :
    (other.createDirectories path).1 = (tree.createDirectories path).1 ∧
      SameShape (tree.createDirectories path).2 (other.createDirectories path).2 := by
  unfold FileTree.createDirectories
  split
  · exact ⟨rfl, h⟩
  · exact h.ensureTrails path path.creationTrails

/-- Putting files in the same place, which need not be the same. -/
theorem SameShape.replaceFile (h : SameShape tree other) (directory : Path) (name : String)
    (bytes otherBytes : List UInt8) :
    SameOutcome (tree.replaceFile directory name bytes)
      (other.replaceFile directory name otherBytes) := by
  unfold FileTree.replaceFile
  split
  · exact rfl
  rcases h.walk_cases directory directory.trail with
    ⟨error, htree, hother⟩ | ⟨parent, otherParent, htree, hother, hsame⟩
  · rw [htree, hother]
    exact rfl
  rw [htree, hother]
  dsimp only
  by_cases hlong : longestName < name.utf8ByteSize
  · rw [if_pos hlong, if_pos hlong]
    exact rfl
  rw [if_neg hlong, if_neg hlong]
  have hdirectory := h.directory (name :: parent.location)
  rw [← hsame] at hdirectory
  by_cases htaken : tree.entryAt? (name :: parent.location) = some .directory
  · have hotherTaken : other.entryAt? (name :: otherParent.location) = some .directory :=
      hdirectory.mpr (hsame ▸ htaken)
    rw [dif_pos htaken, dif_pos hotherTaken]
    exact rfl
  · have hotherFree : other.entryAt? (name :: otherParent.location) ≠ some .directory :=
      fun hotherTaken => htaken (hsame ▸ hdirectory.mp hotherTaken)
    rw [dif_neg htaken, dif_neg hotherFree]
    exact h.place hsame (by simp)

end FileTree

/-- Writing a descriptor comes to the same, whatever the descriptor says. -/
theorem Descriptor.write_same_shape {tree other : FileTree} (h : tree.SameShape other)
    (directory : Path) (id : PluginId) (bytes otherBytes : List UInt8) :
    (write other directory id otherBytes).1 = (write tree directory id bytes).1 ∧
      (write tree directory id bytes).2.SameShape (write other directory id otherBytes).2 := by
  have hcreate := h.createDirectories directory
  unfold write
  cases hcreated : tree.createDirectories directory with
  | mk outcome made =>
      cases hotherCreated : other.createDirectories directory with
      | mk otherOutcome otherMade =>
          rw [hcreated, hotherCreated] at hcreate
          obtain ⟨houtcome, hmade⟩ := hcreate
          obtain rfl : otherOutcome = outcome := houtcome
          cases otherOutcome with
          | error cause => exact ⟨rfl, hmade⟩
          | ok =>
              dsimp only
              rcases (hmade.replaceFile directory id.fileName bytes otherBytes).cases with
                ⟨error, hreplaced, hotherReplaced⟩ |
                ⟨written, otherWritten, hreplaced, hotherReplaced, hwritten⟩
              · rw [hreplaced, hotherReplaced]
                exact ⟨rfl, hmade⟩
              · rw [hreplaced, hotherReplaced]
                exact ⟨rfl, hwritten⟩

end PluginDescriptor
