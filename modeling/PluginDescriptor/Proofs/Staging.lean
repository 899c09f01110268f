import PluginDescriptor.Proofs.Descriptors

/-!
# Writing a descriptor stage by stage

`Descriptor.write` puts a descriptor in place at once. Here the same write is made one request at a
time, on a disk that may refuse any of them: directories are created, a draft is opened under a name
that is free, it is filled byte by byte, flushed, synced and moved over its target, and it is
discarded where one of these fails. The invariant is that the tree is what it was, with the draft
where nothing stood before. So what is left is the tree as it was or the tree with the descriptor in
place, and a draft only if that it be discarded was refused: `Disk.persist_cases`. A whole write is
`Disk.write_cases`.
-/

namespace PluginDescriptor

/-- The name of a draft: `.tmp` and six letters or digits. -/
structure DraftName where
  random : List Char
  length : random.length = 6
  alphanumeric : random.all Char.isAlphanum = true

/-- The file name of a draft. -/
def DraftName.text (name : DraftName) : String :=
  String.ofList ('.' :: 't' :: 'm' :: 'p' :: name.random)

namespace FileTree

/-- Creates an empty file in a directory, where nothing may stand, and tells where it is. -/
def createFile (tree : FileTree) (directory : Path) (name : String) :
    Except FileError (Location × FileTree) :=
  match refusal? (directory.join ⟨name⟩) with
  | some error => .error error
  | none =>
    match tree.walk (tree.start directory) directory.trail with
    | .error error => .error error
    | .ok parent =>
      if longestName < name.utf8ByteSize then .error .nameTooLong
      else
        match h : tree.entryAt? (name :: parent.location) with
        | some _ => .error .alreadyExists
        | none =>
          .ok (name :: parent.location,
            tree.place name parent (.file []) fun found => by rw [h] at found; cases found)

/-- The tree with one more byte at the end of the file at a location. -/
def appendByte (tree : FileTree) (location : Location) (byte : UInt8) : FileTree :=
  match location with
  | [] => tree
  | name :: parent =>
    match h : tree.entryAt? (name :: parent) with
    | some (.file bytes) =>
      tree.place name ⟨parent, tree.parent_directory name parent _ h⟩ (.file (bytes ++ [byte]))
        fun found => by rw [h] at found; cases found
    | _ => tree

/-- A directory is still there after a file has been erased. -/
theorem directory_of_erased {tree : FileTree} {location other : Location} {bytes : List UInt8}
    (h : tree.entryAt? location = some (.file bytes))
    (hother : tree.entries[other]? = some .directory) :
    (tree.entries.erase location)[other]? = some .directory := by
  rw [Std.ExtTreeMap.getElem?_erase, if_neg]
  · exact hother
  · rw [Std.compare_eq_iff_eq]
    rintro rfl
    rw [entryAt?, hother] at h
    cases h

/-- The tree without the file at a location. -/
def removeFile (tree : FileTree) (location : Location) : FileTree :=
  match h : tree.entryAt? location with
  | some (.file _) =>
    { entries := tree.entries.erase location
      working := tree.working
      top_directory := directory_of_erased h tree.top_directory
      working_directory := directory_of_erased h tree.working_directory
      parent_directory := by
        intro name parent entry hentry
        rw [Std.ExtTreeMap.getElem?_erase] at hentry
        split at hentry
        · cases hentry
        · exact directory_of_erased h (tree.parent_directory name parent entry hentry) }
  | _ => tree

/-- Moves the file at a location into a directory, over a file that may be there. -/
def moveFile (tree : FileTree) (location : Location) (directory : Path) (name : String) :
    Except FileError FileTree :=
  match tree.entryAt? location with
  | some (.file bytes) => (tree.removeFile location).replaceFile directory name bytes
  | _ => .error .notFound

end FileTree

/-- What a disk is asked to do. -/
inductive Request where
  /-- Create a directory. -/
  | createDirectory
  /-- Look up what stands at the end of some names. -/
  | lookUp
  /-- Create an empty draft. -/
  | createDraft
  /-- Append a byte to a draft. -/
  | fill
  /-- Flush what has been appended. -/
  | flush
  /-- Sync a draft with the device. -/
  | sync
  /-- Move a draft over its target. -/
  | move
  /-- Remove a draft. -/
  | discard
deriving DecidableEq

/-- A file tree and what its next requests are refused with, if they are: `refusals count request`
is what is answered to `request` after so many others. -/
structure Disk where
  tree : FileTree
  refusals : Nat → Request → Option FileError

namespace Disk

variable {α : Type}

/-- The disk after one request that has left `tree`. -/
def next (disk : Disk) (tree : FileTree) : Disk :=
  ⟨tree, fun count => disk.refusals (count + 1)⟩

/-- Makes one request. It is refused, or does what `operation` does. -/
def request (disk : Disk) (asked : Request)
    (operation : FileTree → Except FileError (α × FileTree)) : Except FileError α × Disk :=
  match disk.refusals 0 asked with
  | some error => (.error error, disk.next disk.tree)
  | none =>
    match operation disk.tree with
    | .error error => (.error error, disk.next disk.tree)
    | .ok (result, tree) => (.ok result, disk.next tree)

/-- Requests a change of the tree. -/
def change (disk : Disk) (asked : Request) (operation : FileTree → Except FileError FileTree) :
    Except FileError Unit × Disk :=
  disk.request asked fun tree => (operation tree).map ((), ·)

/-- Requests one directory. -/
def makeDirectory (disk : Disk) (path : Path) (trail : List String) :
    Except FileError Unit × Disk :=
  disk.change .createDirectory (·.makeDirectory path trail)

/-- Is content with a directory that could not be created if it is found to be there. -/
def acceptDirectory (disk : Disk) (path : Path) (trail : List String) (error : FileError) :
    Except FileError Unit × Disk :=
  let found := disk.request .lookUp fun tree =>
    (tree.find (tree.start path) trail).map (·, tree)
  match found with
  | (.ok .directory, left) => (.ok (), left)
  | (_, left) => (.error error, left)

/-- Creates a directory, and is content with one that is already there. -/
def ensureDirectory (disk : Disk) (path : Path) (trail : List String) :
    Except FileError Unit × Disk :=
  match disk.makeDirectory path trail with
  | (.ok (), made) => (.ok (), made)
  | (.error error, left) => left.acceptDirectory path trail error

/-- Creates the directory of the first trail, after those of the remaining trails if one of them is
missing. -/
def ensureTrails (path : Path) : List (List String) → Disk → Except FileError Unit × Disk
  | [], disk => (.ok (), disk)
  | trail :: shorter, disk =>
    match disk.makeDirectory path trail with
    | (.ok (), made) => (.ok (), made)
    | (.error .notFound, left) =>
      match ensureTrails path shorter left with
      | (.error error, made) => (.error error, made)
      | (.ok (), made) => made.ensureDirectory path trail
    | (.error error, left) => left.acceptDirectory path trail error

/-- Creates a directory and every missing directory above it. -/
def createDirectories (disk : Disk) (path : Path) : Except FileError Unit × Disk :=
  match FileTree.refusal? path with
  | some error => (.error error, disk)
  | none => disk.ensureTrails path path.creationTrails

/-- Opens a draft in a directory under the first of some names that is free. -/
def openDraft (directory : Path) : List DraftName → Disk → Except FileError Location × Disk
  | [], disk => (.error .alreadyExists, disk)
  | name :: others, disk =>
    match disk.request .createDraft (·.createFile directory name.text) with
    | (.ok draft, opened) => (.ok draft, opened)
    | (.error .alreadyExists, left) => openDraft directory others left
    | (.error error, left) => (.error error, left)

/-- Requests that a file be flushed or synced, which changes nothing in the tree. -/
def settle (disk : Disk) (asked : Request) : Except FileError Unit × Disk :=
  disk.change asked .ok

/-- Fills a draft with bytes, flushes and syncs it, and moves it over its target. -/
def complete (draft : Location) (directory : Path) (name : String) :
    List UInt8 → Disk → Except FileError Unit × Disk
  | byte :: rest, disk =>
    match disk.change .fill fun tree => .ok (tree.appendByte draft byte) with
    | (.error error, left) => (.error error, left)
    | (.ok (), filled) => complete draft directory name rest filled
  | [], disk =>
    match disk.settle .flush with
    | (.error error, left) => (.error error, left)
    | (.ok (), flushed) =>
      match flushed.settle .sync with
      | (.error error, left) => (.error error, left)
      | (.ok (), synced) => synced.change .move (·.moveFile draft directory name)

/-- Requests that a draft be removed. Nobody is told if that is refused. -/
def discard (draft : Location) (disk : Disk) : Disk :=
  (disk.change .discard fun tree => .ok (tree.removeFile draft)).2

/-- Puts a file in place by way of a draft, which is discarded if it cannot be completed. -/
def persist (disk : Disk) (drafts : List DraftName) (directory : Path) (name : String)
    (bytes : List UInt8) : Except FileError Unit × Disk :=
  match disk.openDraft directory drafts with
  | (.error error, left) => (.error error, left)
  | (.ok draft, opened) =>
    match opened.complete draft directory name bytes with
    | (.ok (), completed) => (.ok (), completed)
    | (.error error, left) => (.error error, left.discard draft)

/-- Writes a descriptor's bytes to the file of its id, stage by stage. -/
def write (disk : Disk) (drafts : List DraftName) (directory : Path) (id : PluginId)
    (bytes : List UInt8) : Except DescriptorError Path × Disk :=
  match disk.createDirectories directory with
  | (.error cause, left) => (.error (.createDirectory directory cause), left)
  | (.ok (), ready) =>
    let target := directory.join ⟨id.fileName⟩
    match ready.persist drafts directory id.fileName bytes with
    | (.error cause, left) => (.error (.write target cause), left)
    | (.ok (), written) => (.ok target, written)

end Disk

/-! ## The file of a draft -/

namespace FileTree

variable {base tree made : FileTree} {draft : Location} {content : List UInt8}
  {directory : Path} {name : String}

/-- A file is created where nothing stood, and it is empty. -/
theorem create_file_ok (h : tree.createFile directory name = .ok (draft, made)) :
    tree.entryAt? draft = none ∧ Places tree made draft (.file []) := by
  unfold createFile at h
  cases hrefusal : refusal? (directory.join ⟨name⟩) with
  | some error =>
      rw [hrefusal] at h
      cases h
  | none =>
      rw [hrefusal] at h
      cases hwalk : tree.walk (tree.start directory) directory.trail with
      | error error =>
          rw [hwalk] at h
          cases h
      | ok parent =>
          rw [hwalk] at h
          dsimp only at h
          by_cases hlong : longestName < name.utf8ByteSize
          · rw [if_pos hlong] at h
            cases h
          rw [if_neg hlong] at h
          split at h
          case h_1 entry htaken => cases h
          case h_2 hfree =>
            cases h
            exact ⟨hfree, rfl, entryAt?_place _ _ _ _ _⟩

/-- A draft grows by the byte that is appended to it. -/
theorem append_byte_places (h : Places base tree draft (.file content)) (byte : UInt8) :
    Places base (tree.appendByte draft byte) draft (.file (content ++ [byte])) := by
  have hdraft : tree.entryAt? draft = some (.file content) := by rw [h.entryAt, if_pos rfl]
  cases draft with
  | nil => exact absurd (tree.top_directory.symm.trans hdraft) (by simp)
  | cons name parent =>
      unfold appendByte
      dsimp only
      split
      case h_1 bytes hbytes =>
        obtain rfl : content = bytes := by simpa [hdraft] using hbytes
        refine ⟨h.working, ?_⟩
        intro other
        rw [entryAt?_place]
        by_cases hsame : other = name :: parent
        · rw [if_pos hsame, if_pos hsame]
        · rw [if_neg hsame, if_neg hsame, h.entryAt, if_neg hsame]
      case h_2 hother => exact absurd hdraft (hother content)

/-- Without its draft a tree is what it was. -/
theorem remove_file_places (h : Places base tree draft (.file content))
    (hfree : base.entryAt? draft = none) : tree.removeFile draft = base := by
  have hdraft : tree.entryAt? draft = some (.file content) := by rw [h.entryAt, if_pos rfl]
  unfold removeFile
  split
  case h_1 bytes hbytes =>
    refine eq_of_entryAt?_eq ?_ h.working
    intro location
    show (tree.entries.erase draft)[location]? = _
    rw [Std.ExtTreeMap.getElem?_erase]
    by_cases hsame : compare draft location = .eq
    · rw [if_pos hsame, ← Std.compare_eq_iff_eq.mp hsame, hfree]
    · have hother : location ≠ draft := by
        rintro rfl
        exact hsame Std.compare_self
      have hentry := h.entryAt location
      rw [if_neg hother] at hentry
      rw [if_neg hsame]
      exact hentry
  case h_2 hother => exact absurd hdraft (hother content)

/-- Moving a draft comes to putting its content in place, without any draft. -/
theorem move_file_places (h : Places base tree draft (.file content))
    (hfree : base.entryAt? draft = none) :
    tree.moveFile draft directory name = base.replaceFile directory name content := by
  have hdraft : tree.entryAt? draft = some (.file content) := by rw [h.entryAt, if_pos rfl]
  simp only [moveFile, hdraft, remove_file_places h hfree]

end FileTree

namespace Disk

open FileTree

variable {α : Type} {disk left later : Disk} {base : FileTree} {draft : Location}
  {directory target : Path} {name : String} {drafts : List DraftName} {id : PluginId}
  {bytes : List UInt8} {asked : Request}

/-! ## What is refused -/

/-- The disk is going to refuse a request. -/
def Refuses (disk : Disk) : Prop :=
  ∃ count asked, disk.refusals count asked ≠ none

/-- The disk never refuses to remove a draft. -/
def Discards (disk : Disk) : Prop :=
  ∀ count, disk.refusals count .discard = none

/-- `Later disk left` says that `left` is what `disk` has become after some requests, whatever they
have done to the tree. -/
def Later (disk left : Disk) : Prop :=
  ∃ spent, ∀ count, left.refusals count = disk.refusals (count + spent)

/-- What is refused now is refused at some time. -/
theorem refuses_of_now {error : FileError} (h : disk.refusals 0 asked = some error) :
    disk.Refuses :=
  ⟨0, asked, by simp [h]⟩

/-- A disk is later than before one request. -/
theorem later_next (disk : Disk) (tree : FileTree) : Later disk (disk.next tree) :=
  ⟨1, fun _ => rfl⟩

/-- A disk is no other than itself before any request. -/
theorem Later.refl (disk : Disk) : Later disk disk :=
  ⟨0, fun _ => rfl⟩

/-- What is later than something later is later. -/
theorem Later.trans (hfirst : Later disk left) (hsecond : Later left later) :
    Later disk later := by
  obtain ⟨first, hfirst⟩ := hfirst
  obtain ⟨second, hsecond⟩ := hsecond
  refine ⟨second + first, ?_⟩
  intro count
  rw [hsecond, hfirst, Nat.add_assoc]

/-- What is refused later is refused at some time. -/
theorem Later.refuses (h : Later disk left) (hrefuses : left.Refuses) : disk.Refuses := by
  obtain ⟨spent, hsame⟩ := h
  obtain ⟨count, asked, hrefused⟩ := hrefuses
  rw [hsame] at hrefused
  exact ⟨count + spent, asked, hrefused⟩

/-- What is never refused is not refused later. -/
theorem Later.discards (h : Later disk left) (hdiscards : disk.Discards) : left.Discards := by
  obtain ⟨spent, hsame⟩ := h
  intro count
  rw [hsame]
  exact hdiscards (count + spent)

/-- A request fails because it is refused or because the operation fails, and leaves the tree as it
is; otherwise the operation succeeds. -/
theorem request_cases (disk : Disk) (asked : Request)
    (operation : FileTree → Except FileError (α × FileTree)) :
    (∃ error, disk.request asked operation = (.error error, disk.next disk.tree) ∧
      (disk.refusals 0 asked = some error ∨ operation disk.tree = .error error)) ∨
    ∃ result tree, disk.request asked operation = (.ok result, disk.next tree) ∧
      operation disk.tree = .ok (result, tree) := by
  unfold request
  cases hrefused : disk.refusals 0 asked with
  | some error => exact Or.inl ⟨error, rfl, Or.inl rfl⟩
  | none =>
      cases hdone : operation disk.tree with
      | error error => exact Or.inl ⟨error, rfl, Or.inr rfl⟩
      | ok done => exact Or.inr ⟨done.1, done.2, rfl, rfl⟩

/-- A requested change is not made or is the one that the operation makes. -/
theorem change_cases (disk : Disk) (asked : Request)
    (operation : FileTree → Except FileError FileTree) :
    (∃ error, disk.change asked operation = (.error error, disk.next disk.tree) ∧
      (disk.refusals 0 asked = some error ∨ operation disk.tree = .error error)) ∨
    ∃ made, disk.change asked operation = (.ok (), disk.next made) ∧
      operation disk.tree = .ok made := by
  unfold change request
  cases hrefused : disk.refusals 0 asked with
  | some error => exact Or.inl ⟨error, rfl, Or.inl rfl⟩
  | none =>
      dsimp only
      cases operation disk.tree with
      | error error => exact Or.inl ⟨error, rfl, Or.inr rfl⟩
      | ok made => exact Or.inr ⟨made, rfl, rfl⟩

/-! ## Directories -/

/-- What requests for a directory come to: it is later, and all that is new is directories on the
way. -/
structure Proceeds (directory : Path) (disk left : Disk) : Prop where
  later : Later disk left
  changes : Changes directory noFile disk.tree left.tree

/-- No request has been made yet. -/
theorem Proceeds.refl (directory : Path) (disk : Disk) : Proceeds directory disk disk :=
  ⟨.refl disk, .refl⟩

/-- Requests can be made one after the other. -/
theorem Proceeds.trans (hfirst : Proceeds directory disk left)
    (hsecond : Proceeds directory left later) : Proceeds directory disk later :=
  ⟨hfirst.later.trans hsecond.later, hfirst.changes.trans hsecond.changes⟩

/-- A requested directory on the way is at most one step. -/
theorem make_directory_proceeds {trail : List String} (htrail : trail ∈ directory.creationTrails) :
    Proceeds directory disk (disk.makeDirectory directory trail).2 := by
  unfold makeDirectory
  rcases disk.change_cases .createDirectory (·.makeDirectory directory trail) with
    ⟨error, hchange, _⟩ | ⟨made, hchange, hmade⟩
  · rw [hchange]
    exact ⟨later_next _ _, .refl⟩
  · rw [hchange]
    exact ⟨later_next _ _, .single (.directory _ _ _ htrail hmade)⟩

/-- Looking for a directory is one request, and changes nothing. -/
theorem accept_directory_left (disk : Disk) (path : Path) (trail : List String)
    (error : FileError) :
    (disk.acceptDirectory path trail error).2 = disk.next disk.tree := by
  unfold acceptDirectory
  rcases disk.request_cases .lookUp fun tree =>
      (tree.find (tree.start path) trail).map (·, tree) with
    ⟨cause, hrequest, _⟩ | ⟨entry, tree, hrequest, hfound⟩
  · rw [hrequest]
  · rw [hrequest]
    cases hfind : disk.tree.find (disk.tree.start path) trail with
    | error cause =>
        rw [hfind] at hfound
        cases hfound
    | ok found =>
        rw [hfind] at hfound
        cases hfound
        cases entry <;> rfl

/-- Looking for a directory changes nothing. -/
theorem accept_directory_proceeds (directory : Path) (disk : Disk) (path : Path)
    (trail : List String) (error : FileError) :
    Proceeds directory disk (disk.acceptDirectory path trail error).2 := by
  rw [accept_directory_left]
  exact ⟨later_next _ _, .refl⟩

/-- Ensuring a directory on the way is at most one step. -/
theorem ensure_directory_proceeds {trail : List String}
    (htrail : trail ∈ directory.creationTrails) :
    Proceeds directory disk (disk.ensureDirectory directory trail).2 := by
  have hfirst : Proceeds directory disk (disk.makeDirectory directory trail).2 :=
    make_directory_proceeds htrail
  unfold ensureDirectory
  cases hmake : disk.makeDirectory directory trail with
  | mk outcome made =>
      rw [hmake] at hfirst
      cases outcome with
      | ok => exact hfirst
      | error error => exact hfirst.trans (accept_directory_proceeds _ _ _ _ _)

/-- Creating directories along some of the trails takes steps on the way only, also where requests
are refused. -/
theorem ensure_trails_proceeds {trails : List (List String)}
    (htrails : trails ⊆ directory.creationTrails) :
    Proceeds directory disk (disk.ensureTrails directory trails).2 := by
  induction trails generalizing disk with
  | nil => exact .refl _ _
  | cons trail shorter ih =>
      rw [List.cons_subset] at htrails
      obtain ⟨htrail, hshorter⟩ := htrails
      have hfirst : Proceeds directory disk (disk.makeDirectory directory trail).2 :=
        make_directory_proceeds htrail
      unfold ensureTrails
      split
      case h_1 made hmade =>
        rw [hmade] at hfirst
        exact hfirst
      case h_2 left hmissing =>
        rw [hmissing] at hfirst
        have hrest : Proceeds directory left (left.ensureTrails directory shorter).2 := ih hshorter
        cases hcreated : left.ensureTrails directory shorter with
        | mk outcome made =>
            rw [hcreated] at hrest
            cases outcome with
            | error error => exact hfirst.trans hrest
            | ok => exact (hfirst.trans hrest).trans (ensure_directory_proceeds htrail)
      case h_3 error left _ hfailed =>
        rw [hfailed] at hfirst
        exact hfirst.trans (accept_directory_proceeds _ _ _ _ _)

/-- Creating a directory with all directories above it takes steps on the way only, also where
requests are refused. -/
theorem create_directories_proceeds :
    Proceeds directory disk (disk.createDirectories directory).2 := by
  unfold createDirectories
  cases refusal? directory with
  | some error => exact .refl _ _
  | none => exact ensure_trails_proceeds (List.Subset.refl _)

/-! ## Drafts -/

/-- No draft can be opened in a directory: all names are taken, or there is another reason. -/
inductive Undraftable (tree : FileTree) (directory : Path) (drafts : List DraftName) :
    FileError → Prop where
  | taken : (∀ name ∈ drafts, tree.createFile directory name.text = .error .alreadyExists) →
      Undraftable tree directory drafts .alreadyExists
  | failed (name error) : name ∈ drafts → error ≠ .alreadyExists →
      tree.createFile directory name.text = .error error → Undraftable tree directory drafts error

/-- If no draft can be opened under some names, then neither with one more that is taken. -/
theorem Undraftable.cons {name : DraftName} {error : FileError}
    (h : Undraftable base directory drafts error)
    (htaken : base.createFile directory name.text = .error .alreadyExists) :
    Undraftable base directory (name :: drafts) error := by
  cases h with
  | taken hall => exact .taken (List.forall_mem_cons.mpr ⟨htaken, hall⟩)
  | failed other _ hother hreason hfailed => exact .failed other _ (.tail _ hother) hreason hfailed

/-- A draft that cannot be opened leaves the tree as it is, and one that is opened is an empty file
where nothing stood. -/
theorem open_draft_cases (disk : Disk) (directory : Path) (drafts : List DraftName) :
    (∃ error left, disk.openDraft directory drafts = (.error error, left) ∧ Later disk left ∧
      left.tree = disk.tree ∧ (disk.Refuses ∨ Undraftable disk.tree directory drafts error)) ∨
    ∃ draft opened, disk.openDraft directory drafts = (.ok draft, opened) ∧ Later disk opened ∧
      disk.tree.entryAt? draft = none ∧ Places disk.tree opened.tree draft (.file []) := by
  induction drafts generalizing disk with
  | nil => exact Or.inl ⟨_, _, rfl, .refl disk, rfl, Or.inr (.taken (by simp))⟩
  | cons name others ih =>
      have hnext := later_next disk disk.tree
      unfold openDraft
      rcases disk.request_cases .createDraft (·.createFile directory name.text) with
        ⟨error, hrequest, hcause⟩ | ⟨draft, tree, hrequest, hcreated⟩
      · rw [hrequest]
        by_cases htaken : error = .alreadyExists
        · subst htaken
          -- The name is taken, or is said to be: the next one is tried.
          rcases ih (disk.next disk.tree) with
            ⟨error, left, hfailed, hlater, hleft, hrest⟩ |
            ⟨draft, opened, hopened, hlater, hfree, hplaces⟩
          · refine Or.inl ⟨error, left, hfailed, hnext.trans hlater, hleft, ?_⟩
            rcases hcause with hrefused | htaken
            · exact Or.inl (refuses_of_now hrefused)
            · exact hrest.imp hnext.refuses (·.cons htaken)
          · exact Or.inr ⟨draft, opened, hopened, hnext.trans hlater, hfree, hplaces⟩
        · refine Or.inl ⟨error, disk.next disk.tree, ?_, hnext, rfl,
            hcause.imp refuses_of_now (.failed name error (.head _) htaken)⟩
          split
          case h_1 draft opened hopened => cases hopened
          case h_2 left hsame =>
            cases hsame
            exact absurd rfl htaken
          case h_3 cause left _ hfailed => exact hfailed.symm
      · rw [hrequest]
        obtain ⟨hfree, hplaces⟩ := create_file_ok hcreated
        exact Or.inr ⟨draft, disk.next tree, rfl, later_next disk tree, hfree, hplaces⟩

/-- Flushing and syncing leave the tree as it is, whether or not they are refused. -/
theorem settle_cases (disk : Disk) (asked : Request) :
    (∃ error, disk.settle asked = (.error error, disk.next disk.tree) ∧ disk.Refuses) ∨
      disk.settle asked = (.ok (), disk.next disk.tree) := by
  rcases disk.change_cases asked .ok with
    ⟨error, hchange, hrefused | hfailed⟩ | ⟨made, hchange, hdone⟩
  · exact Or.inl ⟨error, hchange, refuses_of_now hrefused⟩
  · cases hfailed
  · cases hdone
    exact Or.inr hchange

/-- A draft that holds all its bytes is flushed, synced and moved over its target, or one of these
fails and the draft is still there. -/
theorem complete_nil_cases {content : List UInt8}
    (hplaces : Places base disk.tree draft (.file content)) (hfree : base.entryAt? draft = none)
    (directory : Path) (name : String) :
    (∃ error left, disk.complete draft directory name [] = (.error error, left) ∧
      Later disk left ∧ left.tree = disk.tree ∧
      (disk.Refuses ∨ base.replaceFile directory name content = .error error)) ∨
    ∃ completed, disk.complete draft directory name [] = (.ok (), completed) ∧
      Later disk completed ∧ base.replaceFile directory name content = .ok completed.tree := by
  have hflushed := later_next disk disk.tree
  have hsynced := hflushed.trans (later_next _ disk.tree)
  unfold complete
  rcases disk.settle_cases .flush with ⟨error, hflush, hrefused⟩ | hflush
  · rw [hflush]
    exact Or.inl ⟨error, _, rfl, hflushed, rfl, Or.inl hrefused⟩
  rw [hflush]
  dsimp only
  rcases (disk.next disk.tree).settle_cases .sync with ⟨error, hsync, hrefused⟩ | hsync
  · rw [hsync]
    exact Or.inl ⟨error, _, rfl, hsynced, rfl, Or.inl (hflushed.refuses hrefused)⟩
  rw [hsync]
  dsimp only
  let synced := (disk.next disk.tree).next disk.tree
  have hmove : synced.tree.moveFile draft directory name =
      base.replaceFile directory name content := move_file_places hplaces hfree
  rcases synced.change_cases .move (·.moveFile draft directory name) with
    ⟨error, hchange, hcause⟩ | ⟨made, hchange, hdone⟩
  · refine Or.inl ⟨error, _, hchange, hsynced.trans (later_next _ _), rfl, ?_⟩
    rw [← hmove]
    exact hcause.imp_left fun hrefused => hsynced.refuses (refuses_of_now hrefused)
  · refine Or.inr ⟨_, hchange, hsynced.trans (later_next _ _), ?_⟩
    rw [← hmove]
    exact hdone

/-- A draft is completed and moved over its target as if its bytes had been put in place at once, or
something fails and the draft is still there, whatever it holds by then. -/
theorem complete_cases {written : List UInt8}
    (hplaces : Places base disk.tree draft (.file written)) (hfree : base.entryAt? draft = none)
    (directory : Path) (name : String) (bytes : List UInt8) :
    (∃ error left content, disk.complete draft directory name bytes = (.error error, left) ∧
      Later disk left ∧ Places base left.tree draft (.file content) ∧
      (disk.Refuses ∨
        base.replaceFile directory name (written ++ bytes) = .error error)) ∨
    ∃ completed, disk.complete draft directory name bytes = (.ok (), completed) ∧
      Later disk completed ∧
      base.replaceFile directory name (written ++ bytes) = .ok completed.tree := by
  -- The tree without the draft is the same all along; the draft grows by a byte each time.
  induction bytes generalizing disk written with
  | nil =>
      rw [List.append_nil]
      rcases complete_nil_cases hplaces hfree directory name with
        ⟨error, left, hfailed, hlater, hleft, hcause⟩ | hcompleted
      · refine Or.inl ⟨error, left, written, hfailed, hlater, ?_, hcause⟩
        rw [hleft]
        exact hplaces
      · exact Or.inr hcompleted
  | cons byte rest ih =>
      unfold complete
      rcases disk.change_cases .fill fun tree => .ok (tree.appendByte draft byte) with
        ⟨error, hchange, hrefused | hfailed⟩ | ⟨made, hchange, hdone⟩
      · rw [hchange]
        exact Or.inl ⟨error, _, written, rfl, later_next _ _, hplaces,
          Or.inl (refuses_of_now hrefused)⟩
      · cases hfailed
      · cases hdone
        rw [hchange]
        have hnext := later_next disk (disk.tree.appendByte draft byte)
        have hfilled : Places base (disk.next (disk.tree.appendByte draft byte)).tree draft
            (.file (written ++ [byte])) := append_byte_places hplaces byte
        have hrest := ih hfilled
        rw [List.append_assoc, List.singleton_append] at hrest
        rcases hrest with ⟨error, left, content, hfailed, hlater, hleft, hcause⟩ |
          ⟨completed, hcompleted, hlater, hreplaced⟩
        · exact Or.inl ⟨error, left, content, hfailed, hnext.trans hlater, hleft,
            hcause.imp_left hnext.refuses⟩
        · exact Or.inr ⟨completed, hcompleted, hnext.trans hlater, hreplaced⟩

/-- A draft is removed, and the tree is what it was without it, unless that is refused. -/
theorem discard_cases {content : List UInt8}
    (hplaces : Places base disk.tree draft (.file content)) (hfree : base.entryAt? draft = none) :
    Later disk (disk.discard draft) ∧
      ((disk.discard draft).tree = base ∨
        ¬ disk.Discards ∧ (disk.discard draft).tree = disk.tree) := by
  unfold discard
  rcases disk.change_cases .discard fun tree => .ok (tree.removeFile draft) with
    ⟨error, hchange, hrefused | hfailed⟩ | ⟨made, hchange, hdone⟩
  · rw [hchange]
    refine ⟨later_next _ _, Or.inr ⟨?_, rfl⟩⟩
    intro hdiscards
    rw [hdiscards 0] at hrefused
    cases hrefused
  · cases hfailed
  · cases hdone
    rw [hchange]
    exact ⟨later_next _ _, Or.inl (remove_file_places hplaces hfree)⟩

/-- A file is put in place by way of a draft as it would be at once, or the tree is left as it is,
but for the draft where it is refused that it be discarded. -/
theorem persist_cases (disk : Disk) (drafts : List DraftName) (directory : Path) (name : String)
    (bytes : List UInt8) :
    (∃ error left, disk.persist drafts directory name bytes = (.error error, left) ∧
      Later disk left ∧ left.tree = disk.tree ∧
      (disk.Refuses ∨ Undraftable disk.tree directory drafts error ∨
        disk.tree.replaceFile directory name bytes = .error error)) ∨
    (∃ error left draft content,
      disk.persist drafts directory name bytes = (.error error, left) ∧ Later disk left ∧
      ¬ disk.Discards ∧ disk.tree.entryAt? draft = none ∧
      Places disk.tree left.tree draft (.file content)) ∨
    ∃ written, disk.persist drafts directory name bytes = (.ok (), written) ∧
      Later disk written ∧ disk.tree.replaceFile directory name bytes = .ok written.tree := by
  unfold persist
  rcases disk.open_draft_cases directory drafts with
    ⟨error, left, hfailed, hlater, hleft, hcause⟩ |
    ⟨draft, opened, hopened, hlater, hfree, hplaces⟩
  · rw [hfailed]
    exact Or.inl ⟨error, left, rfl, hlater, hleft, hcause.imp_right Or.inl⟩
  rw [hopened]
  dsimp only
  rcases opened.complete_cases hplaces hfree directory name bytes with
    ⟨error, left, content, hfailed, hleft, hdraft, hcause⟩ |
    ⟨completed, hcompleted, hleft, hreplaced⟩
  · rw [hfailed]
    have hbefore := hlater.trans hleft
    obtain ⟨hafter, hremoved | ⟨hrefused, hkept⟩⟩ := discard_cases hdraft hfree
    · exact Or.inl ⟨error, _, rfl, hbefore.trans hafter, hremoved,
        hcause.imp hlater.refuses Or.inr⟩
    · refine Or.inr (Or.inl ⟨error, _, draft, content, rfl, hbefore.trans hafter, ?_, hfree, ?_⟩)
      · exact fun hdiscards => hrefused (hbefore.discards hdiscards)
      · rw [hkept]
        exact hdraft
  · rw [hcompleted]
    exact Or.inr (Or.inr ⟨completed, rfl, hlater.trans hleft, hreplaced⟩)

/-- What is persisted is in place as it would be at once. -/
theorem persist_ok (h : disk.persist drafts directory name bytes = (.ok (), left)) :
    Later disk left ∧ disk.tree.replaceFile directory name bytes = .ok left.tree := by
  rcases disk.persist_cases drafts directory name bytes with
    ⟨error, failed, hfailed, _⟩ | ⟨error, failed, draft, content, hfailed, _⟩ |
    ⟨written, hwritten, hrest⟩
  · rw [hfailed] at h
    cases h
  · rw [hfailed] at h
    cases h
  · rw [hwritten] at h
    cases h
    exact hrest

/-- What cannot be persisted leaves the tree as it is, if drafts are discarded. -/
theorem persist_error {error : FileError} (hdiscards : disk.Discards)
    (h : disk.persist drafts directory name bytes = (.error error, left)) :
    Later disk left ∧ left.tree = disk.tree ∧
      (disk.Refuses ∨ Undraftable disk.tree directory drafts error ∨
        disk.tree.replaceFile directory name bytes = .error error) := by
  rcases disk.persist_cases drafts directory name bytes with
    ⟨error, failed, hfailed, hrest⟩ | ⟨error, failed, draft, content, _, _, hrefused, _⟩ |
    ⟨written, hwritten, _⟩
  · rw [hfailed] at h
    cases h
    exact hrest
  · exact absurd hdiscards hrefused
  · rw [hwritten] at h
    cases h

/-! ## Whole writes -/

/-- A write fails to create its directory, or fails to put its file into the directory, or succeeds
at both. -/
theorem write_cases (disk : Disk) (drafts : List DraftName) (directory : Path) (id : PluginId)
    (bytes : List UInt8) :
    (∃ cause left, disk.createDirectories directory = (.error cause, left) ∧
      disk.write drafts directory id bytes = (.error (.createDirectory directory cause), left)) ∨
    ∃ ready, disk.createDirectories directory = (.ok (), ready) ∧
      ((∃ cause left, ready.persist drafts directory id.fileName bytes = (.error cause, left) ∧
        disk.write drafts directory id bytes =
          (.error (.write (directory.join ⟨id.fileName⟩) cause), left)) ∨
      ∃ written, ready.persist drafts directory id.fileName bytes = (.ok (), written) ∧
        disk.write drafts directory id bytes = (.ok (directory.join ⟨id.fileName⟩), written)) := by
  unfold write
  cases disk.createDirectories directory with
  | mk created ready =>
      cases created with
      | error cause => exact Or.inl ⟨cause, ready, rfl, rfl⟩
      | ok =>
          refine Or.inr ⟨ready, rfl, ?_⟩
          dsimp only
          cases ready.persist drafts directory id.fileName bytes with
          | mk outcome left =>
              cases outcome with
              | error cause => exact Or.inl ⟨cause, left, rfl, rfl⟩
              | ok => exact Or.inr ⟨left, rfl, rfl⟩

/-- A write that succeeds puts the file of the id in place once its directory is there. -/
theorem write_ok (h : disk.write drafts directory id bytes = (.ok target, left)) :
    target = directory.join ⟨id.fileName⟩ ∧ Later disk left ∧
      PutInPlace directory id bytes disk.tree left.tree := by
  have hproceeds : Proceeds directory disk (disk.createDirectories directory).2 :=
    create_directories_proceeds
  rcases disk.write_cases drafts directory id bytes with
    ⟨cause, failed, _, hresult⟩ |
    ⟨ready, hcreated, ⟨cause, failed, _, hresult⟩ | ⟨written, hwritten, hresult⟩⟩
  · rw [hresult] at h
    cases h
  · rw [hresult] at h
    cases h
  · rw [hresult] at h
    cases h
    rw [hcreated] at hproceeds
    obtain ⟨hlater, hreplaced⟩ := persist_ok hwritten
    exact ⟨rfl, hproceeds.later.trans hlater, ready.tree, hproceeds.changes, hreplaced⟩

/-- A write that fails puts no file in place, if drafts are discarded. -/
theorem write_error {error : DescriptorError} (hdiscards : disk.Discards)
    (h : disk.write drafts directory id bytes = (.error error, left)) :
    Later disk left ∧ Changes directory noFile disk.tree left.tree := by
  have hproceeds : Proceeds directory disk (disk.createDirectories directory).2 :=
    create_directories_proceeds
  rcases disk.write_cases drafts directory id bytes with
    ⟨cause, failed, hcreated, hresult⟩ |
    ⟨ready, hcreated, ⟨cause, failed, hfailed, hresult⟩ | ⟨written, _, hresult⟩⟩
  · rw [hresult] at h
    cases h
    rw [hcreated] at hproceeds
    exact ⟨hproceeds.later, hproceeds.changes⟩
  · rw [hresult] at h
    cases h
    rw [hcreated] at hproceeds
    obtain ⟨hlater, hsame, _⟩ := persist_error (hproceeds.later.discards hdiscards) hfailed
    refine ⟨hproceeds.later.trans hlater, ?_⟩
    rw [hsame]
    exact hproceeds.changes
  · rw [hresult] at h
    cases h

end Disk

end PluginDescriptor
