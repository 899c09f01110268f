import PluginDescriptor.Proofs.Staging

/-!
# A disk that refuses nothing

Where no request is refused, writing a descriptor stage by stage comes to the same as writing it at
once: the same result, and the same file tree on a disk that still refuses nothing. All that is
needed is a name for the draft that is free, and such a name never stands in the way of the
descriptor, since wherever the path of a draft is too long, so is that of a descriptor. The main
statement is `Disk.write_willing`.
-/

namespace PluginDescriptor

/-! ## The names of drafts -/

/-- Letters and digits take one byte each. -/
theorem utf8_size_of_alphanumeric {chars : List Char}
    (h : ∀ c ∈ chars, c.isAlphanum = true) :
    (String.ofList chars).utf8ByteSize = chars.length := by
  induction chars with
  | nil => rfl
  | cons c rest ih =>
      obtain ⟨hc, hrest⟩ := List.forall_mem_cons.mp h
      have hascii : c.val ≤ 127 := by
        delta Char.isAlphanum Char.isAlpha Char.isUpper Char.isLower Char.isDigit at hc
        simp only [Bool.or_eq_true, Bool.and_eq_true, decide_eq_true_eq] at hc
        grind
      rw [String.ofList_cons, String.utf8ByteSize_append, String.utf8ByteSize_singleton,
        ih hrest, Char.utf8Size_eq_one_iff.mpr hascii, List.length_cons, Nat.add_comm]

namespace DraftName

/-- The name of a draft takes ten bytes. -/
theorem size (name : DraftName) : name.text.utf8ByteSize = 10 := by
  have hrandom := utf8_size_of_alphanumeric (List.all_eq_true.mp name.alphanumeric)
  rw [name.length] at hrandom
  have htext : name.text = ".tmp" ++ String.ofList name.random := by
    rw [← String.toList_inj]
    simp [text]
  rw [htext, String.utf8ByteSize_append, hrandom]
  rfl

/-- The name of a draft is short enough for any directory. -/
theorem short (name : DraftName) : name.text.utf8ByteSize ≤ FileTree.longestName := by
  rw [name.size]
  decide

/-- The name of a draft is a relative path. -/
theorem relative (name : DraftName) : Path.isAbsolute ⟨name.text⟩ = false := by
  simp [Path.isAbsolute, text]

/-- The name of a draft holds nothing but dots, letters and digits. -/
theorem not_mem {c : Char} (name : DraftName) (hc : c.isAlphanum = false) (hdot : c ≠ '.') :
    c ∉ name.text.toList := by
  intro hmember
  simp only [text, String.toList_ofList, List.mem_cons] at hmember
  rcases hmember with rfl | rfl | rfl | rfl | hmember
  · exact hdot rfl
  · exact absurd hc (by decide)
  · exact absurd hc (by decide)
  · exact absurd hc (by decide)
  · rw [List.all_eq_true.mp name.alphanumeric c hmember] at hc
    cases hc

/-- The name of a draft is no shorter text. -/
theorem ne_of_short {other : String} (name : DraftName) (h : other.utf8ByteSize < 10) :
    name.text ≠ other := by
  rintro rfl
  rw [name.size] at h
  exact absurd h (by decide)

/-- The name of a draft is a plain one. -/
theorem plain (name : DraftName) : Path.PlainName name.text where
  relative := name.relative
  trail := Path.trail_name (name.not_mem (by decide) (by decide)) (name.ne_of_short (by decide))
  ordinary := ⟨name.ne_of_short (by decide), name.ne_of_short (by decide)⟩

/-- The file of an id is never called like a draft. -/
theorem file_name_ne (name : DraftName) (id : PluginId) : id.fileName ≠ name.text := by
  intro hsame
  have hsize : id.fileName.utf8ByteSize = id.text.utf8ByteSize + 11 :=
    String.utf8ByteSize_append
  rw [hsame, name.size] at hsize
  omega

end DraftName

/-! ## What a draft can fail for -/

namespace FileTree

variable {tree : FileTree} {directory : Path} {name : String}

/-- In an existing directory a file is created, unless its path is refused or its name is taken. -/
theorem create_file_cases {parent : Location}
    (hparent : Leads tree (tree.start directory).location directory.trail parent)
    (hshort : name.utf8ByteSize ≤ longestName) :
    (∃ error, refusal? (directory.join ⟨name⟩) = some error ∧
      tree.createFile directory name = .error error) ∨
    (tree.entryAt? (name :: parent) ≠ none ∧
      tree.createFile directory name = .error .alreadyExists) ∨
    ∃ made, tree.createFile directory name = .ok (name :: parent, made) := by
  have hwalk : tree.walk (tree.start directory) directory.trail =
      .ok ⟨parent, hparent.directory (tree.start directory).isDirectory⟩ := walk_ok_iff.mpr hparent
  unfold createFile
  cases hrefusal : refusal? (directory.join ⟨name⟩) with
  | some error => exact Or.inl ⟨error, rfl, rfl⟩
  | none =>
      rw [hwalk]
      dsimp only
      rw [if_neg (by omega)]
      split
      case h_1 entry htaken => exact Or.inr (Or.inl ⟨by rw [htaken]; simp, rfl⟩)
      case h_2 hfree => exact Or.inr (Or.inr ⟨_, rfl⟩)

/-- A path is refused for a character that it holds or for its length. -/
theorem refusal_cases {path : Path} {error : FileError} (h : refusal? path = some error) :
    path.text.toList.contains '\x00' = true ∧ error = .nulInPath ∨
      path.text.toList.contains '\x00' = false ∧ longestPath < path.text.utf8ByteSize ∧
        error = .nameTooLong := by
  unfold refusal? at h
  by_cases hnul : path.text.toList.contains '\x00' = true
  · rw [if_pos hnul] at h
    cases h
    exact Or.inl ⟨hnul, rfl⟩
  by_cases hlong : longestPath < path.text.utf8ByteSize
  · rw [if_neg hnul, if_pos hlong] at h
    cases h
    exact Or.inr ⟨Bool.eq_false_iff.mpr hnul, hlong, rfl⟩
  · rw [if_neg hnul, if_neg hlong] at h
    cases h

/-- A path is never refused for being taken. -/
theorem refusal_ne_taken {path : Path} {error : FileError} (h : refusal? path = some error) :
    error ≠ .alreadyExists := by
  rcases refusal_cases h with ⟨_, rfl⟩ | ⟨_, _, rfl⟩
  · decide
  · decide

/-- Where the path of a draft is refused, so is that of a descriptor in the same directory. -/
theorem refusal_of_draft {draftName : DraftName} {error : FileError}
    (h : refusal? (directory.join ⟨draftName.text⟩) = some error) (id : PluginId) :
    refusal? (directory.join ⟨id.fileName⟩) = some error := by
  obtain ⟨front, hfront⟩ := directory.text_join
  have hsize : id.fileName.utf8ByteSize = id.text.utf8ByteSize + 11 :=
    String.utf8ByteSize_append
  have hplain : '\x00' ∉ draftName.text.toList := draftName.not_mem (by decide) (by decide)
  have htext : (directory.join ⟨id.fileName⟩).text = front ++ id.fileName :=
    hfront _ id.file_name_relative
  have hdraft : (directory.join ⟨draftName.text⟩).text = front ++ draftName.text :=
    hfront _ draftName.relative
  -- Both paths go on with ordinary characters after the same text, and the draft's is shorter.
  have hnul : (directory.join ⟨id.fileName⟩).text.toList.contains '\x00' =
      (directory.join ⟨draftName.text⟩).text.toList.contains '\x00' := by
    rw [htext, hdraft, Bool.eq_iff_iff]
    simp [id.nul_not_mem_file_name, hplain]
  have hlength : (directory.join ⟨draftName.text⟩).text.utf8ByteSize ≤
      (directory.join ⟨id.fileName⟩).text.utf8ByteSize := by
    rw [htext, hdraft, String.utf8ByteSize_append, String.utf8ByteSize_append, draftName.size,
      hsize]
    omega
  rcases refusal_cases h with ⟨hhas, rfl⟩ | ⟨hnone, hlong, rfl⟩
  · rw [refusal?, if_pos (hnul.trans hhas)]
  · rw [refusal?, hnul, hnone, if_neg Bool.false_ne_true, if_pos (by omega)]

end FileTree

namespace Disk

open FileTree

variable {tree : FileTree} {directory : Path} {drafts : List DraftName}

/-! ## Where nothing is refused -/

/-- A disk that refuses nothing. -/
def willing (tree : FileTree) : Disk :=
  ⟨tree, fun _ _ => none⟩

/-- Nothing is refused on a willing disk. -/
theorem willing_refuses_nothing (tree : FileTree) : ¬ (willing tree).Refuses := by
  rintro ⟨_, _, hcount⟩
  exact hcount rfl

/-- A willing disk discards drafts. -/
theorem willing_discards (tree : FileTree) : (willing tree).Discards :=
  fun _ => rfl

/-- What has become of a willing disk is willing. -/
theorem Later.willing {left : Disk} (h : Later (willing tree) left) :
    left = Disk.willing left.tree := by
  obtain ⟨_, hsame⟩ := h
  obtain ⟨_, refusals⟩ := left
  obtain rfl : refusals = fun _ _ => none := funext hsame
  rfl

/-- A change that is not refused is made or fails as the operation does. -/
theorem change_willing (tree : FileTree) (asked : Request)
    (operation : FileTree → Except FileError FileTree) :
    (willing tree).change asked operation =
      match operation tree with
      | .ok made => (.ok (), willing made)
      | .error error => (.error error, willing tree) := by
  unfold change request willing
  dsimp only
  cases operation tree <;> rfl

/-- A directory is requested in vain where it cannot be created. -/
theorem make_directory_willing_of_error {path : Path} {trail : List String} {error : FileError}
    (h : tree.makeDirectory path trail = .error error) :
    (willing tree).makeDirectory path trail = (.error error, willing tree) := by
  rw [makeDirectory, change_willing, h]

/-- Where a directory is missing on the way, there is no directory at the end of it. -/
theorem find_of_missing {path : Path} {trail : List String}
    (h : tree.makeDirectory path trail = .error .notFound) :
    tree.find (tree.start path) trail ≠ .ok .directory := by
  intro hfind
  obtain ⟨there, hleads⟩ := find_directory hfind
  rcases trail.eq_nil_or_concat' with rfl | ⟨names, last, rfl⟩
  · cases h
  obtain ⟨middle, hnames, _⟩ := leads_append_iff.mp hleads
  have hwalk : tree.walk (tree.start path) names =
      .ok ⟨middle, hnames.directory (tree.start path).isDirectory⟩ := walk_ok_iff.mpr hnames
  rw [make_directory_concat, hwalk] at h
  dsimp only at h
  -- All that can go wrong at the end of the way is that the name is taken or too long.
  by_cases hdots : (last = "." || last = "..") = true
  · rw [if_pos hdots] at h
    cases h
  by_cases hlong : longestName < last.utf8ByteSize
  · rw [if_neg hdots, if_pos hlong] at h
    cases h
  rw [if_neg hdots, if_neg hlong] at h
  split at h
  case h_1 entry htaken => cases h
  case h_2 hfree => cases h

/-- A directory that cannot be created because one on the way is missing is not there. -/
theorem ensure_directory_of_missing {path : Path} {trail : List String}
    (h : tree.makeDirectory path trail = .error .notFound) :
    tree.ensureDirectory path trail = .error .notFound :=
  ensure_directory_of_not_found h (find_of_missing h)

/-- A directory that could not be created is accepted where it is found. -/
theorem accept_directory_willing_of_found {path : Path} {trail : List String}
    (h : tree.find (tree.start path) trail = .ok .directory) (error : FileError) :
    (willing tree).acceptDirectory path trail error = (.ok (), willing tree) := by
  unfold acceptDirectory request willing
  simp only [h]
  rfl

/-- A directory that could not be created is not accepted where it is not found. -/
theorem accept_directory_willing_of_not_found {path : Path} {trail : List String}
    (h : tree.find (tree.start path) trail ≠ .ok .directory) (error : FileError) :
    (willing tree).acceptDirectory path trail error = (.error error, willing tree) := by
  unfold acceptDirectory request willing
  dsimp only
  cases hfound : tree.find (tree.start path) trail with
  | error cause => rfl
  | ok entry =>
      cases entry with
      | file bytes => rfl
      | directory => exact absurd hfound h

/-- Ensuring a directory where nothing is refused. -/
theorem ensure_directory_willing (tree : FileTree) (path : Path) (trail : List String) :
    (willing tree).ensureDirectory path trail =
      match tree.ensureDirectory path trail with
      | .ok made => (.ok (), willing made)
      | .error error => (.error error, willing tree) := by
  rcases tree.ensure_directory_cases path trail with
    ⟨made, hmake, hresult⟩ | ⟨error, hmake, ⟨hfind, hresult⟩ | ⟨hfind, hresult⟩⟩
  · rw [hresult, ensureDirectory, makeDirectory, change_willing, hmake]
  · rw [hresult, ensureDirectory, make_directory_willing_of_error hmake]
    exact accept_directory_willing_of_found hfind error
  · rw [hresult, ensureDirectory, make_directory_willing_of_error hmake]
    exact accept_directory_willing_of_not_found hfind error

/-- If a directory is missing on the way to that of the first trail, those of the other trails are
created first. -/
theorem ensure_trails_willing_of_missing {path : Path} {trail : List String}
    (h : tree.makeDirectory path trail = .error .notFound) (shorter : List (List String)) :
    (willing tree).ensureTrails path (trail :: shorter) =
      match (willing tree).ensureTrails path shorter with
      | (.error error, made) => (.error error, made)
      | (.ok (), made) => made.ensureDirectory path trail := by
  simp only [ensureTrails, make_directory_willing_of_error h]
  rfl

/-- If the directory of the first trail cannot be created, and not because one on the way is
missing, it is looked for. -/
theorem ensure_trails_willing_of_error {path : Path} {trail : List String} {error : FileError}
    (h : tree.makeDirectory path trail = .error error) (hreason : error ≠ .notFound)
    (shorter : List (List String)) :
    (willing tree).ensureTrails path (trail :: shorter) =
      (willing tree).acceptDirectory path trail error := by
  unfold ensureTrails
  rw [make_directory_willing_of_error h]
  split
  case h_1 made hmade => cases hmade
  case h_2 left hmissing =>
    cases hmissing
    exact absurd rfl hreason
  case h_3 cause left _ hfailed =>
    cases hfailed
    rfl

/-- Creating directories along trails where nothing is refused. -/
theorem ensure_trails_willing (tree : FileTree) (path : Path) (trails : List (List String)) :
    (willing tree).ensureTrails path trails =
      ((tree.ensureTrails path trails).1, willing (tree.ensureTrails path trails).2) := by
  induction trails generalizing tree with
  | nil => rfl
  | cons trail shorter ih =>
      rcases tree.ensure_directory_cases path trail with
        ⟨made, hmake, hensure⟩ | ⟨error, hmake, hfound⟩
      · rw [ensureTrails, ensure_trails_of_ensured hensure, makeDirectory, change_willing, hmake]
      by_cases hmissing : error = .notFound
      · -- Both wait for the directories of the shorter trails, and try once more after them.
        subst hmissing
        rw [ensure_trails_of_missing (ensure_directory_of_missing hmake),
          ensure_trails_willing_of_missing hmake, ih]
        cases tree.ensureTrails path shorter with
        | mk outcome made =>
            cases outcome with
            | error error => rfl
            | ok =>
                dsimp only
                rw [ensure_directory_willing]
                cases made.ensureDirectory path trail <;> rfl
      · rw [ensure_trails_willing_of_error hmake hmissing]
        rcases hfound with ⟨hfind, hensure⟩ | ⟨hfind, hensure⟩
        · rw [ensure_trails_of_ensured hensure, accept_directory_willing_of_found hfind]
        · rw [ensure_trails_of_failed hensure hmissing,
            accept_directory_willing_of_not_found hfind]

/-- Creating a directory where nothing is refused. -/
theorem create_directories_willing (tree : FileTree) (path : Path) :
    (willing tree).createDirectories path =
      ((tree.createDirectories path).1, willing (tree.createDirectories path).2) := by
  unfold createDirectories FileTree.createDirectories
  cases refusal? path with
  | some error => rfl
  | none => exact ensure_trails_willing tree path path.creationTrails

/-- A draft that is free in an existing directory can be opened, unless its path is refused, and
then so is that of a descriptor in the same directory. -/
theorem refusal_of_undraftable {parent : Location} {error : FileError}
    (hparent : Leads tree (tree.start directory).location directory.trail parent)
    (hfree : ∃ name ∈ drafts, tree.entryAt? (name.text :: parent) = none)
    (h : Undraftable tree directory drafts error) (id : PluginId) :
    refusal? (directory.join ⟨id.fileName⟩) = some error := by
  have hcases (name : DraftName) := create_file_cases hparent name.short
  cases h with
  | taken hall =>
      obtain ⟨name, hname, hnone⟩ := hfree
      rcases hcases name with ⟨cause, hrefusal, hfailed⟩ | ⟨htaken, _⟩ | ⟨made, hcreated⟩
      · rw [hall name hname] at hfailed
        cases hfailed
        exact absurd rfl (refusal_ne_taken hrefusal)
      · exact absurd hnone htaken
      · rw [hall name hname] at hcreated
        cases hcreated
  | failed name _ _ hreason hfailed =>
      rcases hcases name with ⟨cause, hrefusal, hsame⟩ | ⟨_, hsame⟩ | ⟨made, hcreated⟩
      · rw [hfailed] at hsame
        cases hsame
        exact refusal_of_draft hrefusal id
      · rw [hfailed] at hsame
        exact absurd (Except.error.inj hsame) hreason
      · rw [hfailed] at hcreated
        cases hcreated

/-- Where nothing is refused, a file is put in place by way of a draft as it would be at once. -/
theorem persist_willing {parent : Location}
    (hparent : Leads tree (tree.start directory).location directory.trail parent)
    (hfree : ∃ name ∈ drafts, tree.entryAt? (name.text :: parent) = none) (id : PluginId)
    (bytes : List UInt8) :
    (willing tree).persist drafts directory id.fileName bytes =
      match tree.replaceFile directory id.fileName bytes with
      | .ok written => (.ok (), willing written)
      | .error error => (.error error, willing tree) := by
  cases hpersist : (willing tree).persist drafts directory id.fileName bytes with
  | mk outcome left =>
      cases outcome with
      | ok =>
          obtain ⟨hlater, hreplaced⟩ := persist_ok hpersist
          have hreplaced : tree.replaceFile directory id.fileName bytes = .ok left.tree := hreplaced
          rw [hreplaced]
          exact Prod.ext rfl hlater.willing
      | error error =>
          obtain ⟨hlater, hsame, hcause⟩ := persist_error (willing_discards tree) hpersist
          obtain rfl : left = willing tree := by
            rw [hlater.willing, hsame]
            rfl
          have hreplaced : tree.replaceFile directory id.fileName bytes = .error error := by
            rcases hcause with hrefused | hundraftable | hreplaced
            · exact absurd hrefused (willing_refuses_nothing tree)
            · -- Without a draft there is nothing to move, and at once the path would be refused.
              rw [FileTree.replaceFile, refusal_of_undraftable hparent hfree hundraftable id]
            · exact hreplaced
          rw [hreplaced]

/-- Where nothing is refused and the name of a draft is free, a write that is made stage by stage is
the one that is made at once. -/
theorem write_willing (tree : FileTree) (directory : Path)
    (hfree : ∃ name ∈ drafts,
      (tree.createDirectories directory).2.entryOf? (directory.join ⟨name.text⟩) = none)
    (id : PluginId) (bytes : List UInt8) :
    (willing tree).write drafts directory id bytes =
      ((Descriptor.write tree directory id bytes).1,
        willing (Descriptor.write tree directory id bytes).2) := by
  unfold write Descriptor.write
  rw [create_directories_willing]
  cases hcreated : tree.createDirectories directory with
  | mk outcome made =>
      cases outcome with
      | error cause => rfl
      | ok =>
          rw [hcreated] at hfree
          obtain ⟨parent, hparent⟩ := create_directories_ok hcreated
          have hdraft : ∃ name ∈ drafts, made.entryAt? (name.text :: parent) = none := by
            obtain ⟨name, hname, hnone⟩ := hfree
            have hlocation : made.location? (directory.join ⟨name.text⟩) =
                some (name.text :: parent) :=
              (location_name_iff name.plain).mpr ⟨parent, hparent, name.short, rfl⟩
            rw [entryOf?, hlocation] at hnone
            exact ⟨name, hname, hnone⟩
          dsimp only
          rw [persist_willing hparent hdraft]
          cases made.replaceFile directory id.fileName bytes <;> rfl

end Disk

end PluginDescriptor
