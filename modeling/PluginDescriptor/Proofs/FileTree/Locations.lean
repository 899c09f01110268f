import Mathlib.Data.List.Basic
import PluginDescriptor.Proofs.Paths

/-!
# Where names lead in a file tree

`Leads tree here trail there` says that following the names of `trail` from the location `here`
passes through directories only and ends at `there`, and `walk_ok_iff` shows that this is what
`walk` computes. `location?` is the place a path stands for, whether or not something is there,
and `entryOf?` is what is found there. Where a trail has no `..` the place is known in advance:
`leads_iff_of_no_outer`.
-/

namespace PluginDescriptor.FileTree

/-- `Leads tree here trail there` says that the names of `trail`, followed from `here`, pass
through directories of `tree` and end at `there`. -/
inductive Leads (tree : FileTree) : Location → List String → Location → Prop where
  | stop (here) : Leads tree here [] here
  | current (here there rest) :
      Leads tree here rest there → Leads tree here ("." :: rest) there
  | outer (here there rest) :
      Leads tree here.tail rest there → Leads tree here (".." :: rest) there
  | enter (here there name rest) :
      name ≠ "." → name ≠ ".." → name.utf8ByteSize ≤ longestName →
      tree.entryAt? (name :: here) = some .directory →
      Leads tree (name :: here) rest there → Leads tree here (name :: rest) there

/-- The location the names of `trail` stand for, seen from a directory. All names but the last have
to be directories, and the last need not be there. -/
def locate? (tree : FileTree) (here : tree.Directory) (trail : List String) : Option Location :=
  match trail.getLast? with
  | none => some here.location
  | some last =>
    if last = "." || last = ".." then (tree.walk here trail).toOption.map Directory.location
    else
      match tree.walk here trail.dropLast with
      | .error _ => none
      | .ok parent =>
        if longestName < last.utf8ByteSize then none else some (last :: parent.location)

/-- The location a path stands for. -/
def location? (tree : FileTree) (path : Path) : Option Location :=
  tree.locate? (tree.start path) path.trail

/-- What stands at a path. -/
def entryOf? (tree : FileTree) (path : Path) : Option Entry :=
  (tree.location? path).bind tree.entryAt?

variable {tree other : FileTree}

/-- Directories at the same location are the same. -/
theorem directory_ext {here there : tree.Directory} (h : here.location = there.location) :
    here = there := by
  cases here
  cases there
  cases h
  rfl

/-- The directory around a directory is at the location without the first name. -/
theorem outer_location (here : tree.Directory) : here.outer.location = here.location.tail := by
  obtain ⟨location, h⟩ := here
  cases location <;> rfl

/-- Entering succeeds exactly where a directory of an admissible name stands. -/
theorem enter_ok_iff {here there : tree.Directory} {name : String} :
    tree.enter here name = .ok there ↔
      name.utf8ByteSize ≤ longestName ∧ there.location = name :: here.location := by
  unfold enter
  by_cases hlong : longestName < name.utf8ByteSize
  · rw [if_pos hlong]
    simp only [reduceCtorEq, false_iff, not_and]
    intro hshort
    omega
  · rw [if_neg hlong]
    split
    case h_1 hnone =>
      simp only [reduceCtorEq, false_iff, not_and]
      intro _ hthere
      exact absurd there.isDirectory (by rw [hthere, hnone]; simp)
    case h_2 bytes hfile =>
      simp only [reduceCtorEq, false_iff, not_and]
      intro _ hthere
      exact absurd there.isDirectory (by rw [hthere, hfile]; simp)
    case h_3 hdirectory =>
      simp only [Except.ok.injEq]
      constructor
      · rintro rfl
        exact ⟨by omega, rfl⟩
      · rintro ⟨_, hthere⟩
        exact directory_ext hthere.symm

/-- No name leads nowhere else. -/
theorem leads_nil_iff {here there : Location} : Leads tree here [] there ↔ there = here := by
  constructor
  · intro h
    cases h
    rfl
  · rintro rfl
    exact .stop _

/-- The first name is `.`, `..` or the name of a directory to enter. -/
theorem leads_cons_iff {here there : Location} {name : String} {rest : List String} :
    Leads tree here (name :: rest) there ↔
      name = "." ∧ Leads tree here rest there ∨
      name = ".." ∧ Leads tree here.tail rest there ∨
      (name ≠ "." ∧ name ≠ "..") ∧ name.utf8ByteSize ≤ longestName ∧
        tree.entryAt? (name :: here) = some .directory ∧ Leads tree (name :: here) rest there := by
  constructor
  · intro h
    cases h with
    | current _ _ _ h => exact Or.inl ⟨rfl, h⟩
    | outer _ _ _ h => exact Or.inr (Or.inl ⟨rfl, h⟩)
    | enter _ _ _ _ hcurrent houter hshort hentry h =>
        exact Or.inr (Or.inr ⟨⟨hcurrent, houter⟩, hshort, hentry, h⟩)
  · rintro (⟨rfl, h⟩ | ⟨rfl, h⟩ | ⟨⟨hcurrent, houter⟩, hshort, hentry, h⟩)
    · exact .current _ _ _ h
    · exact .outer _ _ _ h
    · exact .enter _ _ _ _ hcurrent houter hshort hentry h

/-- A walk ends at a directory exactly if the names lead there. -/
theorem walk_ok_iff {here there : tree.Directory} {trail : List String} :
    tree.walk here trail = .ok there ↔ Leads tree here.location trail there.location := by
  induction trail generalizing here with
  | nil =>
      simp only [walk, Except.ok.injEq, leads_nil_iff]
      exact ⟨fun h => h ▸ rfl, fun h => directory_ext h.symm⟩
  | cons name rest ih =>
      rw [leads_cons_iff, walk]
      by_cases hcurrent : name = "."
      · simp [hcurrent, ih]
      by_cases houter : name = ".."
      · simp [houter, ih, outer_location]
      simp only [hcurrent, houter, if_false, false_and, false_or, ne_eq, not_false_eq_true,
        and_self, true_and]
      cases henter : tree.enter here name with
      | error error =>
          simp only [reduceCtorEq, false_iff, not_and]
          intro hshort hentry _
          have hnext : tree.enter here name = .ok ⟨name :: here.location, hentry⟩ :=
            enter_ok_iff.mpr ⟨hshort, rfl⟩
          rw [henter] at hnext
          cases hnext
      | ok next =>
          obtain ⟨hshort, hlocation⟩ := enter_ok_iff.mp henter
          have hentry := next.isDirectory
          rw [hlocation] at hentry
          simp [ih, hlocation, hshort, hentry]

/-- Names can be followed one part after the other. -/
theorem leads_append_iff {here there : Location} {first second : List String} :
    Leads tree here (first ++ second) there ↔
      ∃ middle, Leads tree here first middle ∧ Leads tree middle second there := by
  induction first generalizing here with
  | nil => simp [leads_nil_iff]
  | cons name rest ih =>
      simp only [List.cons_append, leads_cons_iff, ih]
      constructor
      · rintro (⟨hname, middle, hrest, h⟩ | ⟨hname, middle, hrest, h⟩ |
          ⟨hname, hshort, hentry, middle, hrest, h⟩)
        · exact ⟨middle, Or.inl ⟨hname, hrest⟩, h⟩
        · exact ⟨middle, Or.inr (Or.inl ⟨hname, hrest⟩), h⟩
        · exact ⟨middle, Or.inr (Or.inr ⟨hname, hshort, hentry, hrest⟩), h⟩
      · rintro ⟨middle, ⟨hname, hrest⟩ | ⟨hname, hrest⟩ | ⟨hname, hshort, hentry, hrest⟩, h⟩
        · exact Or.inl ⟨hname, middle, hrest, h⟩
        · exact Or.inr (Or.inl ⟨hname, middle, hrest, h⟩)
        · exact Or.inr (Or.inr ⟨hname, hshort, hentry, middle, hrest, h⟩)

/-- Names can be followed into one more directory. -/
theorem Leads.concat {here there : Location} {trail : List String} {last : String}
    (h : Leads tree here trail there) (hlast : last ≠ "." ∧ last ≠ "..")
    (hshort : last.utf8ByteSize ≤ longestName)
    (hentry : tree.entryAt? (last :: there) = some .directory) :
    Leads tree here (trail ++ [last]) (last :: there) :=
  leads_append_iff.mpr
    ⟨there, h, .enter _ _ _ _ hlast.1 hlast.2 hshort hentry (.stop _)⟩

/-- Names end at a directory if they start at one. -/
theorem Leads.directory {here there : Location} {trail : List String}
    (h : Leads tree here trail there) (hhere : tree.entryAt? here = some .directory) :
    tree.entryAt? there = some .directory := by
  induction h with
  | stop _ => exact hhere
  | current _ _ _ _ ih => exact ih hhere
  | outer here _ _ _ ih =>
      apply ih
      cases here with
      | nil => exact hhere
      | cons name parent => exact tree.parent_directory name parent _ hhere
  | enter _ _ _ _ _ _ _ hentry _ ih => exact ih hentry

/-- Names lead to the same place as long as no directory is lost. -/
theorem Leads.mono {here there : Location} {trail : List String} (h : Leads tree here trail there)
    (hkeep : ∀ location, tree.entryAt? location = some .directory →
      other.entryAt? location = some .directory) : Leads other here trail there := by
  induction h with
  | stop _ => exact .stop _
  | current _ _ _ _ ih => exact .current _ _ _ ih
  | outer _ _ _ _ ih => exact .outer _ _ _ ih
  | enter _ _ _ _ hcurrent houter hshort hentry _ ih =>
      exact .enter _ _ _ _ hcurrent houter hshort (hkeep _ hentry) ih

/-- A `.` makes no difference to where names lead. -/
theorem leads_filter_iff {here there : Location} {trail : List String} :
    Leads tree here (trail.filter (· ≠ ".")) there ↔ Leads tree here trail there := by
  induction trail generalizing here with
  | nil => rfl
  | cons name rest ih =>
      by_cases hcurrent : name = "."
      · rw [List.filter_cons_of_neg (by simp [hcurrent]), ih, leads_cons_iff]
        simp [hcurrent]
      · rw [List.filter_cons_of_pos (by simpa using hcurrent)]
        simp only [leads_cons_iff, ih]

/-- Whatever a location lies in is a directory. -/
theorem directory_of_append {inner outer : Location} {entry : Entry}
    (h : tree.entryAt? (inner ++ outer) = some entry) (hinner : inner ≠ []) :
    tree.entryAt? outer = some .directory := by
  induction inner generalizing entry with
  | nil => exact absurd rfl hinner
  | cons name rest ih =>
      have hrest := tree.parent_directory name (rest ++ outer) entry h
      cases rest with
      | nil => exact hrest
      | cons next rest => exact ih hrest (by simp)

/-- Without any `..`, names lead to the location they spell, if it is a directory and no name is too
long. -/
theorem leads_iff_of_no_outer {here there : Location} {trail : List String}
    (htrail : ".." ∉ trail) (hhere : tree.entryAt? here = some .directory) :
    Leads tree here trail there ↔
      there = (trail.filter (· ≠ ".")).reverse ++ here ∧
      (∀ name ∈ trail.filter (· ≠ "."), name.utf8ByteSize ≤ longestName) ∧
      tree.entryAt? there = some .directory := by
  induction trail generalizing here with
  | nil =>
      simp only [leads_nil_iff, List.filter_nil, List.reverse_nil, List.nil_append,
        List.not_mem_nil, false_implies, implies_true, true_and]
      exact ⟨fun h => ⟨h, h ▸ hhere⟩, fun h => h.1⟩
  | cons name rest ih =>
      rw [List.mem_cons, not_or] at htrail
      obtain ⟨hname, hrest⟩ := htrail
      rw [leads_cons_iff]
      by_cases hcurrent : name = "."
      · simp [hcurrent, ih hrest hhere]
      · simp only [hcurrent, Ne.symm hname, false_and, false_or, ne_eq, not_false_eq_true,
          and_self, true_and]
        rw [List.filter_cons_of_pos (by simpa using hcurrent), List.reverse_cons,
          List.append_assoc, List.singleton_append, List.forall_mem_cons]
        constructor
        · rintro ⟨hshort, hentry, h⟩
          obtain ⟨hthere, hrestShort, hdirectory⟩ := (ih hrest hentry).mp h
          exact ⟨hthere, ⟨hshort, hrestShort⟩, hdirectory⟩
        · rintro ⟨hthere, ⟨hshort, hrestShort⟩, hdirectory⟩
          -- The next name is a directory: it is where the trail ends, or lies above that.
          have hentry : tree.entryAt? (name :: here) = some .directory := by
            cases hnames : (rest.filter (· ≠ ".")).reverse with
            | nil =>
                rw [hthere, hnames] at hdirectory
                exact hdirectory
            | cons last names =>
                rw [hthere] at hdirectory
                exact directory_of_append hdirectory (by rw [hnames]; simp)
          exact ⟨hshort, hentry, (ih hrest hentry).mpr ⟨hthere, hrestShort, hdirectory⟩⟩

/-! ## The place of a path -/

/-- Where a path starts depends on the working directory only. -/
theorem start_location (path : Path) :
    (tree.start path).location = if path.isAbsolute then [] else tree.working := by
  unfold start
  split <;> rfl

/-- An ordinary last name stands for its place in the directory the names before it lead to. -/
theorem locate_concat_iff {here : tree.Directory} {location : Location} {names : List String}
    {last : String} (hlast : last ≠ "." ∧ last ≠ "..") :
    tree.locate? here (names ++ [last]) = some location ↔
      ∃ parent, Leads tree here.location names parent ∧ last.utf8ByteSize ≤ longestName ∧
        location = last :: parent := by
  simp only [locate?, List.getLast?_concat, List.dropLast_concat, hlast, decide_false,
    Bool.or_self, Bool.false_eq_true, if_false]
  cases hwalk : tree.walk here names with
  | error error =>
      simp only [reduceCtorEq, false_iff, not_exists, not_and]
      intro parent hparent
      have hnext : tree.walk here names = .ok ⟨parent, hparent.directory here.isDirectory⟩ :=
        walk_ok_iff.mpr hparent
      rw [hwalk] at hnext
      cases hnext
  | ok found =>
      have hfound := walk_ok_iff.mp hwalk
      by_cases hlong : longestName < last.utf8ByteSize
      · simp only [hlong, if_true, reduceCtorEq, false_iff, not_exists, not_and]
        intro _ _ hshort
        omega
      · simp only [hlong, if_false, Option.some.injEq]
        constructor
        · rintro rfl
          exact ⟨found.location, hfound, by omega, rfl⟩
        · rintro ⟨parent, hparent, _, rfl⟩
          have hnext : tree.walk here names = .ok ⟨parent, hparent.directory here.isDirectory⟩ :=
            walk_ok_iff.mpr hparent
          rw [hwalk, Except.ok.injEq] at hnext
          rw [hnext]

/-- Where names lead is the place they stand for. -/
theorem Leads.locate {here : tree.Directory} {there : Location} {trail : List String}
    (h : Leads tree here.location trail there) : tree.locate? here trail = some there := by
  rcases trail.eq_nil_or_concat' with rfl | ⟨names, last, rfl⟩
  · rw [leads_nil_iff] at h
    rw [h]
    rfl
  by_cases hlast : last ≠ "." ∧ last ≠ ".."
  · obtain ⟨parent, hnames, hend⟩ := leads_append_iff.mp h
    simp only [leads_cons_iff, leads_nil_iff, hlast, false_and, false_or] at hend
    obtain ⟨_, hshort, _, rfl⟩ := hend
    exact (locate_concat_iff hlast).mpr ⟨parent, hnames, hshort, rfl⟩
  · -- Behind a `.` or `..` there is a directory, so the names are followed to the end.
    have hdots : (decide (last = ".") || decide (last = "..")) = true := by
      simpa [Decidable.or_iff_not_imp_left] using hlast
    have hwalk : tree.walk here (names ++ [last]) = .ok ⟨there, h.directory here.isDirectory⟩ :=
      walk_ok_iff.mpr h
    simp [locate?, hdots, hwalk, Except.toOption]

/-- Without any `..`, what an ordinary last name stands for is at the location that all names
spell. -/
theorem entry_concat_iff {here : tree.Directory} {names : List String} {last : String}
    {entry : Entry} (hnames : ".." ∉ names) (hlast : last ≠ "." ∧ last ≠ "..") :
    (tree.locate? here (names ++ [last])).bind tree.entryAt? = some entry ↔
      ((∀ name ∈ names.filter (· ≠ "."), name.utf8ByteSize ≤ longestName) ∧
        last.utf8ByteSize ≤ longestName) ∧
      tree.entryAt? (last :: ((names.filter (· ≠ ".")).reverse ++ here.location)) =
        some entry := by
  simp only [Option.bind_eq_some_iff, locate_concat_iff hlast,
    leads_iff_of_no_outer hnames here.isDirectory]
  constructor
  · rintro ⟨_, ⟨_, ⟨rfl, hshort, _⟩, hlastShort, rfl⟩, hentry⟩
    exact ⟨⟨hshort, hlastShort⟩, hentry⟩
  · rintro ⟨⟨hshort, hlastShort⟩, hentry⟩
    have hparent := tree.parent_directory last _ entry hentry
    exact ⟨_, ⟨_, ⟨rfl, hshort, hparent⟩, hlastShort, rfl⟩, hentry⟩

end PluginDescriptor.FileTree
