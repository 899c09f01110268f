import PluginDescriptor.Proofs.Refinement

/-!
# The last writer wins

Any number of passes may go over the same output root, some of them cut short, with declarations and
settings of their own. What then stands at the path of a descriptor is decided by the history of the
descriptors that were put in place: the latest one for the id, or what stood there at first if there
is none. The invariant is `Accounts`; `last_writer_wins` is the main statement.
-/

namespace PluginDescriptor.Plan

open FileTree Descriptor

/-- The latest of the descriptors that were put in place for an id. -/
def latest? (id : PluginId) (writings : List Writing) : Option Writing :=
  writings.reverse.find? fun writing => writing.id = id

/-- What stands at the path of an id after some descriptors have been put in place, where `before`
stood there at first. -/
def settled (id : PluginId) (writings : List Writing) (before : Option Entry) : Option Entry :=
  match latest? id writings with
  | some writing => some (.file writing.bytes)
  | none => before

/-- `Accounts directory before after writings` says that `writings` account for whatever is
different in `after` at the paths of descriptors in `directory`. -/
def Accounts (directory : Path) (before after : FileTree) (writings : List Writing) : Prop :=
  ∀ id : PluginId, after.entryOf? (directory.join ⟨id.fileName⟩) =
    settled id writings (before.entryOf? (directory.join ⟨id.fileName⟩))

/-- One pass of several over the same output root: all that it does not share with the others. -/
structure Visit where
  encoding : String
  label : GeneratorLabel
  declarations : List Declaration
  clock : Clock
  diagnostics : Diagnostics := {}
  log : List Event := []

namespace Visit

/-- The settings of a pass over an output root. -/
def config (visit : Visit) (root : Path) : Config :=
  ⟨root, visit.encoding, visit.label⟩

/-- The session a pass works on, with the file tree it finds. -/
def session (visit : Visit) (tree : FileTree) : Session :=
  ⟨tree, visit.clock, visit.diagnostics, visit.log⟩

/-- The file tree that a pass leaves, whether or not it is completed. -/
def treeAfter (visit : Visit) (root : Path) (tree : FileTree) : FileTree :=
  (Pass.run (visit.config root) visit.declarations (visit.session tree)).2.tree

/-- The descriptors that a pass puts in place, whether or not it is completed. -/
def writings (visit : Visit) (root : Path) (tree : FileTree) : List Writing :=
  (execute (visit.config root) (ofUnit visit.declarations)
    (ofSession (visit.session tree) [])).2.writings

end Visit

/-- The file tree that passes leave, each going over what the one before has left. -/
def treeAfter (root : Path) : List Visit → FileTree → FileTree
  | [], tree => tree
  | visit :: rest, tree => treeAfter root rest (visit.treeAfter root tree)

/-- The descriptors that passes put in place, in order. -/
def history (root : Path) : List Visit → FileTree → List Writing
  | [], _ => []
  | visit :: rest, tree =>
    visit.writings root tree ++ history root rest (visit.treeAfter root tree)

variable {config : Config} {state : State} {directory : Path} {before tree after : FileTree}
  {id : PluginId} {first second writings : List Writing} {writing : Writing}

/-! ## The latest descriptor of an id -/

/-- The latest descriptor is looked for in what came later first. -/
theorem latest_append :
    latest? id (first ++ second) = (latest? id second).or (latest? id first) := by
  simp [latest?, List.reverse_append, List.find?_append]

/-- The latest descriptor of an id is followed by none of the same id. -/
theorem latest_eq_some_iff :
    latest? id writings = some writing ↔
      writing.id = id ∧ ∃ earlier later, writings = earlier ++ writing :: later ∧
        ∀ other ∈ later, other.id ≠ id := by
  simp only [latest?, List.find?_eq_some_iff_append, decide_eq_true_eq, Bool.not_eq_true',
    decide_eq_false_iff_not]
  constructor
  · rintro ⟨hid, later, earlier, hwritings, hlater⟩
    refine ⟨hid, earlier.reverse, later.reverse, ?_, ?_⟩
    · have hreversed := congrArg List.reverse hwritings
      simpa using hreversed
    · intro other hother
      exact hlater other (List.mem_reverse.mp hother)
  · rintro ⟨hid, earlier, later, rfl, hlater⟩
    refine ⟨hid, later.reverse, earlier.reverse, by simp, ?_⟩
    intro other hother
    exact hlater other (List.mem_reverse.mp hother)

/-- There is a latest descriptor of an id as soon as there is one at all. -/
theorem latest_eq_none_iff :
    latest? id writings = none ↔ ∀ writing ∈ writings, writing.id ≠ id := by
  simp [latest?, List.find?_eq_none]

/-- Every descriptor that was put in place is the latest of its id or followed by one that is. -/
theorem exists_latest (h : writing ∈ writings) :
    ∃ last, latest? writing.id writings = some last := by
  cases hlatest : latest? writing.id writings with
  | none => exact absurd rfl (latest_eq_none_iff.mp hlatest writing h)
  | some last => exact ⟨last, rfl⟩

/-! ## What accounts for the entries at the paths of descriptors -/

/-- Where no file has been put in place, there is nothing to account for. -/
theorem accounts_of_no_file (hdirectory : ".." ∉ directory.trail)
    (h : Changes directory noFile before after) : Accounts directory before after [] := by
  intro id
  exact h.entry_of_file hdirectory fun _ hallowed => hallowed

/-- Accounts of one stretch after the other can be put together. -/
theorem Accounts.append (hfirst : Accounts directory before tree first)
    (hsecond : Accounts directory tree after second) :
    Accounts directory before after (first ++ second) := by
  intro id
  rw [hsecond id, hfirst id]
  unfold settled
  rw [latest_append]
  cases latest? id second <;> rfl

/-- A descriptor that is put in place is accounted for. -/
theorem accounts_of_in_place (hdirectory : ".." ∉ directory.trail)
    (h : PutInPlace directory writing.id writing.bytes before after) :
    Accounts directory before after [writing] := by
  intro id
  by_cases hid : writing.id = id
  · have hlatest : latest? id [writing] = some writing := by simp [latest?, hid]
    rw [settled, hlatest, ← hid]
    exact h.entry
  · have hlatest : latest? id [writing] = none := by simp [latest?, hid]
    rw [settled, hlatest]
    exact h.changes.entry_of_file hdirectory fun bytes hallowed => hid hallowed.1.symm

/-- Steps record the descriptors that account for them, also where they are cut short. -/
theorem Executed.accounts {steps : List Step} {outcome : Except DescriptorError Unit}
    {ended : State} (hroot : config.outputRoot.HasNoOuter)
    (h : Executed config (InPlace config) steps state outcome ended) :
    ∃ recorded, ended.writings = state.writings ++ recorded ∧
      Accounts config.descriptorDirectory state.tree ended.tree recorded := by
  have hdirectory := config.descriptor_directory_no_outer hroot
  exact h.recorded (accounts_of_no_file hdirectory) (accounts_of_in_place hdirectory)
    Accounts.append

/-- What a pass puts in place accounts for what it leaves. -/
theorem visit_accounts {root : Path} (hroot : root.HasNoOuter) (visit : Visit) (tree : FileTree) :
    Accounts (root.join Config.descriptorFolder) tree (visit.treeAfter root tree)
      (visit.writings root tree) := by
  have hconfig : (visit.config root).outputRoot.HasNoOuter := hroot
  obtain ⟨recorded, hwritings, haccounts⟩ :=
    (execute_in_place (visit.config root) (ofUnit visit.declarations)
      (ofSession (visit.session tree) [])).accounts hconfig
  rw [Visit.writings, hwritings, Visit.treeAfter, run_tree]
  exact haccounts

/-- What passes put in place accounts for what they leave. -/
theorem history_accounts {root : Path} (hroot : root.HasNoOuter) (visits : List Visit)
    (tree : FileTree) :
    Accounts (root.join Config.descriptorFolder) tree (treeAfter root visits tree)
      (history root visits tree) := by
  induction visits generalizing tree with
  | nil =>
      intro id
      rfl
  | cons visit rest ih =>
      exact (visit_accounts hroot visit tree).append (ih (visit.treeAfter root tree))

/-- Every descriptor in the history is a write of one of the passes, with the label and the charset
of that pass and a reading of its clock. -/
theorem mem_history {root : Path} {visits : List Visit} {tree : FileTree}
    (h : writing ∈ history root visits tree) :
    ∃ visit ∈ visits, (writing.id, writing.className) ∈ writes (ofUnit visit.declarations) ∧
      writing.label = visit.label ∧ (∃ count, writing.moment = visit.clock.reading count) ∧
      Charset.ofName visit.encoding = .ok writing.charset := by
  induction visits generalizing tree with
  | nil => cases h
  | cons visit rest ih =>
      rcases List.mem_append.mp h with hfirst | hlater
      · obtain ⟨place, hplace⟩ := List.mem_iff_getElem?.mp hfirst
        have hplaced : (placed (visit.config root) visit.declarations
            (visit.session tree))[place]? = some writing := hplace
        obtain ⟨hwrite, hlabel, hmoment, hcharset⟩ := writing_of_placed hplaced
        exact ⟨visit, .head _, List.mem_of_getElem? hwrite, hlabel, ⟨place, hmoment⟩, hcharset⟩
      · obtain ⟨source, hsource, hrest⟩ := ih hlater
        exact ⟨source, .tail _ hsource, hrest⟩

/-- After any number of passes over an output root without any `..`, the file of an id that has been
put in place holds its latest descriptor, and what stands at the path of any other id is what stood
there at first. Every descriptor is one that a pass was asked for, with the settings of that pass.
-/
theorem last_writer_wins {root : Path} (hroot : root.HasNoOuter) (visits : List Visit)
    (tree : FileTree) (id : PluginId) :
    let path := (root.join Config.descriptorFolder).join ⟨id.fileName⟩
    let writings := history root visits tree
    ((∃ writing ∈ writings, writing.id = id) →
      ∃ earlier writing later, writings = earlier ++ writing :: later ∧ writing.id = id ∧
        (∀ other ∈ later, other.id ≠ id) ∧
        (treeAfter root visits tree).entryOf? path = some (.file writing.bytes)) ∧
    ((∀ writing ∈ writings, writing.id ≠ id) →
      (treeAfter root visits tree).entryOf? path = tree.entryOf? path) ∧
    (∀ writing ∈ writings, ∃ visit ∈ visits,
      (writing.id, writing.className) ∈ writes (ofUnit visit.declarations) ∧
      writing.label = visit.label ∧ (∃ count, writing.moment = visit.clock.reading count) ∧
      Charset.ofName visit.encoding = .ok writing.charset) := by
  intro path writings
  have haccounts : (treeAfter root visits tree).entryOf? path =
      settled id writings (tree.entryOf? path) := history_accounts hroot visits tree id
  refine ⟨?_, ?_, fun _ => mem_history⟩
  · intro hsome
    obtain ⟨written, hwritten, hid⟩ := hsome
    cases hlatest : latest? id writings with
    | none => exact absurd hid (latest_eq_none_iff.mp hlatest written hwritten)
    | some writing =>
        obtain ⟨hid, earlier, later, hwritings, hlater⟩ := latest_eq_some_iff.mp hlatest
        refine ⟨earlier, writing, later, hwritings, hid, hlater, ?_⟩
        rw [haccounts, settled, hlatest]
  · intro hnone
    rw [haccounts, settled, latest_eq_none_iff.mpr hnone]

/-- A pass over one class with an annotation for `a.b`. -/
def Visit.ofClass (encoding : String) (className : String) : Visit where
  encoding
  label := .standard
  declarations := [
    { name := className
      visibility := .isPublic
      implements := [Declaration.pluginInterface]
      markers := [{ value := some "a.b" }] }]
  clock := .constant ⟨0, 0, 0⟩

/-- Of three passes that write the same id the last one fails, and the second one wins. -/
theorem last_writer_wins_second_of_three :
    let visits : List Visit := [.ofClass "UTF-8" "first.Plugin", .ofClass "latin1" "second.Plugin",
      .ofClass "unknown" "third.Plugin"]
    let after := treeAfter ⟨"out"⟩ visits .empty
    after.entryOf? ⟨"out/META-INF/gradle-plugins/a.b.properties"⟩ = some (.file
        (Charset.latin1.encode (Descriptor.render .standard ⟨0, 0, 0⟩ "second.Plugin"))) ∧
      after.entryOf? ⟨"out/META-INF/gradle-plugins/c.d.properties"⟩ = none := by
  intro visits after
  have hroot : Path.HasNoOuter ⟨"out"⟩ := by decide +kernel
  let id : PluginId := ⟨"a.b", by decide +kernel⟩
  let other : PluginId := ⟨"c.d", by decide +kernel⟩
  have hhistory : history ⟨"out"⟩ visits .empty =
      [⟨id, "first.Plugin", .standard, ⟨0, 0, 0⟩, .utf8⟩,
        ⟨id, "second.Plugin", .standard, ⟨0, 0, 0⟩, .latin1⟩] := by decide +kernel
  have hpath : (Path.join ⟨"out"⟩ Config.descriptorFolder).join ⟨id.fileName⟩ =
      ⟨"out/META-INF/gradle-plugins/a.b.properties"⟩ := by decide +kernel
  have hotherPath : (Path.join ⟨"out"⟩ Config.descriptorFolder).join ⟨other.fileName⟩ =
      ⟨"out/META-INF/gradle-plugins/c.d.properties"⟩ := by decide +kernel
  refine ⟨?_, ?_⟩
  · have hwins := (last_writer_wins hroot visits .empty id).1
    rw [hhistory, hpath] at hwins
    obtain ⟨earlier, writing, later, hwritings, _, hlater, hentry⟩ := hwins ⟨_, .head _, rfl⟩
    -- The first descriptor is followed by another of the same id, so it is not the latest.
    rcases earlier with _ | ⟨first, _ | ⟨second, earlier⟩⟩
    · rw [List.nil_append, List.cons.injEq] at hwritings
      obtain ⟨_, rfl⟩ := hwritings
      exact absurd rfl (hlater _ (.head _))
    · rw [List.cons_append, List.nil_append, List.cons.injEq, List.cons.injEq] at hwritings
      obtain ⟨_, rfl, _⟩ := hwritings
      exact hentry
    · simp at hwritings
  · have hsame := (last_writer_wins hroot visits .empty other).2.1
    rw [hhistory, hotherPath] at hsame
    have hnone :
        FileTree.empty.entryOf? ⟨"out/META-INF/gradle-plugins/c.d.properties"⟩ = none := by
      decide +kernel
    rw [← hnone]
    exact hsame (by decide +kernel)

end PluginDescriptor.Plan
