import PluginDescriptor.Proofs.Willing

/-!
# A descriptor is written as a whole or not at all

A write that succeeds leaves the complete descriptor at its path, and one that fails leaves every
file as it was; either way nothing else is new but directories on the way. This holds of the write
that is made at once, and it holds at whatever stage a disk refuses to go on, as long as the disk
never refuses to discard a draft. Both writes take the same steps of the tree, so `AllOrNothing` is
read off these steps in both cases, and the main statement, `write_all_or_nothing`, puts the two
side by side.
-/

namespace PluginDescriptor

open FileTree

/-- What stands at a location is what stood there, or nothing stood there and it is a directory now,
which a leading part of the path to a directory stands for. -/
def SameOrOnTheWay (directory : Path) (before after : FileTree) (location : Location) : Prop :=
  after.entryAt? location = before.entryAt? location ∨
    before.entryAt? location = none ∧ after.entryAt? location = some .directory ∧
      ∃ part, part <+: directory.trail ∧
        after.locate? (after.start directory) part = some location

/-- What a write can have come to, given what came of creating its directory. -/
def AllOrNothing (directory : Path) (id : PluginId) (bytes : List UInt8)
    (created : Except FileError Unit) (before : FileTree) :
    Except DescriptorError Path × FileTree → Prop
  | (.ok path, after) =>
    created = .ok () ∧ path = directory.join ⟨id.fileName⟩ ∧
      after.entryOf? path = some (.file bytes) ∧
      ∀ location, after.location? path ≠ some location →
        SameOrOnTheWay directory before after location
  | (.error error, after) =>
    (∀ location content, after.entryAt? location = some (.file content) ↔
        before.entryAt? location = some (.file content)) ∧
      after.entryOf? (directory.join ⟨id.fileName⟩) =
        before.entryOf? (directory.join ⟨id.fileName⟩) ∧
      (∀ location, SameOrOnTheWay directory before after location) ∧
      match created with
      | .error cause => error = .createDirectory directory cause
      | .ok () => ∃ cause, error = .write (directory.join ⟨id.fileName⟩) cause

variable {directory : Path} {id : PluginId} {bytes : List UInt8} {before after : FileTree}
  {allowed : PluginId → List UInt8 → Prop}

/-- Where no file is put in place, all that is new is directories on the way. -/
theorem same_or_on_the_way (h : Changes directory allowed before after) {location : Location}
    (hlocation : ∀ id bytes, allowed id bytes →
      after.location? (directory.join ⟨id.fileName⟩) ≠ some location) :
    SameOrOnTheWay directory before after location := by
  have hfile := h.file_iff hlocation
  -- What stood there is kept, so the location is different only if nothing stood there.
  cases hbefore : before.entryAt? location with
  | some entry =>
      left
      cases entry with
      | file content => rw [hbefore, (hfile content).mpr hbefore]
      | directory => rw [hbefore, h.keeps.directory location hbefore]
  | none =>
      cases hafter : after.entryAt? location with
      | none => exact Or.inl (hafter.trans hbefore.symm)
      | some entry =>
          cases entry with
          | file content =>
              have hsame := (hfile content).mp hafter
              rw [hbefore] at hsame
              cases hsame
          | directory =>
              right
              rcases h.confined.directory location hafter with hsame | ⟨part, hpart, hleads⟩
              · rw [hbefore] at hsame
                cases hsame
              · exact ⟨hbefore, hafter, part, hpart, hleads.locate⟩

/-- A write that has put no file in place has done nothing but create directories on the way. -/
theorem all_or_nothing_of_error {created : Except FileError Unit} {error : DescriptorError}
    (hdirectory : directory.HasNoOuter) (h : Changes directory noFile before after)
    (hcause : match created with
      | .error cause => error = .createDirectory directory cause
      | .ok () => ∃ cause, error = .write (directory.join ⟨id.fileName⟩) cause) :
    AllOrNothing directory id bytes created before (.error error, after) := by
  refine ⟨?_, ?_, ?_, hcause⟩
  · intro location content
    exact h.file_iff (fun _ _ hallowed => hallowed.elim) content
  · exact h.entry_of_file ((Path.has_no_outer_iff directory).mp hdirectory) fun _ hallowed =>
      hallowed
  · intro location
    exact same_or_on_the_way h fun _ _ hallowed => hallowed.elim

/-- A write that has put its file in place has done nothing else but create directories on the
way. -/
theorem all_or_nothing_of_ok (h : PutInPlace directory id bytes before after) :
    AllOrNothing directory id bytes (.ok ()) before
      (.ok (directory.join ⟨id.fileName⟩), after) := by
  refine ⟨rfl, rfl, h.entry, ?_⟩
  intro location hlocation
  apply same_or_on_the_way h.changes
  intro other content hallowed
  rw [hallowed.1]
  exact hlocation

/-- A write that is made at once. -/
theorem all_or_nothing_of_write (hdirectory : directory.HasNoOuter) (tree : FileTree)
    (id : PluginId) (bytes : List UInt8) :
    AllOrNothing directory id bytes (tree.createDirectories directory).1 tree
      (Descriptor.write tree directory id bytes) := by
  rcases Descriptor.write_cases tree directory id bytes with
    ⟨cause, left, hcreated, hresult⟩ |
    ⟨ready, hcreated, ⟨cause, _, hresult⟩ | ⟨written, _, hresult⟩⟩
  · rw [hcreated, hresult]
    exact all_or_nothing_of_error hdirectory (Descriptor.write_error hresult) rfl
  · rw [hcreated, hresult]
    exact all_or_nothing_of_error hdirectory (Descriptor.write_error hresult) ⟨cause, rfl⟩
  · rw [hcreated, hresult]
    exact all_or_nothing_of_ok (Descriptor.write_ok hresult).2

/-- A write that is made stage by stage, at any of which the disk may refuse to go on, as long as it
discards drafts. -/
theorem all_or_nothing_of_staged (hdirectory : directory.HasNoOuter) {disk : Disk}
    (hdiscards : disk.Discards) (drafts : List DraftName) (id : PluginId) (bytes : List UInt8) :
    AllOrNothing directory id bytes (disk.createDirectories directory).1 disk.tree
      ((disk.write drafts directory id bytes).1,
        (disk.write drafts directory id bytes).2.tree) := by
  rcases disk.write_cases drafts directory id bytes with
    ⟨cause, left, hcreated, hresult⟩ |
    ⟨ready, hcreated, ⟨cause, left, _, hresult⟩ | ⟨written, _, hresult⟩⟩
  · rw [hcreated, hresult]
    exact all_or_nothing_of_error hdirectory (Disk.write_error hdiscards hresult).2 rfl
  · rw [hcreated, hresult]
    exact all_or_nothing_of_error hdirectory (Disk.write_error hdiscards hresult).2 ⟨cause, rfl⟩
  · rw [hcreated, hresult]
    exact all_or_nothing_of_ok (Disk.write_ok hresult).2.2

/-- Into a directory without any `..` a descriptor is written as a whole or not at all, be it at
once or stage by stage on a disk that refuses any of its requests but to discard a draft. Where
nothing is refused and the name of a draft is free, the two come to the same, and nothing is refused
later. -/
theorem write_all_or_nothing {directory : Path} (hdirectory : directory.HasNoOuter)
    (tree : FileTree) (id : PluginId) (charset : Charset) (content : String) :
    let bytes := charset.encode content
    AllOrNothing directory id bytes (tree.createDirectories directory).1 tree
      (Descriptor.write tree directory id bytes) ∧
    (∀ (refusals : Nat → Request → Option FileError) (drafts : List DraftName),
      let disk : Disk := ⟨tree, refusals⟩
      let written := disk.write drafts directory id bytes
      disk.Discards → AllOrNothing directory id bytes (disk.createDirectories directory).1 tree
        (written.1, written.2.tree)) ∧
    (∀ drafts : List DraftName,
      (∃ name ∈ drafts,
        (tree.createDirectories directory).2.entryOf? (directory.join ⟨name.text⟩) = none) →
      let written := Descriptor.write tree directory id bytes
      (Disk.willing tree).write drafts directory id bytes =
        (written.1, Disk.willing written.2)) := by
  intro bytes
  refine ⟨all_or_nothing_of_write hdirectory tree id bytes, ?_, ?_⟩
  · intro refusals drafts disk written hdiscards
    exact all_or_nothing_of_staged hdirectory hdiscards drafts id bytes
  · intro drafts hfree
    exact Disk.write_willing tree directory hfree id bytes

/-- One byte is written for `a.b`. A disk that refuses to flush the draft is left without the
descriptor. -/
theorem write_all_or_nothing_of_one_byte :
    let directory : Path := ⟨"out"⟩
    let target : Path := ⟨"out/a.b.properties"⟩
    let bytes := Charset.utf8.encode "x"
    let full : Disk := ⟨.empty, fun _ asked => if asked = .flush then some (.system 28) else none⟩
    directory.HasNoOuter ∧ full.Discards ∧
      ∃ (id : PluginId) (draft : DraftName), id.text = "a.b" ∧
        (Descriptor.write .empty directory id bytes).2.entryOf? target = some (.file bytes) ∧
        (full.write [draft] directory id bytes).1.toOption = none ∧
        (full.write [draft] directory id bytes).2.tree.entryOf? target = none := by
  intro directory target bytes full
  let id : PluginId := ⟨"a.b", by decide +kernel⟩
  let draft : DraftName := ⟨['a', 'b', 'c', '1', '2', '3'], by decide, by decide⟩
  have hdirectory : directory.HasNoOuter := by decide +kernel
  have hdiscards : full.Discards := fun _ => rfl
  have htarget : directory.join ⟨id.fileName⟩ = target := by decide +kernel
  obtain ⟨hatonce, hstaged, _⟩ := write_all_or_nothing hdirectory .empty id .utf8 "x"
  have hwritten : (Descriptor.write .empty directory id bytes).1.toOption = some target := by
    decide +kernel
  have hfailed : (full.write [draft] directory id bytes).1.toOption = none := by decide +kernel
  refine ⟨hdirectory, hdiscards, id, draft, rfl, ?_, hfailed, ?_⟩
  · cases hwrite : Descriptor.write .empty directory id bytes with
    | mk outcome after =>
        rw [hwrite] at hatonce hwritten
        cases outcome with
        | error error => cases hwritten
        | ok path =>
            obtain ⟨_, rfl, hentry, _⟩ := hatonce
            rw [← htarget]
            exact hentry
  · have hfull : AllOrNothing directory id bytes (full.createDirectories directory).1 .empty
        ((full.write [draft] directory id bytes).1,
          (full.write [draft] directory id bytes).2.tree) :=
      hstaged full.refusals [draft] hdiscards
    have hbefore : FileTree.empty.entryOf? target = none := by decide +kernel
    cases hwrite : full.write [draft] directory id bytes with
    | mk outcome after =>
        rw [hwrite] at hfailed hfull
        cases outcome with
        | ok path => cases hfailed
        | error error =>
            obtain ⟨_, hentry, _⟩ := hfull
            rw [htarget, hbefore] at hentry
            exact hentry

end PluginDescriptor
