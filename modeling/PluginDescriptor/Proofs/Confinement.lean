import PluginDescriptor.Proofs.Eligibility
import PluginDescriptor.Proofs.Refinement
import PluginDescriptor.Proofs.Turns

/-!
# What a run can do to a file tree

However a run ends, every file that is new or different is the descriptor of an id that a
declaration of a loaded manifest is entitled to, no file is lost, and every new directory lies on
the way to the descriptors. A pass changes the tree by the descriptors that it puts in place, which
its declarations are entitled to, so does a run by those of its passes, and the main statement,
`run_confined`, is what such changes can come to.
-/

namespace PluginDescriptor

open FileTree Descriptor

/-- The bytes are a descriptor for a class with the settings of a pass, made at some moment. -/
def Config.Renders (config : Config) (className : String) (bytes : List UInt8) : Prop :=
  ∃ charset moment, Charset.ofName config.encoding = .ok charset ∧
    bytes = charset.encode (render config.label moment className)

/-- What passes over these declarations may put in place: descriptors of ids that a declaration is
entitled to, naming that declaration. -/
def Declaration.Grants (config : Config) (declarations : List Declaration) (id : PluginId)
    (bytes : List UInt8) : Prop :=
  ∃ declaration ∈ declarations, declaration.Licenses id ∧ config.Renders declaration.name bytes

namespace Plan

/-- A pass changes the tree by descriptors that its declarations are entitled to. -/
theorem run_changes (config : Config) (declarations : List Declaration) (session : Session) :
    Changes config.descriptorDirectory (Declaration.Grants config declarations) session.tree
      (Pass.run config declarations session).2.tree := by
  obtain ⟨recorded, hwritings, hadds⟩ :=
    (execute_in_place config (ofUnit declarations) (ofSession session [])).adds
  obtain rfl : placed config declarations session = recorded := hwritings
  rw [run_tree]
  refine Changes.mono hadds ?_
  rintro id bytes ⟨writing, hwriting, rfl, rfl⟩
  obtain ⟨place, hplace⟩ := List.mem_iff_getElem?.mp hwriting
  obtain ⟨hwrite, hlabel, _, hcharset⟩ := writing_of_placed hplace
  obtain ⟨declaration, hdeclaration, hlicenses, hname⟩ :=
    mem_writes_iff.mp (List.mem_of_getElem? hwrite)
  refine ⟨declaration, hdeclaration, hlicenses, writing.charset, writing.moment, hcharset, ?_⟩
  rw [Writing.bytes, hlabel, hname]

end Plan

namespace Run

/-- What a run may put in place: descriptors of ids that a declaration of one of its passes is
entitled to. -/
def Granted (config : Config) (passes : List Turn) (id : PluginId) (bytes : List UInt8) : Prop :=
  ∃ turn ∈ passes, Declaration.Grants config turn.declarations id bytes

/-- A pass of a run changes the tree by descriptors that the run may put in place. -/
theorem turn_changes {config : Config} {turn : Turn} {passes : List Turn}
    {outcome : Except DescriptorError Pass.Report} {session : Session} (h : turn ∈ passes)
    (hresult : turn.result config = (outcome, session)) :
    Changes config.descriptorDirectory (Granted config passes) turn.tree session.tree := by
  have hchanges := Plan.run_changes config turn.declarations turn.start
  rw [show Pass.run config turn.declarations turn.start = (outcome, session) from hresult]
    at hchanges
  exact hchanges.mono fun id bytes hgrants => ⟨turn, h, hgrants⟩

/-- A run changes the tree by descriptors that it may put in place. -/
theorem Ran.changes {config : Config} {summary : Summary} {manifests : List Path} {world : World}
    {passes : List Turn} {result : Except Manifest.LoadError Summary × World}
    (h : Ran config summary manifests world passes result) :
    Changes config.descriptorDirectory (Granted config passes) world.tree result.2.tree := by
  induction h with
  | done _ _ => exact .refl
  | unloaded _ _ _ _ _ _ => exact .refl
  | completed _ _ _ _ _ _ _ _ _ _ hresult _ ih =>
      -- The rest of the run may put less in place than the whole.
      refine (turn_changes (.head _) hresult).trans (ih.mono ?_)
      intro id bytes hgranted
      obtain ⟨turn, hturn, hgrants⟩ := hgranted
      exact ⟨turn, .tail _ hturn, hgrants⟩
  | stopped _ _ _ _ _ _ _ _ hresult => exact turn_changes (.head _) hresult

/-- However a run ends, every file that is new or different is the descriptor of an id for which it
names a declaration entitled to it, from a manifest that was loaded; every file that was there still
is one; and every new directory is what a leading part of the path to the descriptors stands for. -/
theorem run_confined (config : Config) (manifests : List Path) (world : World) :
    let after := (units config manifests world).2.tree
    (∀ location bytes, after.entryAt? location = some (.file bytes) →
      world.tree.entryAt? location ≠ some (.file bytes) →
      ∃ turn ∈ turns config manifests world.tree world.clock, turn.manifest ∈ manifests ∧
        Manifest.load turn.tree turn.manifest = .ok turn.declarations ∧
        ∃ declaration ∈ turn.declarations, ∃ id : PluginId, declaration.Licenses id ∧
          after.location? (config.descriptorDirectory.join ⟨id.fileName⟩) = some location ∧
          ∃ charset moment, Charset.ofName config.encoding = .ok charset ∧
            bytes = charset.encode (render config.label moment declaration.name)) ∧
    (∀ location bytes, world.tree.entryAt? location = some (.file bytes) →
      ∃ replaced, after.entryAt? location = some (.file replaced)) ∧
    (∀ location, after.entryAt? location = some .directory →
      world.tree.entryAt? location ≠ some .directory →
      ∃ part, part <+: config.descriptorDirectory.trail ∧
        after.locate? (after.start config.descriptorDirectory) part = some location) := by
  intro after
  have hchanges : Changes config.descriptorDirectory
      (Granted config (turns config manifests world.tree world.clock)) world.tree after :=
    (run_units_ran config {} manifests world).changes
  have hconfined := hchanges.confined
  refine ⟨?_, hchanges.keeps.file, ?_⟩
  · intro location bytes hafter hbefore
    rcases hconfined.file location bytes hafter with hsame | ⟨id, hgranted, hlocation⟩
    · exact absurd hsame hbefore
    · obtain ⟨turn, hturn, declaration, hdeclaration, hlicenses, hrenders⟩ := hgranted
      have hmanifest : turn.manifest ∈ manifests :=
        (turns_in_order config manifests world.tree world.clock).subset (List.mem_map_of_mem hturn)
      exact ⟨turn, hturn, hmanifest, load_of_mem_turns hturn, declaration, hdeclaration, id,
        hlicenses, hlocation, hrenders⟩
  · intro location hafter hbefore
    rcases hconfined.directory location hafter with hsame | ⟨part, hpart, hleads⟩
    · exact absurd hsame hbefore
    · exact ⟨part, hpart, hleads.locate⟩

end Run

end PluginDescriptor
