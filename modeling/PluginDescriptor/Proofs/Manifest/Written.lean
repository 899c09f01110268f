import PluginDescriptor.Manifest
import PluginDescriptor.Proofs.Manifest.Schema
import PluginDescriptor.Proofs.Toml.Blocks
import PluginDescriptor.Proofs.Toml.Lines

/-!
# Written manifests

`ManifestText declarations text` says that a text writes a list of declarations: a block for each of
them in order, behind it a block for each of its annotations in order, with the fields of a block in
any order, any of those left out whose value is the default, and any layout that TOML allows. The
main statement is `parse_of_manifest_text`: such a text is parsed to exactly that list.
-/

namespace PluginDescriptor.Manifest

open Toml

/-! ## The fields of a block -/

/-- A position, as an inline table. -/
def positionValue (position : Position) : Value :=
  .table [("column", .integer position.column.toNat), ("line", .integer position.line.toNat)]

/-- The fields of an annotation. A value that is missing is not written. -/
def markerFields (marker : Marker) : List (String × Value) :=
  ("position", positionValue marker.position) ::
    (marker.value.map fun text => ("value", .string text)).toList

/-- The fields of an annotation that may be left out. -/
def markerDefaults : List (String × Value) :=
  [("position", positionValue ⟨0, 0⟩)]

/-- The fields of a declaration, apart from its annotations. A declaration around it that is missing
is not written. -/
def declarationFields (declaration : Declaration) : List (String × Value) :=
  [("name", .string declaration.name), ("visibility", .string declaration.visibility.name),
    ("kind", .string declaration.kind.name), ("abstract", .boolean declaration.isAbstract),
    ("implements", .array (declaration.implements.map .string)),
    ("position", positionValue declaration.position)] ++
      (declaration.enclosing.map fun name => ("enclosing", .string name)).toList

/-- The fields of a declaration that may be left out. -/
def declarationDefaults : List (String × Value) :=
  [("visibility", .string "package"), ("kind", .string "class"), ("abstract", .boolean false),
    ("implements", .array []), ("position", positionValue ⟨0, 0⟩)]

/-- `Written all defaults fields` says that `fields` are all the fields in any order, each once, but
perhaps without some of those that have their default. -/
structure Written (all defaults fields : List (String × Value)) : Prop where
  nodup : fields.Nodup
  known : ∀ field ∈ fields, field ∈ all
  given : ∀ field ∈ all, field ∈ fields ∨ field ∈ defaults

/-! ## The blocks of a manifest -/

/-- The header and the assignments of an annotation. -/
inductive MarkerBlock (marker : Marker) : List Statement → Prop where
  | block {fields} : Written (markerFields marker) markerDefaults fields →
      MarkerBlock marker (.arrayTable ⟨["declaration"], "annotation"⟩ :: fields.map assignmentOf)

/-- The header and the assignments of a declaration, and the blocks of its annotations in order. -/
inductive DeclarationBlock (declaration : Declaration) : List Statement → Prop where
  | block {fields blocks} : Written (declarationFields declaration) declarationDefaults fields →
      List.Forall₂ MarkerBlock declaration.markers blocks →
      DeclarationBlock declaration
        (.arrayTable ⟨[], "declaration"⟩ :: (fields.map assignmentOf ++ blocks.flatten))

/-- `ManifestText declarations text` says that the text consists of the blocks of the declarations
in order, perhaps behind a byte-order mark. -/
def ManifestText (declarations : List Declaration) (text : String) : Prop :=
  ∃ blocks body, List.Forall₂ DeclarationBlock declarations blocks ∧
    DocumentText blocks.flatten body ∧ (text.toList = body ∨ text.toList = '\ufeff' :: body)

/-! ## What is found in a block -/

namespace Written

variable {all defaults fields : List (String × Value)} {name : String} {value : Value}

/-- The fields of a block have different names. -/
theorem nodup_names (h : Written all defaults fields) (hall : (all.map Prod.fst).Nodup) :
    (fields.map Prod.fst).Nodup := by
  refine h.nodup.map_on fun first hfirst second hsecond hsame => ?_
  exact List.inj_on_of_nodup_map hall (h.known first hfirst) (h.known second hsecond) hsame

/-- A field is found with its value, unless it has its default and is left out. -/
theorem lookup (h : Written all defaults fields) (hall : (all.map Prod.fst).Nodup)
    (hfield : (name, value) ∈ all) : fields.lookup name = some value ∨
      fields.lookup name = none ∧ (name, value) ∈ defaults := by
  have hnodup := h.nodup_names hall
  obtain hgiven | hdefault := h.given _ hfield
  · exact Or.inl ((lookup_eq_some_iff_mem hnodup).mpr hgiven)
  · cases hlookup : fields.lookup name with
    | none => exact Or.inr ⟨rfl, hdefault⟩
    | some found =>
        -- All fields have different names, so what is given can only be the default.
        have hfound := h.known _ ((lookup_eq_some_iff_mem hnodup).mp hlookup)
        rw [← lookup_eq_some_iff_mem hall] at hfield hfound
        exact Or.inl (hfound.symm.trans hfield)

/-- No field is found under another name. -/
theorem lookup_eq_none (h : Written all defaults fields) (hname : name ∉ all.map Prod.fst) :
    fields.lookup name = none := by
  rw [lookup_eq_none_iff_not_mem]
  intro hmember
  obtain ⟨field, hfield, rfl⟩ := List.mem_map.mp hmember
  exact hname (List.mem_map_of_mem (h.known field hfield))

variable {α : Type} {spells : Value → α → Prop} {item default : α}

/-- A field without a default is given. -/
theorem required (h : Written all defaults fields) (hall : (all.map Prod.fst).Nodup)
    (hfield : (name, value) ∈ all) (hneeded : (name, value) ∉ defaults)
    (hspells : spells value item) :
    Required spells (fields.lookup name) item := by
  obtain hlookup | ⟨_, hdefault⟩ := h.lookup hall hfield
  · exact ⟨value, hlookup, hspells⟩
  · exact absurd hdefault hneeded

/-- A field with a default is given, or the item is the default. -/
theorem defaulted (h : Written all defaults fields) (hall : (all.map Prod.fst).Nodup)
    (hfield : (name, value) ∈ all) (hdefault : (name, value) ∈ defaults → item = default)
    (hspells : spells value item) : Defaulted spells default (fields.lookup name) item := by
  obtain hlookup | ⟨hlookup, hmember⟩ := h.lookup hall hfield
  · rw [hlookup]
    exact hspells
  · rw [hlookup]
    exact hdefault hmember

/-- A field that may be missing is given if there is something to give. -/
theorem optional (h : Written all defaults fields) (hall : (all.map Prod.fst).Nodup)
    {item : Option α} {write : α → Value} (hspells : ∀ present, spells (write present) present)
    (hneeded : ∀ present ∈ item, (name, write present) ∈ all ∧ (name, write present) ∉ defaults)
    (hmissing : item = none → name ∉ all.map Prod.fst) :
    Optional spells (fields.lookup name) item := by
  cases item with
  | none =>
      rw [h.lookup_eq_none (hmissing rfl)]
      rfl
  | some present =>
      obtain ⟨hfield, hdefault⟩ := hneeded present rfl
      obtain ⟨value, hlookup, hvalue⟩ := h.required hall hfield hdefault (hspells present)
      rw [hlookup]
      exact ⟨present, rfl, hvalue⟩

end Written

/-- A position is spelled by its inline table. -/
theorem spells_position_value (position : Position) :
    SpellsPosition (positionValue position) position := by
  refine ⟨_, .table _ (by simp) (by simp), ?_, ?_⟩
  · exact ⟨_, rfl, rfl⟩
  · exact ⟨_, rfl, rfl⟩

/-- Positions are told apart by their inline tables. -/
theorem position_value_injective {position other : Position}
    (h : positionValue position = positionValue other) : position = other := by
  obtain ⟨line, column⟩ := position
  obtain ⟨otherLine, otherColumn⟩ := other
  simp only [positionValue, Value.table.injEq, List.cons.injEq, Prod.mk.injEq, true_and,
    Value.integer.injEq, Int.natCast_inj, UInt32.toNat_inj, and_true] at h
  rw [h.1, h.2]

/-- The fields of an annotation have different names. -/
theorem nodup_marker_fields (marker : Marker) : ((markerFields marker).map Prod.fst).Nodup := by
  cases h : marker.value <;> simp [markerFields, h]

/-- The fields of an annotation are those of the schema. -/
theorem name_of_mem_marker_fields {marker : Marker} {field : String × Value}
    (h : field ∈ markerFields marker) : field.1 ∈ ["value", "position"] := by
  cases hvalue : marker.value <;> simp only [markerFields, hvalue, Option.map_none, Option.map_some,
    Option.toList_none, Option.toList_some, List.mem_cons, List.not_mem_nil, or_false] at h <;>
    grind

/-- An annotation is spelled by a table with the fields that are written for it. -/
theorem spells_marker_of_written {marker : Marker} {fields : List (String × Value)}
    {entries : Entries} (h : Written (markerFields marker) markerDefaults fields)
    (hordered : Ordered entries) (hentries : (entriesValue entries).Perm fields) :
    SpellsMarker (.table (entriesValue entries)) marker := by
  have hnodup := (Entries.ordered_entries_value hordered).nodup
  have hlookup := lookup_eq_of_perm hentries hnodup
  have hall := nodup_marker_fields marker
  refine ⟨_, .table _ hnodup ?_, ?_, ?_⟩
  · intro entry hentry
    exact name_of_mem_marker_fields (h.known entry (hentries.mem_iff.mp hentry))
  · rw [hlookup]
    refine h.optional hall (fun _ => rfl) ?_ ?_
    · rintro text htext
      rw [Option.mem_def] at htext
      simp [markerFields, markerDefaults, htext]
    · intro hnone
      simp [markerFields, hnone]
  · rw [hlookup]
    refine h.defaulted hall (by simp [markerFields]) ?_ (spells_position_value marker.position)
    intro hdefault
    exact position_value_injective (by simpa [markerDefaults] using hdefault)

/-- The fields of a declaration have different names. -/
theorem nodup_declaration_fields (declaration : Declaration) :
    ((declarationFields declaration).map Prod.fst).Nodup := by
  cases h : declaration.enclosing <;> simp [declarationFields, h]

/-- The fields of a declaration are those of the schema. -/
theorem name_of_mem_declaration_fields {declaration : Declaration} {field : String × Value}
    (h : field ∈ declarationFields declaration) : field.1 ∈ ["name", "visibility", "kind",
      "abstract", "implements", "enclosing", "annotation", "position"] := by
  cases henclosing : declaration.enclosing <;> simp only [declarationFields, henclosing,
    Option.map_none, Option.map_some, Option.toList_none, Option.toList_some, List.mem_append,
    List.mem_cons, List.not_mem_nil, or_false] at h <;> grind

/-- Before the first of its annotations, a declaration has none. -/
theorem annotation_missing {declaration : Declaration} {fields : List (String × Value)}
    {base : Entries} (h : Written (declarationFields declaration) declarationDefaults fields)
    (hordered : Ordered base) (hbase : (entriesValue base).Perm fields) :
    base.get? "annotation" = none := by
  have hmissing : (entriesValue base).lookup "annotation" = none := by
    rw [lookup_eq_of_perm hbase (Entries.ordered_entries_value hordered).nodup]
    refine h.lookup_eq_none ?_
    cases henclosing : declaration.enclosing <;> simp [declarationFields, henclosing]
  rwa [Entries.lookup_entries_value, Option.map_eq_none_iff] at hmissing

/-- A declaration is spelled by a table with the fields that are written for it and the array of its
annotations. -/
theorem spells_declaration_of_written {declaration : Declaration} {fields : List (String × Value)}
    {base entries : Entries} {values : List Value}
    (h : Written (declarationFields declaration) declarationDefaults fields)
    (hordered : Ordered base) (hbase : (entriesValue base).Perm fields)
    (hgathered : Entries.Gathered "annotation" base values entries)
    (hvalues : List.Forall₂ SpellsMarker values declaration.markers) :
    SpellsDeclaration (.table (entriesValue entries)) declaration := by
  have hlookup := lookup_eq_of_perm hbase (Entries.ordered_entries_value hordered).nodup
  have hother : ∀ name, name ≠ "annotation" →
      (entriesValue entries).lookup name = fields.lookup name := by
    intro name hname
    rw [Entries.lookup_of_gathered_ne hname hgathered, hlookup]
  have hall := nodup_declaration_fields declaration
  have hnone := annotation_missing h hordered hbase
  have hnames : ∀ entry ∈ entriesValue entries, entry.1 ∈ ["name", "visibility", "kind", "abstract",
      "implements", "enclosing", "annotation", "position"] := by
    intro entry hentry
    obtain hname | hmember := Entries.name_of_mem_gathered hgathered (List.mem_map_of_mem hentry)
    · simp [hname]
    · obtain ⟨field, hfield, hname⟩ := List.mem_map.mp hmember
      exact hname ▸ name_of_mem_declaration_fields (h.known field (hbase.mem_iff.mp hfield))
  have hentries := Entries.ordered_entries_value (Entries.ordered_of_gathered hordered hgathered)
  refine ⟨_, .table _ hentries.nodup hnames, ?_⟩
  constructor
  case name =>
    rw [hother _ (by decide)]
    exact h.required hall (by simp [declarationFields]) (by simp [declarationDefaults]) rfl
  case visibility =>
    rw [hother _ (by decide)]
    refine h.defaulted hall (by simp [declarationFields]) ?_ (Or.inl rfl)
    intro hdefault
    have hname : declaration.visibility.name = "package" := by
      simpa [declarationDefaults] using hdefault
    exact visibility_name_injective hname
  case kind =>
    rw [hother _ (by decide)]
    refine h.defaulted hall (by simp [declarationFields]) ?_ (Or.inl rfl)
    intro hdefault
    have hname : declaration.kind.name = "class" := by simpa [declarationDefaults] using hdefault
    exact kind_name_injective hname
  case isAbstract =>
    rw [hother _ (by decide)]
    refine h.defaulted hall (by simp [declarationFields]) ?_ rfl
    simp [declarationDefaults]
  case implements =>
    rw [hother _ (by decide)]
    have hspells : SpellsList SpellsText (.array (declaration.implements.map .string))
        declaration.implements :=
      ⟨_, rfl, List.forall₂_map_left_iff.mpr (List.forall₂_same.mpr fun _ _ => rfl)⟩
    exact h.defaulted hall (by simp [declarationFields]) (by simp [declarationDefaults]) hspells
  case enclosing =>
    rw [hother _ (by decide)]
    refine h.optional hall (fun _ => rfl) ?_ ?_
    · rintro name hname
      rw [Option.mem_def] at hname
      simp [declarationFields, declarationDefaults, hname]
    · intro hmissing
      simp [declarationFields, hmissing]
  case markers =>
    rw [Entries.lookup_of_gathered hnone hgathered]
    generalize declaration.markers = markers at hvalues ⊢
    cases hvalues with
    | nil => rfl
    | cons hfirst hlater => exact ⟨_, rfl, .cons hfirst hlater⟩
  case position =>
    rw [hother _ (by decide)]
    refine h.defaulted hall (by simp [declarationFields]) ?_ (spells_position_value _)
    intro hdefault
    exact position_value_injective (by simpa [declarationDefaults] using hdefault)

/-! ## Building the document -/

/-- The entries of a document whose last declaration has the entries `last`, behind `declared`. -/
def withLast (declared : List Value) (last : Entries) : Entries :=
  Entries.put "declaration" (.tables declared last) []

/-- Behind the declarations `declared`, the last declaration has the fields `base` and has got the
annotations `values`. -/
def Annotated (declared : List Value) (base : Entries) (values : List Value) (document : Document) :
    Prop :=
  ∃ last path, document = ⟨withLast declared last, path⟩ ∧
    Entries.Gathered "annotation" base values last

/-- The block of an annotation adds one annotation to the last declaration. -/
theorem apply_marker_block {marker : Marker} {block : List Statement} {declared values : List Value}
    {base : Entries} {document : Document} (hbase : base.get? "annotation" = none)
    (h : MarkerBlock marker block) (hreached : Annotated declared base values document) :
    ∃ value next, SpellsMarker value marker ∧ Annotated declared base (values ++ [value]) next ∧
      block.foldlM Document.apply document = some next := by
  obtain ⟨last, current, rfl, hgathered⟩ := hreached
  cases h with
  | @block fields hwritten =>
      obtain ⟨final, hfinal, hordered, hvalues⟩ :=
        Entries.fields_assigned (hwritten.nodup_names (nodup_marker_fields marker))
      refine ⟨.table (entriesValue final),
        ⟨withLast declared (base.put "annotation" (.tables values final)),
          ["declaration", "annotation"]⟩, spells_marker_of_written hwritten hordered hvalues,
        ⟨_, _, rfl, .some values final⟩, ?_⟩
      have hheader : Document.apply ⟨withLast declared last, current⟩
          (.arrayTable ⟨["declaration"], "annotation"⟩) =
            some ⟨withLast declared (base.put "annotation" (.tables values [])),
              ["declaration", "annotation"]⟩ := by
        rw [Document.apply, withLast, Entries.modify_put_tables, Entries.modify,
          Entries.open_next_of_gathered hbase hgathered]
        rfl
      have hinside : ∀ last change,
          (withLast declared (base.put "annotation" (.tables values last))).modify change
            ["declaration", "annotation"] =
              (change last).map fun last =>
                withLast declared (base.put "annotation" (.tables values last)) := by
        intro last change
        rw [withLast, Entries.modify_put_tables, Entries.modify_put_tables, Option.map_map,
          Entries.modify]
        rfl
      rw [List.foldlM_cons, hheader]
      refine (apply_fields hinside fields []).trans ?_
      rw [hfinal]
      rfl

/-- The block of a declaration adds one declaration, with its annotations. -/
theorem apply_declaration_block {declaration : Declaration} {block : List Statement}
    {values : List Value} {document : Document} (h : DeclarationBlock declaration block)
    (hgathered : Entries.Gathered "declaration" [] values document.entries) :
    ∃ value next, SpellsDeclaration value declaration ∧
      Entries.Gathered "declaration" [] (values ++ [value]) next.entries ∧
        block.foldlM Document.apply document = some next := by
  cases h with
  | @block fields blocks hwritten hblocks =>
      obtain ⟨base, hbase, hordered, hvalues⟩ :=
        Entries.fields_assigned (hwritten.nodup_names (nodup_declaration_fields declaration))
      have hheader : Document.apply document (.arrayTable ⟨[], "declaration"⟩) =
          some ⟨withLast values [], ["declaration"]⟩ := by
        rw [Document.apply, Entries.modify, Entries.open_next_of_gathered rfl hgathered]
        rfl
      have hinside : ∀ last change, (withLast values last).modify change ["declaration"] =
          (change last).map (withLast values) := by
        intro last change
        rw [withLast, Entries.modify_put_tables, Entries.modify]
        rfl
      have hfields : (fields.map assignmentOf).foldlM Document.apply
          ⟨withLast values [], ["declaration"]⟩ = some ⟨withLast values base, ["declaration"]⟩ := by
        rw [apply_fields hinside fields [], hbase]
        rfl
      have hnone := annotation_missing hwritten hordered hvalues
      obtain ⟨markers, _, hmarkers, ⟨last, path, rfl, hlast⟩, happly⟩ :=
        apply_blocks (Annotated values base) hblocks
          (apply_marker_block (annotation_missing hwritten hordered hvalues))
          ⟨base, ["declaration"], rfl, .none⟩
      refine ⟨.table (entriesValue last), ⟨withLast values last, path⟩,
        spells_declaration_of_written hwritten hordered hvalues hlast hmarkers,
        .some values last, ?_⟩
      rw [List.foldlM_cons, hheader]
      refine (List.foldlM_append ..).trans ?_
      rw [hfields]
      exact happly

/-- The blocks of all declarations make up a document that spells them. -/
theorem spells_of_blocks {declarations : List Declaration} {blocks : List (List Statement)}
    (h : List.Forall₂ DeclarationBlock declarations blocks) :
    ∃ document, Document.ofStatements? blocks.flatten = some document ∧
      Spells document.value declarations := by
  have hstart : Entries.Gathered "declaration" [] [] ({} : Document).entries := .none
  obtain ⟨values, document, hvalues, hgathered, happly⟩ :=
    apply_blocks (fun values document => Entries.Gathered "declaration" [] values document.entries)
      h apply_declaration_block hstart
  have hordered := Entries.ordered_of_gathered List.Pairwise.nil hgathered
  refine ⟨document, happly, entriesValue document.entries, _, rfl,
    .table _ (Entries.ordered_entries_value hordered).nodup ?_, ?_⟩
  · intro entry hentry
    obtain hname | hnone := Entries.name_of_mem_gathered hgathered (List.mem_map_of_mem hentry)
    · exact List.mem_singleton.mpr hname
    · cases hnone
  · rw [Entries.lookup_of_gathered rfl hgathered]
    cases hvalues with
    | nil => rfl
    | cons hfirst hlater => exact ⟨_, rfl, .cons hfirst hlater⟩

/-- A text that writes a list of declarations is parsed to that list. -/
theorem parse_of_manifest_text {declarations : List Declaration} {text : String}
    (h : ManifestText declarations text) : parse text = .ok declarations := by
  obtain ⟨blocks, body, hblocks, hbody, htext⟩ := h
  obtain ⟨document, hdocument, hspells⟩ := spells_of_blocks hblocks
  have hvalue : parse? text = some document.value := by
    rw [parse?, statements_of_document hbody htext, Option.bind_some, hdocument, Option.map_some]
  rw [parse, hvalue]
  simp only [decode_of_spells hspells]

end PluginDescriptor.Manifest
