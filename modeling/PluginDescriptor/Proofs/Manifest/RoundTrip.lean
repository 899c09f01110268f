import PluginDescriptor.Proofs.Manifest.Written
import PluginDescriptor.Proofs.Toml.Writer

/-!
# Writing and parsing a manifest

Every list of declarations is written by some text, such as `writeManifest`, and parsed from every
text that writes it: `written_parsed`.
-/

namespace PluginDescriptor.Manifest

open Toml

/-- The block of an annotation with all its fields. -/
def writeMarker (marker : Marker) : List Statement :=
  .arrayTable ⟨["declaration"], "annotation"⟩ :: (markerFields marker).map assignmentOf

/-- The block of a declaration with all its fields, and the blocks of its annotations. -/
def writeDeclaration (declaration : Declaration) : List Statement :=
  .arrayTable ⟨[], "declaration"⟩ :: ((declarationFields declaration).map assignmentOf ++
    (declaration.markers.map writeMarker).flatten)

/-- A manifest that lists the declarations. -/
def writeManifest (declarations : List Declaration) : String :=
  String.ofList (writeDocument (declarations.map writeDeclaration).flatten)

/-- All fields are written if none is left out. -/
theorem written_all {all : List (String × Value)} (defaults : List (String × Value))
    (h : (all.map Prod.fst).Nodup) : Written all defaults all where
  nodup := h.of_map
  known _ hfield := hfield
  given _ hfield := Or.inl hfield

/-- A position can be written. -/
theorem writable_position (position : Position) : Writable (positionValue position) := by
  have hnumber : ∀ number : UInt32, WritableScalar (.integer number.toNat) := fun number =>
    .number (Nat.lt_trans number.toNat_lt (by decide))
  refine .table ?_ ?_
  · simp only [List.forall_mem_cons]
    exact ⟨hnumber _, hnumber _, List.forall_mem_nil _⟩
  · rw [Ordered, List.pairwise_pair]
    exact (by decide : "column" < "line")

/-- The fields of an annotation can be written. -/
theorem writable_marker_fields (marker : Marker) :
    ∀ field ∈ markerFields marker, Writable field.2 := by
  rw [markerFields, List.forall_mem_cons]
  refine ⟨writable_position _, ?_⟩
  intro field hfield
  obtain ⟨text, _, rfl⟩ := Option.map_eq_some_iff.mp (Option.mem_toList.mp hfield)
  exact .scalar (.string text)

/-- The fields of a declaration can be written. -/
theorem writable_declaration_fields (declaration : Declaration) :
    ∀ field ∈ declarationFields declaration, Writable field.2 := by
  have himplements : ∀ element ∈ declaration.implements.map Value.string,
      WritableScalar element := by
    intro element helement
    obtain ⟨name, _, rfl⟩ := List.mem_map.mp helement
    exact .string name
  rw [declarationFields, List.forall_mem_append]
  refine ⟨?_, ?_⟩
  · simp only [List.forall_mem_cons]
    exact ⟨.scalar (.string _), .scalar (.string _), .scalar (.string _), .scalar (.boolean _),
      .array himplements, writable_position _, List.forall_mem_nil _⟩
  · intro field hfield
    obtain ⟨name, _, rfl⟩ := Option.map_eq_some_iff.mp (Option.mem_toList.mp hfield)
    exact .scalar (.string name)

/-- Fields are assigned by statements that can be written if their values can. -/
theorem writable_assignments {fields : List (String × Value)}
    (h : ∀ field ∈ fields, Writable field.2) :
    ∀ statement ∈ fields.map assignmentOf, WritableStatement statement := by
  intro statement hstatement
  obtain ⟨field, hfield, rfl⟩ := List.mem_map.mp hstatement
  have hshort : ([] : List String).length < longestKey := by decide
  exact .assignment hshort (h field hfield)

/-- The block of an annotation can be written. -/
theorem writable_marker (marker : Marker) :
    ∀ statement ∈ writeMarker marker, WritableStatement statement := by
  rw [writeMarker, List.forall_mem_cons]
  exact ⟨.arrayTable (by decide), writable_assignments (writable_marker_fields marker)⟩

/-- The block of a declaration can be written. -/
theorem writable_declaration (declaration : Declaration) :
    ∀ statement ∈ writeDeclaration declaration, WritableStatement statement := by
  rw [writeDeclaration, List.forall_mem_cons, List.forall_mem_append]
  refine ⟨.arrayTable (by decide),
    writable_assignments (writable_declaration_fields declaration), ?_⟩
  intro statement hstatement
  obtain ⟨block, hblock, hmember⟩ := List.mem_flatten.mp hstatement
  obtain ⟨marker, _, rfl⟩ := List.mem_map.mp hblock
  exact writable_marker marker statement hmember

/-- Every list of declarations can be written. -/
theorem manifest_text_write (declarations : List Declaration) :
    ManifestText declarations (writeManifest declarations) := by
  refine ⟨declarations.map writeDeclaration, _, ?_, document_text_write ?_,
    Or.inl String.toList_ofList⟩
  · rw [List.forall₂_map_right_iff]
    refine List.forall₂_same.mpr fun declaration _ => ?_
    refine .block (written_all _ (nodup_declaration_fields declaration)) ?_
    rw [List.forall₂_map_right_iff]
    exact List.forall₂_same.mpr fun marker _ =>
      .block (written_all _ (nodup_marker_fields marker))
  · intro statement hstatement
    obtain ⟨block, hblock, hmember⟩ := List.mem_flatten.mp hstatement
    obtain ⟨declaration, _, rfl⟩ := List.mem_map.mp hblock
    exact writable_declaration declaration statement hmember

/-- Every list of declarations is written by some text, and every text that writes it is parsed to
exactly that list. -/
theorem written_parsed (declarations : List Declaration) :
    (∃ text, ManifestText declarations text) ∧
      ∀ text, ManifestText declarations text → parse text = .ok declarations :=
  ⟨⟨_, manifest_text_write declarations⟩, fun _ => parse_of_manifest_text⟩

/-- A class with a letter outside ASCII in its name, and with two annotations: the value of the
first has to be escaped, the second has no value. -/
def gadget : Declaration where
  name := "de.Gerät"
  implements := ["org.gradle.api.Plugin"]
  markers := [⟨some "a\n", ⟨3, 4294967295⟩⟩, ⟨none, ⟨0, 0⟩⟩]

/-- One of the texts that write the class. -/
def gadgetText : String :=
  "[[declaration]]\nname = \"de.Gerät\"\nvisibility = \"package\"\nkind = \"class\"\n" ++
  "abstract = false\nimplements = [\"org.gradle.api.Plugin\"]\n" ++
  "position = \x7bcolumn = 0, line = 0\x7d\n" ++
  "[[declaration.annotation]]\nposition = \x7bcolumn = 4294967295, line = 3\x7d\n" ++
  "value = \"a\\U0000000a\"\n[[declaration.annotation]]\n" ++
  "position = \x7bcolumn = 0, line = 0\x7d\n"

/-- The text is parsed to the class it writes. -/
theorem written_parsed_of_gadget :
    ManifestText [gadget] gadgetText ∧ parse gadgetText = .ok [gadget] := by
  have htext : writeManifest [gadget] = gadgetText := by decide +kernel
  have hwritten : ManifestText [gadget] gadgetText := htext ▸ manifest_text_write [gadget]
  exact ⟨hwritten, (written_parsed [gadget]).2 gadgetText hwritten⟩

end PluginDescriptor.Manifest
