import PluginDescriptor.Proofs.Manifest.Records

/-!
# What spells a manifest

`Spells value declarations` says which TOML values stand for a list of declarations, and
`SpellsPosition`, `SpellsMarker` and `SpellsDeclaration` say the same of the records in it. The main
statement is `decode_iff_spells`: a value is decoded to a list of declarations exactly if it spells
it. So a manifest with an unknown name, a missing field, a value of another kind or a number out of
range anywhere in it is refused as a whole.
-/

namespace PluginDescriptor.Manifest

open Toml (Value)

variable {α : Type}

/-! ## Spelling -/

/-- A string spells its text. -/
def SpellsText (value : Value) (text : String) : Prop :=
  value = .string text

/-- A boolean spells a flag. -/
def SpellsFlag (value : Value) (flag : Bool) : Prop :=
  value = .boolean flag

/-- An integer from 0 to 2 ^ 32 - 1 spells an unsigned 32-bit number. -/
def SpellsNumber (value : Value) (number : UInt32) : Prop :=
  value = .integer number.toNat

/-- An alternative is spelled by its name, or by a table with its name as the only key and an empty
table or array under it. -/
def SpellsChoice (name : α → String) (value : Value) (choice : α) : Prop :=
  value = .string (name choice) ∨
    ∃ payload, value = .table [(name choice, payload)] ∧ (payload = .table [] ∨ payload = .array [])

/-- An array spells the list of what its elements spell. -/
def SpellsList (spells : Value → α → Prop) (value : Value) (items : List α) : Prop :=
  ∃ elements, value = .array elements ∧ List.Forall₂ spells elements items

/-- A field that has to be given, and spells `item`. -/
def Required (spells : Value → α → Prop) (given : Option Value) (item : α) : Prop :=
  ∃ value, given = some value ∧ spells value item

/-- A field that spells `item`, or is not given where `item` is the default. -/
def Defaulted (spells : Value → α → Prop) (default : α) (given : Option Value) (item : α) : Prop :=
  match given with
  | none => item = default
  | some value => spells value item

/-- A field that spells an item, or is not given where there is none. -/
def Optional (spells : Value → α → Prop) (given : Option Value) (item : Option α) : Prop :=
  match given with
  | none => item = none
  | some value => ∃ present, item = some present ∧ spells value present

/-- A position is spelled by its line and its column. -/
def SpellsPosition (value : Value) (position : Position) : Prop :=
  ∃ given, Fields ["line", "column"] value given ∧
    Required SpellsNumber (given "line") position.line ∧
    Required SpellsNumber (given "column") position.column

/-- An annotation is spelled by its value, which may be missing, and its position. -/
def SpellsMarker (value : Value) (marker : Marker) : Prop :=
  ∃ given, Fields ["value", "position"] value given ∧
    Optional SpellsText (given "value") marker.value ∧
    Defaulted SpellsPosition ⟨0, 0⟩ (given "position") marker.position

/-- What the fields of a declaration have to spell, where they are given. -/
structure SpellsFields (given : String → Option Value) (declaration : Declaration) : Prop where
  name : Required SpellsText (given "name") declaration.name
  visibility : Defaulted (SpellsChoice Visibility.name) .package (given "visibility")
    declaration.visibility
  kind : Defaulted (SpellsChoice Kind.name) .isClass (given "kind") declaration.kind
  isAbstract : Defaulted SpellsFlag false (given "abstract") declaration.isAbstract
  implements : Defaulted (SpellsList SpellsText) [] (given "implements") declaration.implements
  enclosing : Optional SpellsText (given "enclosing") declaration.enclosing
  markers : Defaulted (SpellsList SpellsMarker) [] (given "annotation") declaration.markers
  position : Defaulted SpellsPosition ⟨0, 0⟩ (given "position") declaration.position

/-- A declaration is spelled by its fields, of which only the name has to be given. -/
def SpellsDeclaration (value : Value) (declaration : Declaration) : Prop :=
  ∃ given, Fields ["name", "visibility", "kind", "abstract", "implements", "enclosing",
      "annotation", "position"] value given ∧
    SpellsFields given declaration

/-- A list of declarations is spelled by a table with no other key than `declaration`. -/
def Spells (value : Value) (declarations : List Declaration) : Prop :=
  ∃ entries given, value = .table entries ∧ Fields ["declaration"] value given ∧
    Defaulted (SpellsList SpellsDeclaration) [] (given "declaration") declarations

variable {value : Value} {decode : Value → Except SchemaError α} {spells : Value → α → Prop}
  {given : Option Value}

/-! ## Single values -/

/-- A text is decoded from the string that spells it. -/
theorem decode_text_ok_iff (value : Value) (text : String) :
    decodeText value = .ok text ↔ SpellsText value text := by
  cases value <;> simp [decodeText, SpellsText]

/-- A flag is decoded from the boolean that spells it. -/
theorem decode_flag_ok_iff (value : Value) (flag : Bool) :
    decodeFlag value = .ok flag ↔ SpellsFlag value flag := by
  cases value <;> simp [decodeFlag, SpellsFlag]

/-- A number is decoded from the integer that spells it, and never wraps around. -/
theorem decode_number_ok_iff (value : Value) (number : UInt32) :
    decodeNumber value = .ok number ↔ SpellsNumber value number := by
  unfold SpellsNumber
  cases value with
  | integer integer =>
      simp only [decodeNumber, Value.integer.injEq]
      by_cases hrange : 0 ≤ integer ∧ integer < UInt32.size
      · rw [dif_pos hrange, Except.ok.injEq, ← UInt32.toNat_inj, UInt32.toNat_ofNatLT]
        omega
      · rw [dif_neg hrange]
        simp only [reduceCtorEq, false_iff]
        rintro rfl
        exact hrange ⟨by omega, by exact_mod_cast number.toNat_lt⟩
  | _ => simp [decodeNumber]

/-- A list is decoded from the array that spells it. -/
theorem decode_list_ok_iff (h : ∀ element item, decode element = .ok item ↔ spells element item)
    (value : Value) (items : List α) :
    decodeList decode value = .ok items ↔ SpellsList spells value items := by
  unfold SpellsList
  cases value with
  | array elements => simp [decodeList, mapM_ok_iff, h]
  | _ => simp [decodeList]

/-- An alternative is decoded from its name, as long as all of them are listed and named
differently. -/
theorem decode_name_ok_iff {all : List α} {name : α → String} (hall : ∀ choice, choice ∈ all)
    (hname : Function.Injective name) {text : String} {choice : α} :
    decodeName all name text = .ok choice ↔ text = name choice := by
  unfold decodeName
  cases hfind : all.find? fun choice => name choice = text with
  | some found =>
      have hnamed := List.find?_some hfind
      rw [decide_eq_true_eq] at hnamed
      rw [Except.ok.injEq, ← hnamed, hname.eq_iff]
  | none =>
      rw [List.find?_eq_none] at hfind
      simp only [reduceCtorEq, false_iff]
      rintro rfl
      exact hfind choice (hall choice) (decide_eq_true rfl)

/-- An alternative is decoded from a value that spells it. -/
theorem decode_choice_ok_iff {all : List α} {name : α → String} (hall : ∀ choice, choice ∈ all)
    (hname : Function.Injective name) (value : Value) (choice : α) :
    decodeChoice all name value = .ok choice ↔ SpellsChoice name value choice := by
  have hdecode : ∀ {text}, decodeName all name text = .ok choice ↔ text = name choice :=
    decode_name_ok_iff hall hname
  constructor
  · intro h
    match value, h with
    | .string text, h =>
        rw [decodeChoice, hdecode] at h
        exact Or.inl (congrArg Value.string h)
    | .table [(key, payload)], h =>
        rw [decodeChoice] at h
        cases hfound : decodeName all name key with
        | error error =>
            rw [hfound] at h
            cases h
        | ok found =>
            rw [hfound] at h
            -- The payload decides whether there is an alternative, but not which.
            match payload, h with
            | .table [], h =>
                cases h
                exact Or.inr ⟨.table [], by rw [hdecode.mp hfound], Or.inl rfl⟩
            | .array [], h =>
                cases h
                exact Or.inr ⟨.array [], by rw [hdecode.mp hfound], Or.inr rfl⟩
  · have hchoice : decodeName all name (name choice) = .ok choice := hdecode.mpr rfl
    rintro (rfl | ⟨payload, rfl, rfl | rfl⟩)
    · exact hchoice
    · simp only [decodeChoice, hchoice]
    · simp only [decodeChoice, hchoice]

/-- Every access modifier is listed. -/
theorem mem_visibility_all (visibility : Visibility) : visibility ∈ Visibility.all := by
  cases visibility <;> decide

/-- No two access modifiers have the same word. -/
theorem visibility_name_injective : Function.Injective Visibility.name := by
  intro first second h
  cases first <;> cases second <;> first | rfl | exact absurd h (by decide)

/-- Every kind is listed. -/
theorem mem_kind_all (kind : Kind) : kind ∈ Kind.all := by
  cases kind <;> decide

/-- No two kinds have the same word. -/
theorem kind_name_injective : Function.Injective Kind.name := by
  intro first second h
  cases first <;> cases second <;> first | rfl | exact absurd h (by decide)

/-! ## Fields -/

/-- A field whose item is needed is taken if it is given. -/
theorem taken_some_iff (h : ∀ value item, decode value = .ok item ↔ spells value item) {item : α} :
    Taken decode given none (some item) ↔ Required spells given item := by
  cases given <;> simp [Taken, Required, h]

/-- A field that may be left out is taken either way. -/
theorem taken_iff (h : ∀ value item, decode value = .ok item ↔ spells value item)
    {item : Option α} : Taken decode given none item ↔ Optional spells given item := by
  cases given <;> simp [Taken, Optional, h, and_comm]

/-- A field with a default is taken either way, and the default counts where it is not given. -/
theorem taken_getD_iff (h : ∀ value item, decode value = .ok item ↔ spells value item)
    {default item : α} : (∃ taken, Taken decode given none taken ∧ taken.getD default = item) ↔
      Defaulted spells default given item := by
  cases given <;> simp [Taken, Defaulted, h, eq_comm]

/-! ## Positions -/

/-- The fields of a position. -/
inductive PositionField where
  | line
  | column
deriving DecidableEq

/-- How a position is read. -/
def positionReader : Reader PositionDraft PositionField where
  fields := [.line, .column]
  name
    | .line => "line"
    | .column => "column"
  slot _ := UInt32
  decode _ := decodeNumber
  slots := {
    toFun draft
      | .line => draft.line
      | .column => draft.column
    invFun slots := ⟨slots .line, slots .column⟩
    left_inv _ := rfl
    right_inv slots := funext fun field => by cases field <;> rfl }
  empty := {}
  read := PositionDraft.read
  fields_nodup := by decide
  mem_fields field := by cases field <;> decide
  name_injective first second h := by
    cases first <;> cases second <;> first | rfl | exact absurd h (by decide)
  name_ordinary field := by cases field <;> decide
  slots_empty field := by cases field <;> rfl
  read_known before field value := by
    cases field <;> exact bind_pure_eq_map _ _
  read_unknown before after key value h := by
    unfold PositionDraft.read at h
    split at h
    · exact ⟨.line, (Prod.mk.inj ‹_›).1.symm⟩
    · exact ⟨.column, (Prod.mk.inj ‹_›).1.symm⟩
    · cases h

/-- A position is decoded from a value that spells it. -/
theorem decode_position_ok_iff (value : Value) (position : Position) :
    decodePosition value = .ok position ↔ SpellsPosition value position := by
  refine (positionReader.decode_ok_iff).trans ?_
  refine exists_congr fun given => ?_
  constructor
  · rintro ⟨draft, hgiven, htaken, hposition⟩
    have hline : Taken decodeNumber (given "line") none draft.line := htaken .line
    have hcolumn : Taken decodeNumber (given "column") none draft.column := htaken .column
    cases hfoundLine : draft.line with
    | none =>
        rw [hfoundLine] at hposition
        cases hposition
    | some line =>
        cases hfoundColumn : draft.column with
        | none =>
            rw [hfoundLine, hfoundColumn] at hposition
            cases hposition
        | some column =>
            rw [hfoundLine, hfoundColumn] at hposition
            cases hposition
            rw [hfoundLine] at hline
            rw [hfoundColumn] at hcolumn
            exact ⟨hgiven, (taken_some_iff decode_number_ok_iff).mp hline,
              (taken_some_iff decode_number_ok_iff).mp hcolumn⟩
  · rintro ⟨hgiven, hline, hcolumn⟩
    refine ⟨⟨some position.line, some position.column⟩, hgiven, ?_, rfl⟩
    intro field
    cases field with
    | line => exact (taken_some_iff decode_number_ok_iff).mpr hline
    | column => exact (taken_some_iff decode_number_ok_iff).mpr hcolumn

/-! ## Annotations -/

/-- The fields of an annotation. -/
inductive MarkerField where
  | value
  | position
deriving DecidableEq

/-- What a field of an annotation holds. -/
def MarkerField.Slot : MarkerField → Type
  | .value => String
  | .position => Position

/-- How an annotation is read. -/
def markerReader : Reader MarkerDraft MarkerField where
  fields := [.value, .position]
  name
    | .value => "value"
    | .position => "position"
  slot := MarkerField.Slot
  decode
    | .value => decodeText
    | .position => decodePosition
  slots := {
    toFun draft
      | .value => draft.value
      | .position => draft.position
    invFun slots := ⟨slots .value, slots .position⟩
    left_inv _ := rfl
    right_inv slots := funext fun field => by cases field <;> rfl }
  empty := {}
  read := MarkerDraft.read
  fields_nodup := by decide
  mem_fields field := by cases field <;> decide
  name_injective first second h := by
    cases first <;> cases second <;> first | rfl | exact absurd h (by decide)
  name_ordinary field := by cases field <;> decide
  slots_empty field := by cases field <;> rfl
  read_known before field value := by
    cases field <;> exact bind_pure_eq_map _ _
  read_unknown before after key value h := by
    unfold MarkerDraft.read at h
    split at h
    · exact ⟨.value, (Prod.mk.inj ‹_›).1.symm⟩
    · exact ⟨.position, (Prod.mk.inj ‹_›).1.symm⟩
    · cases h

/-- An annotation is decoded from a value that spells it. -/
theorem decode_marker_ok_iff (value : Value) (marker : Marker) :
    decodeMarker value = .ok marker ↔ SpellsMarker value marker := by
  refine (markerReader.decode_ok_iff).trans ?_
  refine exists_congr fun given => ?_
  constructor
  · rintro ⟨draft, hgiven, htaken, hmarker⟩
    cases hmarker
    exact ⟨hgiven, (taken_iff decode_text_ok_iff).mp (htaken .value),
      (taken_getD_iff decode_position_ok_iff).mp ⟨_, htaken .position, rfl⟩⟩
  · rintro ⟨hgiven, hvalue, hplace⟩
    obtain ⟨position, htaken, hdefault⟩ := (taken_getD_iff decode_position_ok_iff).mpr hplace
    refine ⟨⟨marker.value, position⟩, hgiven, ?_, ?_⟩
    · intro field
      cases field with
      | value => exact (taken_iff decode_text_ok_iff).mpr hvalue
      | position => exact htaken
    · simp only [hdefault]
      rfl

/-! ## Declarations -/

/-- The fields of a declaration. -/
inductive DeclarationField where
  | name
  | visibility
  | kind
  | isAbstract
  | implements
  | enclosing
  | markers
  | position
deriving DecidableEq

/-- What a field of a declaration holds. -/
def DeclarationField.Slot : DeclarationField → Type
  | .name => String
  | .visibility => Visibility
  | .kind => Kind
  | .isAbstract => Bool
  | .implements => List String
  | .enclosing => String
  | .markers => List Marker
  | .position => Position

/-- How a declaration is read. -/
def declarationReader : Reader DeclarationDraft DeclarationField where
  fields := [.name, .visibility, .kind, .isAbstract, .implements, .enclosing, .markers, .position]
  name
    | .name => "name"
    | .visibility => "visibility"
    | .kind => "kind"
    | .isAbstract => "abstract"
    | .implements => "implements"
    | .enclosing => "enclosing"
    | .markers => "annotation"
    | .position => "position"
  slot := DeclarationField.Slot
  decode
    | .name => decodeText
    | .visibility => decodeChoice Visibility.all Visibility.name
    | .kind => decodeChoice Kind.all Kind.name
    | .isAbstract => decodeFlag
    | .implements => decodeList decodeText
    | .enclosing => decodeText
    | .markers => decodeList decodeMarker
    | .position => decodePosition
  slots := {
    toFun draft
      | .name => draft.name
      | .visibility => draft.visibility
      | .kind => draft.kind
      | .isAbstract => draft.isAbstract
      | .implements => draft.implements
      | .enclosing => draft.enclosing
      | .markers => draft.markers
      | .position => draft.position
    invFun slots :=
      ⟨slots .name, slots .visibility, slots .kind, slots .isAbstract, slots .implements,
        slots .enclosing, slots .markers, slots .position⟩
    left_inv _ := rfl
    right_inv slots := funext fun field => by cases field <;> rfl }
  empty := {}
  read := DeclarationDraft.read
  fields_nodup := by decide
  mem_fields field := by cases field <;> decide
  name_injective first second h := by
    cases first <;> cases second <;> first | rfl | exact absurd h (by decide)
  name_ordinary field := by cases field <;> decide
  slots_empty field := by cases field <;> rfl
  read_known before field value := by
    cases field <;> exact bind_pure_eq_map _ _
  read_unknown before after key value h := by
    unfold DeclarationDraft.read at h
    split at h
    · exact ⟨.name, (Prod.mk.inj ‹_›).1.symm⟩
    · exact ⟨.visibility, (Prod.mk.inj ‹_›).1.symm⟩
    · exact ⟨.kind, (Prod.mk.inj ‹_›).1.symm⟩
    · exact ⟨.isAbstract, (Prod.mk.inj ‹_›).1.symm⟩
    · exact ⟨.implements, (Prod.mk.inj ‹_›).1.symm⟩
    · exact ⟨.enclosing, (Prod.mk.inj ‹_›).1.symm⟩
    · exact ⟨.markers, (Prod.mk.inj ‹_›).1.symm⟩
    · exact ⟨.position, (Prod.mk.inj ‹_›).1.symm⟩
    · cases h

/-- A declaration is decoded from a value that spells it. -/
theorem decode_declaration_ok_iff (value : Value) (declaration : Declaration) :
    decodeDeclaration value = .ok declaration ↔ SpellsDeclaration value declaration := by
  have htexts := decode_list_ok_iff decode_text_ok_iff
  have hmarkers := decode_list_ok_iff decode_marker_ok_iff
  have hvisibility := decode_choice_ok_iff mem_visibility_all visibility_name_injective
  have hkind := decode_choice_ok_iff mem_kind_all kind_name_injective
  refine (declarationReader.decode_ok_iff).trans ?_
  refine exists_congr fun given => ?_
  constructor
  · rintro ⟨draft, hgiven, htaken, hdeclaration⟩
    have hname : Taken decodeText (given "name") none draft.name := htaken .name
    cases hfoundName : draft.name with
    | none =>
        rw [hfoundName] at hdeclaration
        cases hdeclaration
    | some name =>
        rw [hfoundName] at hdeclaration
        cases hdeclaration
        rw [hfoundName] at hname
        exact ⟨hgiven, {
          name := (taken_some_iff decode_text_ok_iff).mp hname
          visibility := (taken_getD_iff hvisibility).mp ⟨_, htaken .visibility, rfl⟩
          kind := (taken_getD_iff hkind).mp ⟨_, htaken .kind, rfl⟩
          isAbstract := (taken_getD_iff decode_flag_ok_iff).mp ⟨_, htaken .isAbstract, rfl⟩
          implements := (taken_getD_iff htexts).mp ⟨_, htaken .implements, rfl⟩
          enclosing := (taken_iff decode_text_ok_iff).mp (htaken .enclosing)
          markers := (taken_getD_iff hmarkers).mp ⟨_, htaken .markers, rfl⟩
          position := (taken_getD_iff decode_position_ok_iff).mp ⟨_, htaken .position, rfl⟩ }⟩
  · rintro ⟨hgiven, hfields⟩
    obtain ⟨visibility, hgivenVisibility, hvisibility⟩ :=
      (taken_getD_iff hvisibility).mpr hfields.visibility
    obtain ⟨kind, hgivenKind, hkind⟩ := (taken_getD_iff hkind).mpr hfields.kind
    obtain ⟨isAbstract, hgivenAbstract, habstract⟩ :=
      (taken_getD_iff decode_flag_ok_iff).mpr hfields.isAbstract
    obtain ⟨implements, hgivenImplements, himplements⟩ :=
      (taken_getD_iff htexts).mpr hfields.implements
    obtain ⟨markers, hgivenMarkers, hmarkers⟩ := (taken_getD_iff hmarkers).mpr hfields.markers
    obtain ⟨position, hgivenPosition, hposition⟩ :=
      (taken_getD_iff decode_position_ok_iff).mpr hfields.position
    refine ⟨⟨some declaration.name, visibility, kind, isAbstract, implements, declaration.enclosing,
      markers, position⟩, hgiven, ?_, ?_⟩
    · intro field
      cases field with
      | name => exact (taken_some_iff decode_text_ok_iff).mpr hfields.name
      | visibility => exact hgivenVisibility
      | kind => exact hgivenKind
      | isAbstract => exact hgivenAbstract
      | implements => exact hgivenImplements
      | enclosing => exact (taken_iff decode_text_ok_iff).mpr hfields.enclosing
      | markers => exact hgivenMarkers
      | position => exact hgivenPosition
    · simp only [DeclarationDraft.complete, hvisibility, hkind, habstract, himplements, hmarkers,
        hposition]
      rfl

/-! ## Manifests -/

/-- How the only field of a manifest is read. -/
def manifestReader : Reader (Option (List Declaration)) Unit where
  fields := [()]
  name _ := declarationsKey
  slot _ := List Declaration
  decode _ := decodeList decodeDeclaration
  slots := {
    toFun draft := fun _ => draft
    invFun slots := slots ()
    left_inv _ := rfl
    right_inv _ := rfl }
  empty := none
  read := readDeclarations
  fields_nodup := by decide
  mem_fields _ := .head _
  name_injective _ _ _ := rfl
  name_ordinary _ := by decide
  slots_empty _ := rfl
  read_known before _ value := by
    rw [readDeclarations, if_pos rfl]
    cases once declarationsKey before (decodeList decodeDeclaration value) <;> rfl
  read_unknown before after key value h := by
    unfold readDeclarations at h
    by_cases hkey : key = declarationsKey
    · exact ⟨(), hkey.symm⟩
    · rw [if_neg hkey] at h
      cases h

/-- What is decoded to a list of declarations spells it. -/
theorem spells_of_decode {declarations : List Declaration}
    (h : Manifest.decode value = .ok declarations) : Spells value declarations := by
  have hlist := decode_list_ok_iff decode_declaration_ok_iff
  cases value with
  | table entries =>
      rw [Manifest.decode, bind_ok_iff] at h
      obtain ⟨draft, hdraft, hdeclarations⟩ := h
      obtain ⟨hnodup, hknown, htaken⟩ := manifestReader.foldlM_ok_iff.mp hdraft
      refine ⟨entries, _, rfl, .table entries hnodup ?_, ?_⟩
      · intro entry hentry
        obtain ⟨_, hname⟩ := hknown entry hentry
        exact List.mem_singleton.mpr hname.symm
      · exact (taken_getD_iff hlist).mp ⟨_, htaken (), Except.ok.inj hdeclarations⟩
  | _ => cases h

/-- What spells a list of declarations is decoded to it. -/
theorem decode_of_spells {declarations : List Declaration} (h : Spells value declarations) :
    Manifest.decode value = .ok declarations := by
  have hlist := decode_list_ok_iff decode_declaration_ok_iff
  obtain ⟨entries, given, rfl, hgiven, hspells⟩ := h
  cases hgiven with
  | table _ hnodup hknown =>
      obtain ⟨draft, htaken, hdeclarations⟩ := (taken_getD_iff hlist).mpr hspells
      have hdraft : entries.foldlM readDeclarations none = .ok draft := by
        refine manifestReader.foldlM_ok_iff.mpr ⟨hnodup, ?_, fun _ => htaken⟩
        intro entry hentry
        exact ⟨(), (List.mem_singleton.mp (hknown entry hentry)).symm⟩
      rw [Manifest.decode, bind_ok_iff]
      exact ⟨draft, hdraft, congrArg Except.ok hdeclarations⟩

/-- A value is decoded to a list of declarations if and only if it spells it. -/
theorem decode_iff_spells {declarations : List Declaration} :
    Manifest.decode value = .ok declarations ↔ Spells value declarations :=
  ⟨spells_of_decode, decode_of_spells⟩

end PluginDescriptor.Manifest
