import Mathlib.Data.List.Forall2
import Mathlib.Data.List.Nodup
import Mathlib.Logic.Equiv.Defs
import Mathlib.Logic.Function.Basic
import PluginDescriptor.Manifest.Schema

/-!
# Records in a manifest

A record is read field by field into a draft. `Fields` says what a value gives for each field of a
record, by name or by place, and `Reader.decode_ok_iff` that reading comes to exactly that: every
field is decoded from what is given for it, an unknown name or a name that is given twice is
refused, and what is not given stays empty.
-/

namespace PluginDescriptor.Manifest

open Toml (Value)

/-- `Fields names value given` says that `value` gives the fields `names` of a record: a table by
name, in any order and each name at most once, or an array by place, as far as it goes. -/
inductive Fields (names : List String) : Value → (String → Option Value) → Prop where
  | table (entries : List (String × Value)) :
      (entries.map Prod.fst).Nodup → (∀ entry ∈ entries, entry.1 ∈ names) →
      Fields names (.table entries) fun name => entries.lookup name
  | array (elements : List Value) :
      Fields names (.array elements) fun name => elements[names.idxOf name]?

variable {α : Type}

/-- What has become of a field once the value given for it, if there is one, has been decoded. -/
def Taken (decode : Value → Except SchemaError α) (given : Option Value)
    (before after : Option α) : Prop :=
  match given with
  | none => after = before
  | some value => before = none ∧ ∃ item, decode value = .ok item ∧ after = some item

/-- A computation that may fail and goes on with its result succeeds if both parts do. -/
theorem bind_ok_iff {ε β : Type} {first : Except ε α} {second : α → Except ε β} {result : β} :
    first >>= second = .ok result ↔ ∃ item, first = .ok item ∧ second item = .ok result := by
  cases first with
  | error error => simp [bind, Except.bind]
  | ok item => simp [bind, Except.bind]

/-- A computation whose result is only changed fails as before. -/
theorem bind_pure_eq_map {ε β : Type} (first : Except ε α) (change : α → β) :
    (first >>= fun item => pure (change item)) = first.map change := by
  cases first <;> rfl

/-- A field is taken if it is given for the first time and can be decoded. -/
theorem once_ok_iff {name : String} {before after : Option α} {decoded : Except SchemaError α} :
    once name before decoded = .ok after ↔
      before = none ∧ ∃ item, decoded = .ok item ∧ after = some item := by
  cases before with
  | some item => simp [once]
  | none =>
      cases decoded with
      | error error => simp [once, Except.map]
      | ok item => simp [once, Except.map, eq_comm]

/-- A list is decoded by decoding its elements. -/
theorem mapM_ok_iff {β : Type} {decode : β → Except SchemaError α} {elements : List β}
    {items : List α} : elements.mapM decode = .ok items ↔
      List.Forall₂ (fun element item => decode element = .ok item) elements items := by
  induction elements generalizing items with
  | nil =>
      rw [List.mapM_nil, List.forall₂_nil_left_iff]
      exact ⟨fun h => (Except.ok.inj h).symm, fun h => h ▸ rfl⟩
  | cons element rest ih =>
      rw [List.mapM_cons, bind_ok_iff, List.forall₂_cons_left_iff]
      simp only [bind_ok_iff, ih]
      constructor
      · rintro ⟨item, hitem, later, hlater, hitems⟩
        exact ⟨item, later, hitem, hlater, (Except.ok.inj hitems).symm⟩
      · rintro ⟨item, later, hitem, hlater, rfl⟩
        exact ⟨item, hitem, later, hlater, rfl⟩

/-! ## Reading a record -/

/-- How a record is read: a draft is made up of one slot for each field, and the value given under
the name of a field is decoded into the slot of that field, which has to be empty. -/
structure Reader (draft field : Type) [DecidableEq field] where
  /-- The fields in their order. -/
  fields : List field
  name : field → String
  slot : field → Type
  decode (field : field) : Value → Except SchemaError (slot field)
  slots : draft ≃ ((field : field) → Option (slot field))
  empty : draft
  read : draft → String × Value → Except SchemaError draft
  fields_nodup : fields.Nodup
  mem_fields (field : field) : field ∈ fields
  name_injective : Function.Injective name
  name_ordinary (field : field) : name field ≠ Value.dateTimeKey
  slots_empty (field : field) : slots empty field = none
  read_known (before : draft) (field : field) (value : Value) :
    read before (name field, value) =
      (once (name field) (slots before field) (decode field value)).map fun item =>
        slots.symm (Function.update (slots before) field item)
  read_unknown (before after : draft) (key : String) (value : Value) :
    read before (key, value) = .ok after → ∃ field, name field = key

namespace Reader

variable {draft field : Type} [DecidableEq field] (reader : Reader draft field)
  {before after : draft} {entries : List (String × Value)}

/-- The names of the fields in their order. -/
def names : List String :=
  reader.fields.map reader.name

/-- No two fields have the same name. -/
theorem names_nodup : reader.names.Nodup :=
  reader.fields_nodup.map reader.name_injective

/-- The names are those of the fields. -/
theorem mem_names {key : String} : key ∈ reader.names ↔ ∃ field, reader.name field = key := by
  simp [names, reader.mem_fields]

/-- A value that is read fills the empty slot of its field, and the other slots are as before. -/
theorem read_ok_iff {key : String} {value : Value} :
    reader.read before (key, value) = .ok after ↔
      ∃ field item, reader.name field = key ∧ reader.slots before field = none ∧
        reader.decode field value = .ok item ∧
        reader.slots after = Function.update (reader.slots before) field (some item) := by
  constructor
  · intro h
    obtain ⟨field, rfl⟩ := reader.read_unknown before after key value h
    rw [reader.read_known] at h
    cases honce : once (reader.name field) (reader.slots before field)
        (reader.decode field value) with
    | error error =>
        rw [honce] at h
        cases h
    | ok filled =>
        rw [honce] at h
        obtain ⟨hempty, item, hitem, rfl⟩ := once_ok_iff.mp honce
        cases h
        exact ⟨field, item, rfl, hempty, hitem, Equiv.apply_symm_apply _ _⟩
  · rintro ⟨field, item, rfl, hempty, hitem, hafter⟩
    rw [reader.read_known, once_ok_iff.mpr ⟨hempty, item, hitem, rfl⟩, Except.map, ← hafter,
      Equiv.symm_apply_apply]

/-- Values that are read one after the other have names that are known and differ, and each slot
holds what is given for its field, or what it held before. -/
theorem foldlM_ok_iff :
    entries.foldlM reader.read before = .ok after ↔
      (entries.map Prod.fst).Nodup ∧ (∀ entry ∈ entries, ∃ field, reader.name field = entry.1) ∧
        ∀ field, Taken (reader.decode field) (entries.lookup (reader.name field))
          (reader.slots before field) (reader.slots after field) := by
  induction entries generalizing before with
  | nil =>
      have hnothing : (∀ field, reader.slots after field = reader.slots before field) ↔
          before = after := by
        rw [← funext_iff, EmbeddingLike.apply_eq_iff_eq]
        exact eq_comm
      simpa [Taken, pure, Except.pure] using hnothing.symm
  | cons entry rest ih =>
      obtain ⟨key, value⟩ := entry
      rw [List.foldlM_cons, bind_ok_iff]
      simp only [ih, reader.read_ok_iff, List.map_cons, List.nodup_cons, List.forall_mem_cons]
      constructor
      · rintro ⟨next, ⟨field, item, rfl, hempty, hitem, hnext⟩, hnodup, hknown, htaken⟩
        have hfresh : rest.lookup (reader.name field) = none := by
          -- Were the name given again, its slot would no longer be empty.
          have hlater := htaken field
          rw [hnext, Function.update_self] at hlater
          cases hlookup : rest.lookup (reader.name field) with
          | none => rfl
          | some value =>
              rw [hlookup] at hlater
              cases hlater.1
        refine ⟨⟨?_, hnodup⟩, ⟨⟨field, rfl⟩, hknown⟩, ?_⟩
        · intro hagain
          obtain ⟨again, hmember, hname⟩ := List.mem_map.mp hagain
          have hdifferent := List.lookup_eq_none_iff.mp hfresh again hmember
          simp [hname] at hdifferent
        · intro other
          have hother := htaken other
          by_cases hsame : other = field
          · subst hsame
            rw [hfresh, hnext, Function.update_self] at hother
            rw [List.lookup_cons_self]
            exact ⟨hempty, item, hitem, hother⟩
          · rw [hnext, Function.update_of_ne hsame] at hother
            rwa [List.lookup_cons, beq_false_of_ne (reader.name_injective.ne hsame)]
      · rintro ⟨⟨hfresh, hnodup⟩, ⟨⟨field, rfl⟩, hknown⟩, htaken⟩
        have hfirst := htaken field
        rw [List.lookup_cons_self] at hfirst
        obtain ⟨hempty, item, hitem, hafter⟩ := hfirst
        refine ⟨reader.slots.symm (Function.update (reader.slots before) field (some item)),
          ⟨field, item, rfl, hempty, hitem, Equiv.apply_symm_apply _ _⟩, hnodup, hknown, ?_⟩
        intro other
        rw [Equiv.apply_symm_apply]
        by_cases hsame : other = field
        · subst hsame
          have hnone : rest.lookup (reader.name other) = none := by
            rw [List.lookup_eq_none_iff]
            intro entry hentry
            simp only [bne_iff_ne, ne_eq]
            intro hname
            exact hfresh (List.mem_map.mpr ⟨entry, hentry, hname.symm⟩)
          rw [hnone, Function.update_self]
          exact hafter
        · have hother := htaken other
          rw [List.lookup_cons, beq_false_of_ne (reader.name_injective.ne hsame)] at hother
          rwa [Function.update_of_ne hsame]

/-- The fields of an array stand at the places of their names. -/
theorem lookup_zip {names : List String} {elements : List Value} (hnames : names.Nodup)
    {name : String} (hname : name ∈ names) :
    (names.zip elements).lookup name = elements[names.idxOf name]? := by
  induction names generalizing elements with
  | nil => cases hname
  | cons first rest ih =>
      cases elements with
      | nil => simp
      | cons element elements =>
          rw [List.zip_cons_cons, List.lookup_cons]
          by_cases hfirst : name = first
          · simp [hfirst]
          · have hrest := (List.mem_cons.mp hname).resolve_left hfirst
            rw [beq_false_of_ne hfirst, List.idxOf_cons_ne _ (Ne.symm hfirst),
              List.getElem?_cons_succ]
            exact ih hnames.of_cons hrest

/-- An array gives no other fields. -/
theorem map_fst_zip_sublist (names : List String) (elements : List Value) :
    ((names.zip elements).map Prod.fst).Sublist names := by
  induction names generalizing elements with
  | nil => simp
  | cons first rest ih =>
      cases elements with
      | nil => simp
      | cons element elements => exact (ih elements).cons_cons first

/-- A record is decoded if each of its fields can be taken from what the value gives for it, and the
draft can be finished. -/
theorem decode_ok_iff {record : String} {value : Value} {finish : draft → Except SchemaError α}
    {item : α} : (recordFields record reader.names value >>= fun entries =>
        entries.foldlM reader.read reader.empty >>= finish) = .ok item ↔
      ∃ given draft, Fields reader.names value given ∧
        (∀ field, Taken (reader.decode field) (given (reader.name field)) none
          (reader.slots draft field)) ∧ finish draft = .ok item := by
  simp only [bind_ok_iff, reader.foldlM_ok_iff, reader.slots_empty, ← reader.mem_names]
  constructor
  · rintro ⟨entries, hentries, draft, ⟨hnodup, hknown, htaken⟩, hfinish⟩
    cases value with
    | table =>
        cases hentries
        exact ⟨_, draft, .table entries hnodup hknown, htaken, hfinish⟩
    | array elements =>
        cases hentries
        refine ⟨_, draft, .array elements, ?_, hfinish⟩
        intro field
        rw [← lookup_zip reader.names_nodup (reader.mem_names.mpr ⟨field, rfl⟩)]
        exact htaken field
    | dateTime text =>
        -- A date and time would be a table with a key that no record has.
        cases hentries
        obtain ⟨field, hfield⟩ := reader.mem_names.mp (hknown _ (.head _))
        exact absurd hfield (reader.name_ordinary field)
    | _ => cases hentries
  · rintro ⟨given, draft, hgiven, htaken, hfinish⟩
    cases hgiven with
    | table entries hnodup hknown => exact ⟨entries, rfl, draft, ⟨hnodup, hknown, htaken⟩, hfinish⟩
    | array elements =>
        refine ⟨reader.names.zip elements, rfl, draft, ⟨?_, ?_, ?_⟩, hfinish⟩
        · exact reader.names_nodup.sublist (map_fst_zip_sublist reader.names elements)
        · intro entry hentry
          exact (List.of_mem_zip hentry).1
        · intro field
          rw [lookup_zip reader.names_nodup (reader.mem_names.mpr ⟨field, rfl⟩)]
          exact htaken field

end Reader

end PluginDescriptor.Manifest
