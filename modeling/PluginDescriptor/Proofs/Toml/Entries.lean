import Mathlib.Data.List.Nodup
import PluginDescriptor.Toml.Document

/-!
# Tables under construction

The entries of a table are kept in the order of their names, so the order in which they are assigned
does not show: `assign_all` says that assigning fields with different names that are new succeeds
and leads to these fields in order, beside what was there before.
-/

namespace PluginDescriptor.Toml

/-- The entries are in the order of their names, which differ. -/
def Ordered {α : Type} (entries : List (String × α)) : Prop :=
  entries.Pairwise fun first second => first.1 < second.1

/-- Entries in order have different names. -/
theorem Ordered.nodup {α : Type} {entries : List (String × α)} (h : Ordered entries) :
    (entries.map Prod.fst).Nodup := by
  rw [List.Nodup, List.pairwise_map]
  refine h.imp ?_
  rintro first second hlt hsame
  rw [hsame] at hlt
  exact String.lt_irrefl _ hlt

/-- Two lists of the same entries in order are equal. -/
theorem Ordered.eq_of_perm {α : Type} {entries others : List (String × α)} (h : Ordered entries)
    (hothers : Ordered others) (hperm : entries.Perm others) : entries = others := by
  refine List.Perm.eq_of_pairwise ?_ h hothers hperm
  intro first second _ _ hlt hgt
  exact absurd (String.lt_trans hlt hgt) (String.lt_irrefl _)

/-- With different names, an entry is found under its name. -/
theorem lookup_eq_some_iff_mem {α : Type} {entries : List (String × α)} {name : String} {item : α}
    (h : (entries.map Prod.fst).Nodup) :
    entries.lookup name = some item ↔ (name, item) ∈ entries := by
  constructor
  · intro hlookup
    obtain ⟨before, after, rfl, _⟩ := List.lookup_eq_some_iff.mp hlookup
    simp
  · intro hmember
    obtain ⟨before, after, rfl⟩ := List.append_of_mem hmember
    refine List.lookup_eq_some_iff.mpr ⟨before, after, rfl, ?_⟩
    intro entry hentry
    rw [List.map_append, List.map_cons, List.nodup_middle, List.nodup_cons] at h
    simp only [bne_iff_ne, ne_eq]
    intro hname
    exact h.1 (List.mem_append_left _ (List.mem_map.mpr ⟨entry, hentry, hname.symm⟩))

/-- No entry is found under a name that none of them has. -/
theorem lookup_eq_none_iff_not_mem {α : Type} {entries : List (String × α)} {name : String} :
    entries.lookup name = none ↔ name ∉ entries.map Prod.fst := by
  rw [List.lookup_eq_none_iff]
  simp only [bne_iff_ne, ne_eq, List.mem_map, not_exists, not_and]
  exact ⟨fun h entry hentry hname => h entry hentry hname.symm,
    fun h entry hentry hname => h entry hentry hname.symm⟩

/-- With different names, the order of the entries does not matter for what is found. -/
theorem lookup_eq_of_perm {α : Type} {entries others : List (String × α)}
    (hperm : entries.Perm others) (h : (entries.map Prod.fst).Nodup) (name : String) :
    entries.lookup name = others.lookup name := by
  have hothers := (hperm.map Prod.fst).nodup_iff.mp h
  ext item
  rw [lookup_eq_some_iff_mem h, lookup_eq_some_iff_mem hothers, hperm.mem_iff]

namespace Entries

variable {entries : Entries} {name : String} {node : Node}

/-- Putting a node under a name adds no other name. -/
theorem name_of_mem_put {entry : String × Node} (h : entry ∈ entries.put name node) :
    entry.1 = name ∨ entry ∈ entries := by
  induction entries with
  | nil =>
      rw [put, List.mem_singleton] at h
      exact Or.inl (h ▸ rfl)
  | cons head rest ih =>
      unfold put at h
      split at h
      · obtain rfl | hrest := List.mem_cons.mp h
        · exact Or.inl rfl
        · exact Or.inr hrest
      · split at h
        · obtain rfl | hrest := List.mem_cons.mp h
          · exact Or.inl rfl
          · exact Or.inr (.tail _ hrest)
        · obtain rfl | hrest := List.mem_cons.mp h
          · exact Or.inr (.head _)
          · exact (ih hrest).imp_right (.tail _)

/-- The order is kept. -/
theorem ordered_put (h : Ordered entries) : Ordered (entries.put name node) := by
  induction entries with
  | nil => exact List.pairwise_singleton _ _
  | cons head rest ih =>
      obtain ⟨hhead, hrest⟩ := List.pairwise_cons.mp h
      unfold put
      by_cases hlt : name < head.1
      · rw [if_pos hlt]
        refine List.pairwise_cons.mpr ⟨?_, h⟩
        rintro entry (_ | ⟨_, hentry⟩)
        · exact hlt
        · exact String.lt_trans hlt (hhead entry hentry)
      · rw [if_neg hlt]
        by_cases hsame : name = head.1
        · rw [if_pos hsame]
          subst hsame
          exact List.pairwise_cons.mpr ⟨hhead, hrest⟩
        · rw [if_neg hsame]
          refine List.pairwise_cons.mpr ⟨?_, ih hrest⟩
          intro entry hentry
          obtain hname | hmember := name_of_mem_put hentry
          · rw [hname]
            refine Decidable.byContradiction fun hnot => hsame ?_
            exact String.le_antisymm (String.not_lt.mp hnot) (String.not_lt.mp hlt)
          · exact hhead entry hmember

/-- A node that is put under a new name is one more entry. -/
theorem put_perm (h : name ∉ entries.map Prod.fst) :
    (entries.put name node).Perm ((name, node) :: entries) := by
  induction entries with
  | nil => exact .refl _
  | cons head rest ih =>
      rw [List.map_cons, List.mem_cons, not_or] at h
      unfold put
      split
      · exact .refl _
      · rw [if_neg h.1]
        exact ((ih h.2).cons head).trans (.swap _ _ _)

/-- The last node that is put under a name counts. -/
theorem put_put {first second : Node} :
    (entries.put name first).put name second = entries.put name second := by
  induction entries with
  | nil => simp [put]
  | cons head rest ih =>
      simp only [put]
      by_cases hlt : name < head.1
      · rw [if_pos hlt, if_pos hlt, put, if_neg (String.lt_irrefl name), if_pos rfl]
      · by_cases hsame : name = head.1
        · subst hsame
          simp [put]
        · simp only [put, if_neg hlt, if_neg hsame, ih]

/-- The value of each entry stands under its name. -/
theorem entries_value_eq_map (entries : Entries) :
    entriesValue entries = entries.map fun entry => (entry.1, entry.2.value) := by
  induction entries with
  | nil => rfl
  | cons head rest ih => rw [entriesValue, ih, List.map_cons]

/-- The values stand under the names of the entries. -/
theorem names_entries_value (entries : Entries) :
    (entriesValue entries).map Prod.fst = entries.map Prod.fst := by
  rw [entries_value_eq_map, List.map_map]
  rfl

/-- A name stands for the value of its node. -/
theorem lookup_entries_value (entries : Entries) (name : String) :
    (entriesValue entries).lookup name = (entries.get? name).map Node.value := by
  rw [entries_value_eq_map, get?]
  induction entries with
  | nil => rfl
  | cons head rest ih =>
      rw [List.map_cons, List.lookup_cons, List.lookup_cons]
      split
      · rfl
      · exact ih

/-- The values of entries in order are in order. -/
theorem ordered_entries_value (h : Ordered entries) : Ordered (entriesValue entries) := by
  rw [entries_value_eq_map, Ordered, List.pairwise_map]
  exact h

/-! ## Assigning fields -/

/-- A field whose value is complete. -/
def ofField (field : String × Value) : String × Node :=
  (field.1, .closed field.2)

/-- The entries with one more field. -/
def assignField (entries : Entries) (field : String × Value) : Option Entries :=
  entries.assign [] field.1 field.2

/-- Fields with new names can be assigned one after the other, and nothing else changes. -/
theorem assign_all {fields : List (String × Value)} (h : Ordered entries)
    (hnew : (entries.map Prod.fst ++ fields.map Prod.fst).Nodup) :
    ∃ final, fields.foldlM assignField entries = some final ∧ Ordered final ∧
      final.Perm (entries ++ fields.map ofField) := by
  induction fields generalizing entries with
  | nil => exact ⟨entries, rfl, h, by simp⟩
  | cons field fields ih =>
      rw [List.map_cons, List.nodup_middle, List.nodup_cons] at hnew
      obtain ⟨hfresh, hnodup⟩ := hnew
      have hnone : entries.get? field.1 = none := by
        rw [get?, lookup_eq_none_iff_not_mem]
        exact fun hmember => hfresh (List.mem_append_left _ hmember)
      have hnext : entries.assignField field = some (entries.put field.1 (.closed field.2)) := by
        rw [assignField, assign, hnone]
      have hperm : (entries.put field.1 (.closed field.2)).Perm (ofField field :: entries) :=
        put_perm (lookup_eq_none_iff_not_mem.mp hnone)
      have hnames : ((entries.put field.1 (.closed field.2)).map Prod.fst ++
          fields.map Prod.fst).Nodup := by
        refine ((hperm.map Prod.fst).append_right _).nodup_iff.mpr ?_
        exact List.nodup_cons.mpr ⟨hfresh, hnodup⟩
      obtain ⟨final, hfinal, hordered, hsame⟩ := ih (ordered_put h) hnames
      refine ⟨final, ?_, hordered, ?_⟩
      · rw [List.foldlM_cons, hnext]
        exact hfinal
      · exact hsame.trans ((hperm.append_right _).trans List.perm_middle.symm)

/-- Fields with different names are the entries of the table they are assigned to. -/
theorem fields_assigned {fields : List (String × Value)} (h : (fields.map Prod.fst).Nodup) :
    ∃ final, fields.foldlM assignField [] = some final ∧ Ordered final ∧
      (entriesValue final).Perm fields := by
  obtain ⟨final, hfinal, hordered, hsame⟩ := @assign_all [] fields List.Pairwise.nil h
  have hvalues : (fields.map ofField).map (fun entry => (entry.1, entry.2.value)) = fields := by
    rw [List.map_map]
    exact List.map_id fields
  refine ⟨final, hfinal, hordered, ?_⟩
  rw [entries_value_eq_map]
  exact hvalues ▸ hsame.map _

/-- Fields that are given in order are the value of the table they are assigned to in any order. -/
theorem entries_value_of_assigned {fields sorted : List (String × Value)}
    (hperm : fields.Perm sorted) (hsorted : Ordered sorted) :
    ∃ final, fields.foldlM assignField [] = some final ∧ entriesValue final = sorted := by
  obtain ⟨final, hfinal, hordered, hsame⟩ :=
    fields_assigned ((hperm.map Prod.fst).nodup_iff.mpr hsorted.nodup)
  exact ⟨final, hfinal, (ordered_entries_value hordered).eq_of_perm hsorted (hsame.trans hperm)⟩

end Entries

end PluginDescriptor.Toml
