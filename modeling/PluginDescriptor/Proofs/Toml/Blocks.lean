import Mathlib.Data.List.Forall2
import PluginDescriptor.Proofs.Toml.Entries

/-!
# Arrays of tables under construction

A block of a document is the header of a table in an array of tables and the assignments behind it.
`Gathered` says how far an array of tables has got, with its last table still open: the next header
completes it (`open_next_of_gathered`), a header or an assignment inside it changes the last table
only (`modify_put_tables`), and the assignments of a block are those of its fields (`apply_fields`).
-/

namespace PluginDescriptor.Toml

/-- The assignment of a field of the current table. -/
def assignmentOf (field : String × Value) : Statement :=
  .assignment ⟨[], field.1⟩ field.2

namespace Entries

/-- `Gathered name base values entries` says that the entries are those of `base` and, under `name`,
the array of tables `values`, if there are any. -/
inductive Gathered (name : String) (base : Entries) : List Value → Entries → Prop where
  | none : Gathered name base [] base
  | some (before : List Value) (last : Entries) :
      Gathered name base (before ++ [.table (entriesValue last)])
        (base.put name (.tables before last))

variable {name other : String} {base entries : Entries} {values : List Value}

/-- The next header completes the last table and opens an empty one. -/
theorem open_next_of_gathered (hbase : base.get? name = none)
    (h : Gathered name base values entries) :
    entries.openNext name = some (base.put name (.tables values [])) := by
  cases h with
  | none => rw [openNext, hbase]
  | some before last => simp only [openNext, get?_put, if_true, put_put]

/-- A change inside an array of tables changes the last table. -/
theorem modify_put_tables (change : Entries → Option Entries) (path : List String)
    (last : Entries) :
    (base.put name (.tables values last)).modify change (name :: path) =
      (last.modify change path).map fun last => base.put name (.tables values last) := by
  simp only [modify, get?_put, if_true, put_put]

/-- The array of tables stands under its name, if there are any tables. -/
theorem lookup_of_gathered (hbase : base.get? name = none) (h : Gathered name base values entries) :
    (entriesValue entries).lookup name = if values.isEmpty then none else some (.array values) := by
  rw [lookup_entries_value]
  cases h with
  | none => rw [hbase]; rfl
  | some before last => simp [get?_put, Node.value]

/-- Beside the array of tables, nothing changes. -/
theorem lookup_of_gathered_ne (hother : other ≠ name) (h : Gathered name base values entries) :
    (entriesValue entries).lookup other = (entriesValue base).lookup other := by
  rw [lookup_entries_value, lookup_entries_value]
  cases h with
  | none => rfl
  | some before last => rw [get?_put, if_neg hother]

/-- The order is kept. -/
theorem ordered_of_gathered (hbase : Ordered base) (h : Gathered name base values entries) :
    Ordered entries := by
  cases h with
  | none => exact hbase
  | some before last => exact ordered_put hbase

/-- The array of tables adds no other name. -/
theorem name_of_mem_gathered (h : Gathered name base values entries)
    (hother : other ∈ (entriesValue entries).map Prod.fst) :
    other = name ∨ other ∈ (entriesValue base).map Prod.fst := by
  rw [names_entries_value] at hother ⊢
  cases h with
  | none => exact Or.inr hother
  | some before last =>
      obtain ⟨entry, hentry, rfl⟩ := List.mem_map.mp hother
      exact (name_of_mem_put hentry).imp_right List.mem_map_of_mem

end Entries

/-- The assignments behind a header go to the table it opened. -/
theorem apply_fields {wrap : Entries → Entries} {path : List String}
    (hmodify : ∀ last change, (wrap last).modify change path = (change last).map wrap)
    (fields : List (String × Value)) (last : Entries) :
    (fields.map assignmentOf).foldlM Document.apply ⟨wrap last, path⟩ =
      (fields.foldlM Entries.assignField last).map fun last => ⟨wrap last, path⟩ := by
  induction fields generalizing last with
  | nil => rfl
  | cons field fields ih =>
      have hfirst : Document.apply ⟨wrap last, path⟩ (assignmentOf field) =
          (last.assignField field).map fun last => ⟨wrap last, path⟩ := by
        rw [assignmentOf, Document.apply, hmodify, Option.map_map]
        rfl
      rw [List.map_cons, List.foldlM_cons, List.foldlM_cons, hfirst]
      cases last.assignField field with
      | none => rfl
      | some next => exact ih next

/-- Blocks are added one after the other, each as one more item, as long as a block can be added to
what those before it have left. -/
theorem apply_blocks {α : Type} {block : α → List Statement → Prop} {spells : Value → α → Prop}
    (reached : List Value → Document → Prop) {items : List α} {blocks : List (List Statement)}
    (h : List.Forall₂ block items blocks)
    (hblock : ∀ {item statements values document}, block item statements → reached values document →
      ∃ value next, spells value item ∧ reached (values ++ [value]) next ∧
        statements.foldlM Document.apply document = some next)
    {values : List Value} {document : Document} (hreached : reached values document) :
    ∃ added final, List.Forall₂ spells added items ∧ reached (values ++ added) final ∧
      blocks.flatten.foldlM Document.apply document = some final := by
  induction h generalizing values document with
  | nil => exact ⟨[], document, .nil, by rwa [List.append_nil], rfl⟩
  | cons hfirst _ ih =>
      obtain ⟨value, next, hvalue, hnext, happly⟩ := hblock hfirst hreached
      obtain ⟨added, final, hadded, hfinal, hlater⟩ := ih hnext
      refine ⟨value :: added, final, .cons hvalue hadded, ?_, ?_⟩
      · rwa [List.append_assoc, List.singleton_append] at hfinal
      · rw [List.flatten_cons, List.foldlM_append, happly]
        exact hlater

end PluginDescriptor.Toml
