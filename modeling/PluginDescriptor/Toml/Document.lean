import PluginDescriptor.Toml.Value

/-!
# TOML documents

A document is a sequence of statements: table headers, headers of arrays of tables, and
assignments. `Document.ofStatements?` builds the table they define, unless a statement defines
something a second time. How a table came about decides what may still be added to it, so tables
under construction remember their origin.
-/

namespace PluginDescriptor.Toml

/-- A key, perhaps dotted: the tables it passes through and the name at its end. -/
structure Key where
  tables : List String
  name : String
deriving DecidableEq

/-- How a table came about. -/
inductive Origin where
  /-- Its own header defined it. -/
  | header
  /-- The header of a table inside it implied it. -/
  | implied
  /-- A dotted key passed through it. -/
  | dotted
deriving DecidableEq

/-- A part of a document under construction. -/
inductive Node where
  /-- A value that is complete. -/
  | closed (value : Value)
  | table (origin : Origin) (entries : List (String × Node))
  /-- An array of tables, of which only the last one is still open. -/
  | tables (before : List Value) (last : List (String × Node))

/-- The entries of a table under construction, in the order of their keys. -/
abbrev Entries := List (String × Node)

mutual

/-- The value a part stands for. -/
def Node.value : Node → Value
  | .closed value => value
  | .table _ entries => .table (entriesValue entries)
  | .tables before last => .array (before ++ [.table (entriesValue last)])

/-- The entries of a table value. -/
def entriesValue : List (String × Node) → List (String × Value)
  | [] => []
  | (name, node) :: rest => (name, node.value) :: entriesValue rest

end

namespace Entries

/-- The node of a name. -/
def get? (entries : Entries) (name : String) : Option Node :=
  entries.lookup name

/-- The entries with `node` under `name`. -/
def put (name : String) (node : Node) : Entries → Entries
  | [] => [(name, node)]
  | (other, existing) :: rest =>
    if name < other then (name, node) :: (other, existing) :: rest
    else if name = other then (name, node) :: rest
    else (other, existing) :: put name node rest

/-- A name that is put is found, and every other name as before. -/
theorem get?_put (entries : Entries) (name other : String) (node : Node) :
    Entries.get? (put name node entries) other =
      if other = name then some node else entries.get? other := by
  unfold get?
  by_cases h : other = name
  · subst h
    induction entries with
    | nil => simp [put]
    | cons head rest ih =>
      obtain ⟨key, existing⟩ := head
      unfold put
      by_cases before : other < key
      · rw [if_pos before, List.lookup_cons_self, if_pos rfl]
      · rw [if_neg before]
        by_cases same : other = key
        · simp [if_pos same]
        · rw [if_neg same]
          simp [List.lookup_cons, beq_false_of_ne same, ih]
  · rw [if_neg h]
    induction entries with
    | nil => simp [put, List.lookup_cons, beq_false_of_ne h]
    | cons head rest ih =>
      obtain ⟨key, existing⟩ := head
      unfold put
      by_cases before : name < key
      · rw [if_pos before, List.lookup_cons, beq_false_of_ne h]
      · rw [if_neg before]
        by_cases same : name = key
        · simp [List.lookup_cons, ← same, beq_false_of_ne h]
        · rw [if_neg same]
          simp [List.lookup_cons, ih]

/-- Assigns a value to a dotted key. No table on the way has a header of its own, and none can get
one afterwards. Of an array of tables on the way the last one is meant, but it cannot receive the
value itself. -/
def assign (entries : Entries) : List String → String → Value → Option Entries
  | [], name, value =>
    match entries.get? name with
    | none => some (entries.put name (.closed value))
    | some _ => none
  | table :: rest, name, value =>
    match entries.get? table with
    | none =>
      (assign [] rest name value).map fun inner => entries.put table (.table .dotted inner)
    | some (.table origin inner) =>
      if origin = .header then none
      else (assign inner rest name value).map fun inner => entries.put table (.table .dotted inner)
    | some (.tables before last) =>
      if rest.isEmpty then none
      else (assign last rest name value).map fun last => entries.put table (.tables before last)
    | some (.closed _) => none

/-- Changes the entries of the table a header names. Tables on the way are implied; of an array of
tables the last one is meant. -/
def modify (entries : Entries) (change : Entries → Option Entries) : List String → Option Entries
  | [] => change entries
  | table :: rest =>
    match entries.get? table with
    | none => (modify [] change rest).map fun inner => entries.put table (.table .implied inner)
    | some (.table origin inner) =>
      (modify inner change rest).map fun inner => entries.put table (.table origin inner)
    | some (.tables before last) =>
      (modify last change rest).map fun last => entries.put table (.tables before last)
    | some (.closed _) => none

/-- Opens the table of a header. It may only have been implied so far. -/
def openTable (name : String) (entries : Entries) : Option Entries :=
  match entries.get? name with
  | none => some (entries.put name (.table .header []))
  | some (.table .implied inner) => some (entries.put name (.table .header inner))
  | some _ => none

/-- Opens the next table of an array of tables. -/
def openNext (name : String) (entries : Entries) : Option Entries :=
  match entries.get? name with
  | none => some (entries.put name (.tables [] []))
  | some (.tables before last) =>
    some (entries.put name (.tables (before ++ [.table (entriesValue last)]) []))
  | some _ => none

end Entries

/-- A line of a document that defines something. -/
inductive Statement where
  /-- The header of a table. -/
  | table (key : Key)
  /-- The header of a table in an array of tables. -/
  | arrayTable (key : Key)
  | assignment (key : Key) (value : Value)

/-- A document under construction: what is defined so far, and the table that assignments go to. -/
structure Document where
  entries : Entries := []
  current : List String := []

namespace Document

/-- Adds what a statement defines. -/
def apply (document : Document) : Statement → Option Document
  | .table key =>
    (document.entries.modify (Entries.openTable key.name) key.tables).map fun entries =>
      { entries, current := key.tables ++ [key.name] }
  | .arrayTable key =>
    (document.entries.modify (Entries.openNext key.name) key.tables).map fun entries =>
      { entries, current := key.tables ++ [key.name] }
  | .assignment key value =>
    (document.entries.modify (fun entries => entries.assign key.tables key.name value)
      document.current).map fun entries => { document with entries }

/-- The document that statements define. -/
def ofStatements? (statements : List Statement) : Option Document :=
  statements.foldlM apply {}

/-- The value of a document, a table. -/
def value (document : Document) : Value :=
  .table (entriesValue document.entries)

end Document

end PluginDescriptor.Toml
