import PluginDescriptor.Proofs.Toml.Lines

/-!
# Writing a document

One of the ways to write statements, so that the grammar of the other modules is known to have a
text for them: `document_text_write` says that every list of statements with values that can be
written at all (`Writable`) is written by `writeDocument`. Names are left bare where they can be,
and the characters of a string are left as they are where they can be, all others being written as
their code.
-/

namespace PluginDescriptor.Toml

/-! ## Strings and names -/

/-- A character of a basic string: itself, or an escape with eight digits. -/
def writeChar (c : Char) : List Char :=
  if isTextChar c = true ∧ c ≠ '"' ∧ c ≠ '\\' then [c]
  else
    let digits := Nat.toDigits 16 c.toNat
    '\\' :: 'U' :: (List.replicate (8 - digits.length) '0' ++ digits)

/-- A basic string. -/
def writeString (string : String) : List Char :=
  '"' :: (string.toList.flatMap writeChar ++ ['"'])

/-- A name: bare, or as a basic string. -/
def writeName (name : String) : List Char :=
  if !name.toList.isEmpty && name.toList.all isKeyChar then name.toList else writeString name

/-- A key, its names separated by dots. -/
def writeKey (key : Key) : List Char :=
  key.tables.flatMap (fun table => writeName table ++ ['.']) ++ writeName key.name

/-- The code of a character has at most eight hexadecimal digits. -/
theorem length_code_le (c : Char) : (Nat.toDigits 16 c.toNat).length ≤ 8 := by
  rw [Nat.length_toDigits_le_iff (by decide) (by decide)]
  exact Nat.lt_of_lt_of_le c.val.toNat_lt (by decide)

/-- Every character can be written in a basic string. -/
theorem char_text_write (c : Char) (rest : List Char) : CharText c (writeChar c ++ rest) rest := by
  unfold writeChar
  by_cases hplain : isTextChar c = true ∧ c ≠ '"' ∧ c ≠ '\\'
  · rw [if_pos hplain]
    exact .plain (plain_iff.mpr hplain.1) hplain.2.1 hplain.2.2
  · rw [if_neg hplain]
    refine .code .eight ?_ ⟨8 - (Nat.toDigits 16 c.toNat).length, ?_⟩
    · have hlength := length_code_le c
      simp
      omega
    · exact List.forall₂_same.mpr fun _ _ => Or.inl rfl

/-- Every string can be written as a basic string. -/
theorem basic_text_write (string : String) (rest : List Char) :
    BasicText string (writeString string ++ rest) rest := by
  have hchars : ∀ chars : List Char,
      Characters chars (chars.flatMap writeChar ++ '"' :: rest) rest := by
    intro chars
    induction chars with
    | nil => exact .close rest
    | cons c chars ih =>
        rw [List.flatMap_cons, List.append_assoc]
        exact .more (char_text_write c _) ih
  rw [writeString, List.cons_append, List.append_assoc]
  exact .quoted (hchars string.toList)

/-- Every name can be written. -/
theorem name_text_write (name : String) (rest : List Char) :
    NameText name (writeName name ++ rest) rest := by
  unfold writeName
  by_cases hbare : (!name.toList.isEmpty && name.toList.all isKeyChar) = true
  · rw [if_pos hbare]
    rw [Bool.and_eq_true, List.all_eq_true, Bool.not_eq_true', List.isEmpty_eq_false_iff] at hbare
    exact .bare hbare.1 fun c hc => key_char_iff.mpr (hbare.2 c hc)
  · rw [if_neg hbare]
    exact .basic (basic_text_write name rest)

/-- Every key can be written, with blanks behind it. -/
theorem key_text_write (key : Key) {text rest : List Char} (h : Blanks text rest) :
    KeyText key.tables key.name (writeKey key ++ text) rest := by
  obtain ⟨tables, name⟩ := key
  unfold writeKey
  induction tables with
  | nil => exact .last (name_text_write name text) h
  | cons table tables ih =>
      simp only [List.flatMap_cons, List.append_assoc, List.singleton_append] at ih ⊢
      exact .dot (name_text_write table _) (.none _) (.none _) ih

/-! ## Values -/

/-- The single values that can be written: strings, natural numbers of 63 bits and booleans. -/
inductive WritableScalar : Value → Prop where
  | string (string) : WritableScalar (.string string)
  | number {number : Nat} : number < 2 ^ 63 → WritableScalar (.integer number)
  | boolean (flag) : WritableScalar (.boolean flag)

/-- The values that can be written: single ones, and arrays and inline tables of them. -/
inductive Writable : Value → Prop where
  | scalar {value} : WritableScalar value → Writable value
  | array {elements} : (∀ element ∈ elements, WritableScalar element) → Writable (.array elements)
  | table {entries} : (∀ entry ∈ entries, WritableScalar entry.2) → Ordered entries →
      Writable (.table entries)

/-- A single value. -/
def writeScalar : Value → List Char
  | .string string => writeString string
  | .integer number => Nat.toDigits 10 number.toNat
  | .boolean true => ['t', 'r', 'u', 'e']
  | .boolean false => ['f', 'a', 'l', 's', 'e']
  | _ => []

/-- An assignment with the text of its value. -/
def writeAssignment (key : Key) (value : List Char) : List Char :=
  writeKey key ++ ' ' :: '=' :: ' ' :: value

/-- Items with commas between them, and a bracket. -/
def writeListed (close : Char) : List (List Char) → List Char
  | [] => [close]
  | [item] => item ++ [close]
  | item :: items => item ++ ',' :: ' ' :: writeListed close items

/-- A value. -/
def writeValue : Value → List Char
  | .array elements => '[' :: writeListed ']' (elements.map writeScalar)
  | .table entries => '\x7b' :: writeListed '\x7d' (entries.map fun entry =>
      writeAssignment ⟨[], entry.1⟩ (writeScalar entry.2))
  | value => writeScalar value

/-- Digits without underscores are digits in groups. -/
theorem grouped_self {digits : List Char} (h : digits ≠ []) : Grouped digits digits := by
  induction digits with
  | nil => exact absurd rfl h
  | cons digit digits ih =>
      cases digits with
      | nil => exact .single digit
      | cons second digits => exact .digit (ih (by simp))

/-- A single value can be written. -/
theorem scalar_text_write {value : Value} (h : WritableScalar value) (rest : List Char) :
    ScalarText value (writeScalar value ++ rest) rest := by
  cases h with
  | string string => exact .string (basic_text_write string rest)
  | number hfits => exact .number (.decimal (grouped_self Nat.toDigits_ne_nil)) hfits
  | boolean flag =>
      cases flag with
      | true => exact .yes rest
      | false => exact .no rest

/-- An assignment can be written if its value can. -/
theorem assignment_text_write {spells : Value → List Char → List Char → Prop} {value : Value}
    {written rest : List Char} (key : Key) (h : spells value (written ++ rest) rest) :
    AssignmentText spells key value (writeAssignment key written ++ rest) rest := by
  simp only [writeAssignment, List.append_assoc, List.cons_append]
  exact .equals (key_text_write key (.more .space (.none _))) (.more .space (.none _)) h

/-- A gap may stand in front of a list. -/
theorem Listed.blank {α : Type} {close c : Char} {item : α → List Char → List Char → Prop}
    {items : List α} {text rest : List Char} (hc : Blank c)
    (h : Listed close item items text rest) :
    Listed close item items (c :: text) rest := by
  cases h with
  | close hgap => exact .close (.blank hc hgap)
  | last hgap hfirst hafter => exact .last (.blank hc hgap) hfirst hafter
  | more hgap hfirst hafter hlater => exact .more (.blank hc hgap) hfirst hafter hlater

/-- A list can be written if its items can. -/
theorem listed_write {α : Type} {close : Char} {item : α → List Char → List Char → Prop}
    {write : α → List Char} {items : List α}
    (h : ∀ first ∈ items, ∀ rest, item first (write first ++ rest) rest) (rest : List Char) :
    Listed close item items (writeListed close (items.map write) ++ rest) rest := by
  induction items with
  | nil => exact .close (.none _)
  | cons first items ih =>
      obtain ⟨hfirst, hlater⟩ := List.forall_mem_cons.mp h
      cases items with
      | nil =>
          simp only [List.map_cons, List.map_nil, writeListed, List.append_assoc]
          exact .last (.none _) (hfirst _) (.none _)
      | cons second items =>
          simp only [List.map_cons, writeListed, List.append_assoc] at ih ⊢
          exact .more (.none _) (hfirst _) (.none _) ((ih hlater).blank .space)

/-- A value can be written. -/
theorem value_text_write {value : Value} (h : Writable value) {depth : Nat} (rest : List Char) :
    ValueText (depth + 2) value (writeValue value ++ rest) rest := by
  cases h with
  | scalar hscalar =>
      have hwrite : writeValue value = writeScalar value := by
        cases hscalar <;> rfl
      rw [hwrite]
      exact .scalar (scalar_text_write hscalar rest)
  | array helements =>
      refine .array (listed_write ?_ rest)
      intro element helement rest
      exact .scalar (scalar_text_write (helements element helement) rest)
  | table hentries hordered =>
      refine .table (listed_write ?_ rest) (.refl _) hordered
      intro entry hentry rest
      exact assignment_text_write _ (.scalar (scalar_text_write (hentries entry hentry) rest))

/-! ## Statements -/

/-- The statements that can be written. -/
inductive WritableStatement : Statement → Prop where
  | assignment {key value} : key.tables.length < longestKey → Writable value →
      WritableStatement (.assignment key value)
  | arrayTable {key} : key.tables.length < longestKey → WritableStatement (.arrayTable key)

/-- A statement. -/
def writeStatement : Statement → List Char
  | .assignment key value => writeAssignment key (writeValue value)
  | .arrayTable key => '[' :: '[' :: (writeKey key ++ [']', ']'])
  | .table _ => []

/-- A document with one statement on a line. -/
def writeDocument (statements : List Statement) : List Char :=
  statements.flatMap fun statement => writeStatement statement ++ ['\n']

/-- A statement can be written. -/
theorem statement_text_write {statement : Statement} (h : WritableStatement statement)
    (rest : List Char) : StatementText statement (writeStatement statement ++ rest) rest := by
  cases h with
  | assignment hkey hvalue =>
      exact .assignment hkey (assignment_text_write _ (value_text_write hvalue rest))
  | @arrayTable key hkey =>
      simp only [writeStatement, List.cons_append, List.append_assoc, List.nil_append]
      exact .arrayTable hkey (.none _) (key_text_write key (.none _))

/-- Statements can be written as a document. -/
theorem document_text_write {statements : List Statement}
    (h : ∀ statement ∈ statements, WritableStatement statement) :
    DocumentText statements (writeDocument statements) := by
  induction statements with
  | nil => exact .none (.none _) (.blanks (.none _))
  | cons statement statements ih =>
      obtain ⟨hfirst, hlater⟩ := List.forall_mem_cons.mp h
      simp only [writeDocument, List.flatMap_cons, List.append_assoc, List.singleton_append]
      exact .more (.none _) (statement_text_write hfirst _) (.blanks (.none _)) (.lineFeed _)
        (ih hlater)

end PluginDescriptor.Toml
