import PluginDescriptor.Proofs.Toml.Layout
import PluginDescriptor.Proofs.Toml.Numbers

/-!
# Strings and keys in a document

`BasicText` says how a text is written as a basic string, with any of the escapes of TOML, and
`NameText` and `KeyText` how the names in a key are written: bare, or as a basic or a literal
string. The reader collects exactly the characters that are written (`outcome_characters`), and
comes to the end of exactly the key that is written (`outcome_key`).
-/

namespace PluginDescriptor.Toml

open Scalar

/-! ## The grammar -/

/-- The escapes of one letter. -/
inductive Escape : Char → Char → Prop where
  | backspace : Escape 'b' '\x08'
  | tab : Escape 't' '\t'
  | lineFeed : Escape 'n' '\n'
  | formFeed : Escape 'f' '\x0c'
  | carriageReturn : Escape 'r' '\r'
  | escape : Escape 'e' '\x1b'
  | quotationMark : Escape '"' '"'
  | backslash : Escape '\\' '\\'

/-- The letters of the numeric escapes and how many digits follow them. -/
inductive CodeLetter : Char → Nat → Prop where
  | two : CodeLetter 'x' 2
  | four : CodeLetter 'u' 4
  | eight : CodeLetter 'U' 8

/-- `CharText c text rest` says that `text` starts with a way to write `c` in a basic string. -/
inductive CharText : Char → List Char → List Char → Prop where
  | plain {c rest} : Plain c → c ≠ '"' → c ≠ '\\' → CharText c (c :: rest) rest
  | escape {c letter rest} : Escape letter c → CharText c ('\\' :: letter :: rest) rest
  | code {c letter length digits rest} : CodeLetter letter length → digits.length = length →
      Digits 16 c.toNat digits → CharText c ('\\' :: letter :: (digits ++ rest)) rest

/-- `Characters chars text rest` says that `text` starts with the characters, each written in some
way, and the quotation mark at the end of a basic string. -/
inductive Characters : List Char → List Char → List Char → Prop where
  | close (rest) : Characters [] ('"' :: rest) rest
  | more {c chars text next rest} : CharText c text next → Characters chars next rest →
      Characters (c :: chars) text rest

/-- `BasicText string text rest` says that `text` starts with a basic string. -/
inductive BasicText : String → List Char → List Char → Prop where
  | quoted {string text rest} : Characters string.toList text rest →
      BasicText string ('"' :: text) rest

/-- A character of a name that is not in quotation marks. -/
def KeyChar (c : Char) : Prop :=
  c.isAlphanum = true ∨ c = '_' ∨ c = '-'

/-- `NameText name text rest` says that `text` starts with a name of a key. -/
inductive NameText : String → List Char → List Char → Prop where
  | bare {name rest} : name.toList ≠ [] → (∀ c ∈ name.toList, KeyChar c) →
      NameText name (name.toList ++ rest) rest
  | basic {name text rest} : BasicText name text rest → NameText name text rest
  | literal {name rest} : (∀ c ∈ name.toList, Plain c ∧ c ≠ '\x27') →
      NameText name ('\x27' :: (name.toList ++ '\x27' :: rest)) rest

/-- `KeyText tables name text rest` says that `text` starts with a key, its names separated by dots,
and the blanks behind it. -/
inductive KeyText : List String → String → List Char → List Char → Prop where
  | last {name text next rest} : NameText name text next → Blanks next rest →
      KeyText [] name text rest
  | dot {table tables name text next later start rest} : NameText table text next →
      Blanks next ('.' :: later) → Blanks later start → KeyText tables name start rest →
      KeyText (table :: tables) name text rest

/-- Whether a character may stand in a bare name is decided by looking at it. -/
instance (c : Char) : Decidable (KeyChar c) :=
  inferInstanceAs (Decidable (_ ∨ _ ∨ _))

/-- The first character of a name, its quotation mark included. -/
def NameStart (c : Char) : Prop :=
  c = '"' ∨ c = '\x27' ∨ KeyChar c

/-- Whether a name may start with a character is decided by looking at it. -/
instance (c : Char) : Decidable (NameStart c) :=
  inferInstanceAs (Decidable (_ ∨ _ ∨ _))

/-- A bare name does not start with a quotation mark. -/
theorem KeyChar.not_mark {c : Char} (h : KeyChar c) : c ≠ '"' ∧ c ≠ '\x27' := by
  refine ⟨?_, ?_⟩ <;> rintro rfl <;> exact absurd h (by decide)

/-- The first character of a name is neither white space nor one that means something else. -/
theorem NameStart.ordinary {c : Char} (h : NameStart c) :
    isSpace c = false ∧ c ≠ '\n' ∧ c ≠ '\r' ∧ c ≠ '#' ∧ c ≠ '[' ∧ c ≠ '\x7d' := by
  have hne : ∀ other, ¬ NameStart other → c ≠ other := by
    rintro other hother rfl
    exact hother h
  refine ⟨?_, hne _ (by decide), hne _ (by decide), hne _ (by decide), hne _ (by decide),
    hne _ (by decide)⟩
  simp [isSpace, hne ' ' (by decide), hne '\t' (by decide)]

/-- A bare name ends at a blank. -/
theorem Blank.not_key_char {c : Char} (h : Blank c) : ¬ KeyChar c := by
  cases h <;> decide

/-- Characters are collected one after the other. -/
theorem push_append_of_list (before : String) (c : Char) (chars : List Char) :
    before.push c ++ String.ofList chars = before ++ String.ofList (c :: chars) := by
  apply String.toList_inj.mp
  simp

/-- The reader knows the characters of bare names. -/
theorem key_char_iff {c : Char} : KeyChar c ↔ isKeyChar c = true := by
  simp [KeyChar, isKeyChar, or_assoc]

/-- A character of a basic string does not start with a quotation mark. -/
theorem CharText.head {c : Char} {text rest : List Char} (h : CharText c text rest) :
    ∃ first later, text = first :: later ∧ first ≠ '"' := by
  cases h with
  | plain _ hmark _ => exact ⟨_, _, rfl, hmark⟩
  | escape => exact ⟨_, _, rfl, by decide⟩
  | code => exact ⟨_, _, rfl, by decide⟩

/-! ## Strings -/

namespace State

variable {statements : List Statement} {frames : List Frame} {target : Target} {site : Site}
  {text next rest : List Char}

/-- The digits of a numeric escape are read as the character they stand for. -/
theorem outcome_code {before : String} {c : Char} {digits : List Char} {value : Nat}
    (hdigits : ∀ digit ∈ digits, isHexDigit digit = true) (hsome : digits ≠ [])
    (hvalue : digits.foldl (fun value c => value * 16 + digitValue c) value = c.toNat) :
    (⟨statements, frames, .code (.line target) before digits.length value⟩ : State).outcome
        (digits ++ rest) =
      (⟨statements, frames, .quoted .basic target (before.push c)⟩ : State).outcome rest := by
  induction digits generalizing value with
  | nil => exact absurd rfl hsome
  | cons digit digits ih =>
      obtain ⟨hdigit, hlater⟩ := List.forall_mem_cons.mp hdigits
      cases digits with
      | nil =>
          refine outcome_of_next ?_
          have hchar : value * 16 + digitValue digit = c.toNat := hvalue
          have hvalid : c.toNat.isValidChar := c.valid
          simp [State.next, readCode, hdigit, hchar, hvalid, resume, goto]
      | cons second digits =>
          refine Eq.trans (outcome_of_next ?_) (ih hlater (by simp) hvalue)
          simp [State.next, readCode, hdigit, goto]

/-- A character of a basic string is read, in whatever way it is written. -/
theorem outcome_char {before : String} {c : Char} (h : CharText c text rest) :
    (⟨statements, frames, .quoted .basic target before⟩ : State).outcome text =
      (⟨statements, frames, .quoted .basic target (before.push c)⟩ : State).outcome rest := by
  cases h with
  | plain hplain hmark hbackslash =>
      refine outcome_of_next ?_
      simp [State.next, readQuoted, Quote.mark, hmark, hbackslash, plain_iff.mp hplain, goto]
  | @escape letter _ hescape =>
      calc (⟨statements, frames, .quoted .basic target before⟩ : State).outcome
            ('\\' :: letter :: rest)
          = (⟨statements, frames, .escape (.line target) before⟩ : State).outcome
              (letter :: rest) := outcome_of_next rfl
        _ = _ := by cases hescape <;> exact outcome_of_next rfl
  | @code letter length digits _ hletter hlength hdigits =>
      obtain ⟨hvalue, hmembers⟩ := hdigits.spelled (by decide) (by decide)
      have hsome : digits ≠ [] := by
        rintro rfl
        cases hletter <;> cases hlength
      calc (⟨statements, frames, .quoted .basic target before⟩ : State).outcome
            ('\\' :: letter :: (digits ++ rest))
          = (⟨statements, frames, .escape (.line target) before⟩ : State).outcome
              (letter :: (digits ++ rest)) := outcome_of_next rfl
        _ = (⟨statements, frames, .code (.line target) before length 0⟩ : State).outcome
              (digits ++ rest) := by cases hletter <;> exact outcome_of_next rfl
        _ = _ := hlength ▸ outcome_code (is_hex_digit_of_mem hmembers) hsome hvalue

/-- The characters of a basic string are collected up to its end. -/
theorem outcome_characters {before : String} {chars : List Char}
    (h : Characters chars text rest) :
    (⟨statements, frames, .quoted .basic target before⟩ : State).outcome text =
      (⟨statements, frames, .quoted .basic target (before ++ String.ofList chars)⟩ : State).outcome
        ('"' :: rest) := by
  induction h generalizing before with
  | close => simp
  | more hchar _ ih =>
      rw [outcome_char hchar, ih, push_append_of_list]

/-- The characters of a literal string are collected up to its end. -/
theorem outcome_literal {before : String} {chars : List Char}
    (h : ∀ c ∈ chars, Plain c ∧ c ≠ '\x27') :
    (⟨statements, frames, .quoted .literal target before⟩ : State).outcome (chars ++ rest) =
      (⟨statements, frames, .quoted .literal target (before ++ String.ofList chars)⟩ :
        State).outcome rest := by
  induction chars generalizing before with
  | nil => simp
  | cons c chars ih =>
      obtain ⟨⟨hplain, hmark⟩, hlater⟩ := List.forall_mem_cons.mp h
      have hnext : (⟨statements, frames, .quoted .literal target before⟩ : State).next c =
          some ⟨statements, frames, .quoted .literal target (before.push c)⟩ := by
        simp [State.next, readQuoted, Quote.mark, hmark, plain_iff.mp hplain, goto]
      rw [List.cons_append, outcome_of_next hnext, ih hlater, push_append_of_list]

/-! ## Keys -/

/-- The state waits for the first character of a name. -/
def AwaitsName (state : State) (use : KeyUse) (before : List String) : Prop :=
  ∀ c, NameStart c → state.next c = state.startKey use before c

variable {use : KeyUse} {before : List String} {control : Control}

/-- At the start of a name, one is waited for. -/
theorem awaits_name_of_key_start (statements : List Statement) (frames : List Frame) (use : KeyUse)
    (before : List String) : AwaitsName ⟨statements, frames, .keyStart use before⟩ use before := by
  intro c hc
  simp [State.next, hc.ordinary.1]

/-- At the start of a line, the name of an assignment is waited for. -/
theorem awaits_name_of_line (statements : List Statement) (frames : List Frame) :
    AwaitsName ⟨statements, frames, .resting .line⟩ .assignment [] := by
  intro c hc
  obtain ⟨hblank, hlineFeed, hreturn, hhash, hbracket, _⟩ := hc.ordinary
  simp [State.next, State.rest, hblank, hlineFeed, hreturn, hhash, hbracket]

/-- Before an entry of an inline table, its name is waited for. -/
theorem awaits_name_of_entry (statements : List Statement) (frames : List Frame) :
    AwaitsName ⟨statements, frames, .resting .entry⟩ .entry [] := by
  intro c hc
  obtain ⟨hblank, hlineFeed, hreturn, hhash, _, hbrace⟩ := hc.ordinary
  simp [State.next, State.rest, hblank, hlineFeed, hreturn, hhash, hbrace]

/-- A bare name is collected up to its end. -/
theorem outcome_bare {collected : String} {chars : List Char} {c : Char}
    (h : ∀ c ∈ chars, KeyChar c) (hc : ¬ KeyChar c) :
    (⟨statements, frames, .bareKey use before collected⟩ : State).outcome (chars ++ c :: rest) =
      (⟨statements, frames, .keyEnd use ⟨before, collected ++ String.ofList chars⟩⟩ : State).outcome
        (c :: rest) := by
  induction chars generalizing collected with
  | nil =>
      refine outcome_of_next_eq ?_
      have hnone : collected ++ String.ofList [] = collected := by simp
      have hother : isKeyChar c = false := by simpa using key_char_iff.not.mp hc
      simp only [State.next, hnone, hother]
      rfl
  | cons first chars ih =>
      obtain ⟨hfirst, hlater⟩ := List.forall_mem_cons.mp h
      have hnext : (⟨statements, frames, .bareKey use before collected⟩ : State).next first =
          some ⟨statements, frames, .bareKey use before (collected.push first)⟩ := by
        simp [State.next, key_char_iff.mp hfirst, goto]
      rw [List.cons_append, outcome_of_next hnext, ih hlater, push_append_of_list]

/-- A name is read up to its end, in whatever way it is written. -/
theorem outcome_name {name : String} {c : Char} (h : NameText name text (c :: rest))
    (hc : ¬ KeyChar c) (hawaits : AwaitsName ⟨statements, frames, control⟩ use before) :
    (⟨statements, frames, control⟩ : State).outcome text =
      (⟨statements, frames, .keyEnd use ⟨before, name⟩⟩ : State).outcome (c :: rest) := by
  generalize hrest : c :: rest = later at h
  cases h with
  | bare hsome hchars =>
      subst hrest
      obtain ⟨first, chars, hname⟩ := List.exists_cons_of_ne_nil hsome
      rw [hname] at hchars ⊢
      obtain ⟨hfirst, hlater⟩ := List.forall_mem_cons.mp hchars
      have hstart : (⟨statements, frames, control⟩ : State).next first =
          some ⟨statements, frames, .bareKey use before (String.singleton first)⟩ := by
        obtain ⟨hbasic, hliteral⟩ := hfirst.not_mark
        rw [hawaits first (Or.inr (Or.inr hfirst))]
        simp [startKey, Quote.mark, hbasic, hliteral, key_char_iff.mp hfirst, goto]
      have hcollected : String.singleton first ++ String.ofList chars = name := by
        apply String.toList_inj.mp
        simp [hname]
      rw [List.cons_append, outcome_of_next hstart, outcome_bare hlater hc, hcollected]
  | basic hbasic =>
      cases hbasic with
      | quoted hchars =>
          have hstart : (⟨statements, frames, control⟩ : State).next '"' =
              some ⟨statements, frames, .quoted .basic (.key use before) ""⟩ :=
            hawaits '"' (Or.inl rfl)
          rw [outcome_of_next hstart, outcome_characters hchars, outcome_of_next rfl]
          simp
  | literal hchars =>
      have hstart : (⟨statements, frames, control⟩ : State).next '\x27' =
          some ⟨statements, frames, .quoted .literal (.key use before) ""⟩ :=
        hawaits '\x27' (Or.inr (Or.inl rfl))
      rw [outcome_of_next hstart, outcome_literal hchars, outcome_of_next rfl]
      simp

/-- A key is read up to its end, if it does not have too many names. -/
theorem outcome_key {tables : List String} {name : String} {c : Char}
    (h : KeyText tables name text (c :: rest)) (hc : ¬ KeyChar c)
    (hlength : before.length + tables.length < longestKey)
    (hawaits : AwaitsName ⟨statements, frames, control⟩ use before) :
    (⟨statements, frames, control⟩ : State).outcome text =
      (⟨statements, frames, .keyEnd use ⟨before ++ tables, name⟩⟩ : State).outcome (c :: rest) := by
  generalize hrest : c :: rest = later at h
  have hstay : ∀ key c, isSpace c = true → (⟨statements, frames, .keyEnd use key⟩ : State).next c =
      some ⟨statements, frames, .keyEnd use key⟩ := by
    intro key c hblank
    simp [State.next, afterKey, hblank, goto]
  induction h generalizing before control with
  | last hname hblanks =>
      subst hrest
      obtain ⟨first, chars, rfl, hfirst⟩ := hblanks.head
      have hend : ¬ KeyChar first := by
        rintro hkey
        obtain hblank | rfl := hfirst
        · exact hblank.not_key_char hkey
        · exact hc hkey
      rw [outcome_name hname hend hawaits, outcome_blanks hblanks (hstay _), List.append_nil]
  | @dot table tables _ _ _ _ _ _ hname hbefore hafter _ ih =>
      subst hrest
      obtain ⟨first, chars, rfl, hfirst⟩ := hbefore.head
      have hend : ¬ KeyChar first := by
        rintro hkey
        obtain hblank | rfl := hfirst
        · exact hblank.not_key_char hkey
        · exact absurd hkey (by decide)
      rw [List.length_cons] at hlength
      have hdot : (⟨statements, frames, .keyEnd use ⟨before, table⟩⟩ : State).next '.' =
          some ⟨statements, frames, .keyStart use (before ++ [table])⟩ := by
        have hroom : before.length + 2 ≤ longestKey := by omega
        simp [State.next, afterKey, isSpace, hroom, goto]
      have hstart : ∀ c, isSpace c = true →
          (⟨statements, frames, .keyStart use (before ++ [table])⟩ : State).next c =
            some ⟨statements, frames, .keyStart use (before ++ [table])⟩ := by
        intro c hblank
        simp [State.next, hblank]
      rw [outcome_name hname hend hawaits, outcome_blanks hbefore (hstay _), outcome_of_next hdot,
        outcome_blanks hafter hstart,
        ih (by simp; omega) (awaits_name_of_key_start statements frames use _) rfl]
      simp

end State

end PluginDescriptor.Toml
