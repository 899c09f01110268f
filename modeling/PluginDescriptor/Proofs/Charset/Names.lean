import Mathlib.Data.List.Forall2
import Mathlib.Logic.Relation
import PluginDescriptor.Charset
import PluginDescriptor.Proofs.Text.Trim

/-!
# Names of charsets

A name can be spelled in many ways: with white space around it, with small letters, with `_` for
`-`. `Respelled` relates the spellings of a name, and `respelled_iff` says that the canonical one
decides which they are. `resolved_up_to_spelling` is the main statement: a charset answers to the
spellings of its aliases and to nothing else.
-/

namespace PluginDescriptor.Charset

open Text

/-- `Exchange c d` says that a name may have `c` where it has `d` in its canonical spelling: a small
ASCII letter for the capital one, or an underscore for a hyphen. -/
inductive Exchange : Char → Char → Prop where
  | letter {small capital : Char} : 'A'.toNat ≤ capital.toNat → capital.toNat ≤ 'Z'.toNat →
      small.toNat = capital.toNat + 32 → Exchange small capital
  | hyphen : Exchange '_' '-'

/-- One difference between two spellings. -/
inductive Edit : List Char → List Char → Prop where
  | front {c : Char} (chars : List Char) : isBlank c = true → Edit chars (c :: chars)
  | back {c : Char} (chars : List Char) : isBlank c = true → Edit chars (chars ++ [c])
  | exchange {c d : Char} (before after : List Char) : Exchange c d →
      Edit (before ++ c :: after) (before ++ d :: after)

/-- `Respelled name other` says that a name becomes another one when surrounding white space is put
on or taken off, ASCII letters change their case, and `_` and `-` are exchanged. -/
def Respelled (name other : String) : Prop :=
  Relation.EqvGen Edit name.toList other.toList

variable {name other known : String} {charset : Charset} {c d : Char}

/-! ## Characters -/

/-- The code points at which the ASCII letters begin and end. -/
theorem letter_codes :
    'A'.toNat = 65 ∧ 'Z'.toNat = 90 ∧ 'a'.toNat = 97 ∧ 'z'.toNat = 122 := by
  decide

/-- A small letter is spelled as the capital one, which is 32 code points before it. -/
theorem to_nat_canonical_char (hleast : 'a'.toNat ≤ c.toNat) (hmost : c.toNat ≤ 'z'.toNat) :
    (canonicalChar c).toNat = c.toNat - 32 := by
  obtain ⟨hA, hZ, ha, hz⟩ := letter_codes
  have hdifference : ('A'.val - 'a'.val).toNat = 2 ^ 32 - 32 := rfl
  have hsmall : 'a'.val ≤ c.val ∧ c.val ≤ 'z'.val := ⟨hleast, hmost⟩
  have hletter : c ≠ '_' := by
    rintro rfl
    exact absurd hleast (by decide)
  have hupper : c.toUpper.val = c.val + ('A'.val - 'a'.val) := by
    show (dite _ _ _ : Char).val = _
    rw [dif_pos hsmall]
  rw [canonicalChar, if_neg hletter]
  show c.toUpper.val.toNat = c.toNat - 32
  rw [hupper, UInt32.toNat_add, hdifference, show c.val.toNat = c.toNat from rfl]
  omega

/-- Any other character but the underscore is in its canonical spelling. -/
theorem canonical_char_of_not_small (h : ¬ ('a'.toNat ≤ c.toNat ∧ c.toNat ≤ 'z'.toNat))
    (hc : c ≠ '_') : canonicalChar c = c := by
  rw [canonicalChar, if_neg hc]
  exact dif_neg h

/-- White space is never exchanged. -/
theorem Exchange.not_blank (h : Exchange c d) : isBlank c = false ∧ isBlank d = false := by
  cases h with
  | hyphen => decide
  | letter hleast hmost hsmall =>
      obtain ⟨hA, hZ, ha, hz⟩ := letter_codes
      simp [isBlank]
      omega

/-- The canonical spelling does away with an exchange. -/
theorem Exchange.canonical_char (h : Exchange c d) : canonicalChar c = d ∧ canonicalChar d = d := by
  cases h with
  | hyphen => decide
  | letter hleast hmost hsmall =>
      obtain ⟨hA, hZ, ha, hz⟩ := letter_codes
      constructor
      · rw [← Char.toNat_inj, to_nat_canonical_char (by omega) (by omega)]
        omega
      · apply canonical_char_of_not_small
        · omega
        · rintro rfl
          exact absurd hmost (by decide)

/-- The canonical spelling of a character is the character itself or the one it may stand for. -/
theorem canonical_char_exchange (c : Char) :
    canonicalChar c = c ∨ Exchange c (canonicalChar c) := by
  by_cases hsmall : 'a'.toNat ≤ c.toNat ∧ c.toNat ≤ 'z'.toNat
  · have hcapital := to_nat_canonical_char hsmall.1 hsmall.2
    obtain ⟨hA, hZ, ha, hz⟩ := letter_codes
    exact Or.inr (.letter (by omega) (by omega) (by omega))
  · by_cases hc : c = '_'
    · subst hc
      exact Or.inr .hyphen
    · exact Or.inl (canonical_char_of_not_small hsmall hc)

/-- White space is what is white space in its canonical spelling. -/
theorem is_blank_canonical_char (c : Char) : isBlank (canonicalChar c) = isBlank c := by
  rcases canonical_char_exchange c with hsame | hexchange
  · rw [hsame]
  · rw [hexchange.not_blank.1, hexchange.not_blank.2]

/-! ## Spellings of a name -/

/-- A name can be put into its canonical spelling before white space is taken off. -/
theorem canonical_name_eq (name : String) :
    canonicalName name = trimBlank (name.map canonicalChar) :=
  (trim_map is_blank_canonical_char name).symm

/-- A difference between two spellings is none in the canonical spelling. -/
theorem Edit.canonical_name {chars others : List Char} (h : Edit chars others) :
    canonicalName (String.ofList chars) = canonicalName (String.ofList others) := by
  cases h with
  | front chars hblank =>
      rw [canonicalName, canonicalName, String.ofList_cons, trimBlank, trimBlank, trim_append_left]
      simpa using hblank
  | back chars hblank =>
      rw [canonicalName, canonicalName, String.ofList_append, trimBlank, trimBlank,
        trim_append_right]
      simpa using hblank
  | exchange before after hexchange =>
      rw [canonical_name_eq, canonical_name_eq]
      congr 1
      rw [← String.toList_inj]
      simp [hexchange.canonical_char]

/-- All spellings of a name have the same canonical one. -/
theorem Respelled.canonical_name (h : Respelled name other) :
    canonicalName name = canonicalName other := by
  have hchars {chars others : List Char} (hedits : Relation.EqvGen Edit chars others) :
      canonicalName (String.ofList chars) = canonicalName (String.ofList others) := by
    induction hedits with
    | rel _ _ hedit => exact hedit.canonical_name
    | refl _ => rfl
    | symm _ _ _ ih => exact ih.symm
    | trans _ _ _ _ _ hfirst hsecond => exact hfirst.trans hsecond
  simpa using hchars h

/-- White space can be taken off the front. -/
theorem edits_front {front : List Char} (h : ∀ c ∈ front, isBlank c = true) (chars : List Char) :
    Relation.EqvGen Edit (front ++ chars) chars := by
  induction front with
  | nil => exact .refl chars
  | cons c front ih =>
      obtain ⟨hblank, hfront⟩ := List.forall_mem_cons.mp h
      exact .trans _ _ _ (.symm _ _ (.rel _ _ (.front _ hblank))) (ih hfront)

/-- White space can be taken off the back. -/
theorem edits_back {back : List Char} (h : ∀ c ∈ back, isBlank c = true) (chars : List Char) :
    Relation.EqvGen Edit (chars ++ back) chars := by
  induction back generalizing chars with
  | nil =>
      rw [List.append_nil]
      exact .refl chars
  | cons c back ih =>
      obtain ⟨hblank, hback⟩ := List.forall_mem_cons.mp h
      rw [List.append_cons]
      exact .trans _ _ _ (ih hback (chars ++ [c])) (.symm _ _ (.rel _ _ (.back chars hblank)))

/-- Characters can be put into their canonical spelling one after the other. -/
theorem edits_canonical (before chars : List Char) :
    Relation.EqvGen Edit (before ++ chars) (before ++ chars.map canonicalChar) := by
  induction chars generalizing before with
  | nil => exact .refl _
  | cons c chars ih =>
      have hrest := ih (before ++ [canonicalChar c])
      rw [← List.append_cons, ← List.append_cons] at hrest
      refine .trans _ _ _ ?_ hrest
      rcases canonical_char_exchange c with hsame | hexchange
      · rw [hsame]
        exact .refl _
      · exact .rel _ _ (.exchange before chars hexchange)

/-- The canonical spelling is a spelling of the name. -/
theorem respelled_canonical_name (name : String) : Respelled name (canonicalName name) := by
  obtain ⟨front, back, hname, hwrapped⟩ := exists_wrapped isBlank name
  let core := trimBlank name
  have hchars : name.toList = front.toList ++ (core.toList ++ back.toList) := by
    rw [← String.toList_append, ← String.toList_append, ← String.append_assoc]
    exact congrArg String.toList hname
  have hfront := edits_front hwrapped.front (core.toList ++ back.toList)
  have hback := edits_back hwrapped.back core.toList
  have hcanonical := edits_canonical [] core.toList
  rw [List.nil_append, List.nil_append] at hcanonical
  rw [Respelled, hchars, canonicalName, String.toList_map]
  exact (hfront.trans _ _ _ hback).trans _ _ _ hcanonical

/-- Two names are spellings of each other exactly if their canonical spelling is the same. -/
theorem respelled_iff : Respelled name other ↔ canonicalName name = canonicalName other := by
  refine ⟨Respelled.canonical_name, fun hsame => ?_⟩
  have hother := respelled_canonical_name other
  rw [← hsame] at hother
  exact .trans _ _ _ (respelled_canonical_name name) (.symm _ _ hother)

instance (name other : String) : Decidable (Respelled name other) :=
  decidable_of_iff _ respelled_iff.symm

example : ¬ Respelled "ISO 8859-1" "ISO-8859-1" := by decide +kernel

/-! ## Aliases -/

/-- Every charset is among all. -/
theorem mem_all (charset : Charset) : charset ∈ all := by
  cases charset <;> decide

/-- An alias is in its canonical spelling. -/
theorem canonical_name_alias (h : known ∈ charset.aliases) : canonicalName known = known := by
  have hall : ∀ charset ∈ all, ∀ known ∈ charset.aliases, canonicalName known = known := by
    decide +kernel
  exact hall charset (mem_all charset) known h

/-- Two charsets have no alias in common. -/
theorem alias_unique {second : Charset} (h : known ∈ charset.aliases)
    (hsecond : known ∈ second.aliases) : charset = second := by
  have hall : ∀ charset ∈ all, ∀ known ∈ charset.aliases, ∀ second ∈ all,
      known ∈ second.aliases → charset = second := by decide
  exact hall charset (mem_all charset) known h second (mem_all second) hsecond

/-- A charset answers to a name exactly if the canonical spelling is one of its aliases. -/
theorem of_name_eq_ok_iff : ofName name = .ok charset ↔ canonicalName name ∈ charset.aliases := by
  unfold ofName
  constructor
  · intro h
    cases hfind : all.find? fun charset => charset.aliases.contains (canonicalName name) with
    | some found =>
        rw [hfind] at h
        cases h
        simpa using List.find?_some hfind
    | none =>
        rw [hfind] at h
        cases h
  · intro halias
    cases hfind : all.find? fun charset => charset.aliases.contains (canonicalName name) with
    | some found =>
        have hfound : canonicalName name ∈ found.aliases := by simpa using List.find?_some hfind
        rw [alias_unique hfound halias]
    | none =>
        have hnot := List.find?_eq_none.mp hfind charset (mem_all charset)
        exact absurd halias (by simpa using hnot)

/-! ## Resolving a name -/

/-- Spellings of the same name are resolved alike. One that no charset answers to is kept as it was
given. -/
theorem Respelled.of_name (h : Respelled name other) :
    (∃ charset, ofName name = .ok charset ∧ ofName other = .ok charset) ∨
      ofName name = .error ⟨name⟩ ∧ ofName other = .error ⟨other⟩ := by
  unfold ofName
  rw [h.canonical_name]
  cases all.find? fun charset => charset.aliases.contains (canonicalName other) with
  | some charset => exact Or.inl ⟨charset, rfl, rfl⟩
  | none => exact Or.inr ⟨rfl, rfl⟩

/-- A charset answers to the spellings of its aliases. -/
theorem of_name_iff_respelled :
    ofName name = .ok charset ↔ ∃ known ∈ charset.aliases, Respelled name known := by
  rw [of_name_eq_ok_iff]
  constructor
  · intro h
    exact ⟨canonicalName name, h, respelled_canonical_name name⟩
  · rintro ⟨known, hknown, hrespelled⟩
    rw [respelled_iff, canonical_name_alias hknown] at hrespelled
    rw [hrespelled]
    exact hknown

/-- What stands in a name for a character of an alias is an ASCII letter or digit, a hyphen or an
underscore. -/
theorem plain_of_alias (h : known ∈ charset.aliases) (hd : d ∈ known.toList)
    (hc : c = d ∨ Exchange c d) : c.isAlphanum = true ∨ c = '-' ∨ c = '_' := by
  have hall : all.all (fun charset => charset.aliases.all fun known =>
      known.toList.all fun d => d.isAlphanum || d = '-') = true := by
    decide +kernel
  simp only [List.all_eq_true, Bool.or_eq_true, decide_eq_true_eq] at hall
  rcases hc with rfl | hexchange
  · exact (hall charset (mem_all charset) known h c hd).imp_right Or.inl
  · cases hexchange with
    | hyphen => exact Or.inr (Or.inr rfl)
    | letter hleast hmost hsmall =>
        obtain ⟨hA, hZ, ha, hz⟩ := letter_codes
        have hlower : c.isLower = true := by
          show (decide (97 ≤ c.toNat) && decide (c.toNat ≤ 122)) = true
          rw [Bool.and_eq_true, decide_eq_true_eq, decide_eq_true_eq]
          omega
        left
        show (c.isUpper || c.isLower || c.isDigit) = true
        rw [hlower, Bool.or_true, Bool.true_or]

/-- A name that a charset answers to is one of its aliases, character by character, with white space
around it. -/
theorem exists_alias (h : ofName name = .ok charset) :
    ∃ front core back known, name = front ++ core ++ back ∧
      (∀ c ∈ front.toList, isBlank c = true) ∧ (∀ c ∈ back.toList, isBlank c = true) ∧
      known ∈ charset.aliases ∧
      List.Forall₂ (fun c d => c = d ∨ Exchange c d) core.toList known.toList ∧
      ∀ c ∈ core.toList, c.isAlphanum = true ∨ c = '-' ∨ c = '_' := by
  obtain ⟨front, back, hname, hwrapped⟩ := exists_wrapped isBlank name
  have hknown := of_name_eq_ok_iff.mp h
  have hexchanged (c : Char) : c = canonicalChar c ∨ Exchange c (canonicalChar c) :=
    (canonical_char_exchange c).imp_left Eq.symm
  have hchars : (canonicalName name).toList = (trimBlank name).toList.map canonicalChar := by
    rw [canonicalName, String.toList_map]
  refine ⟨front, trimBlank name, back, canonicalName name, hname, hwrapped.front, hwrapped.back,
    hknown, ?_, ?_⟩
  · rw [hchars, List.forall₂_map_right_iff, List.forall₂_same]
    intro c _
    exact hexchanged c
  · intro c hc
    have hcanonical : canonicalChar c ∈ (canonicalName name).toList := by
      rw [hchars]
      exact List.mem_map_of_mem hc
    exact plain_of_alias hknown hcanonical (hexchanged c)

/-- Names are resolved up to their spelling. Spellings of the same name belong to the same charset
or are all unknown, each kept as it was given. A charset answers to the spellings of its aliases,
none of which is a spelling of another charset's alias. Such a name has the characters of the alias,
in either case and with `_` or `-`, and white space around them only. Every charset answers to its
own name. -/
theorem resolved_up_to_spelling (name : String) :
    (∀ other, Respelled name other →
      (∃ charset, ofName name = .ok charset ∧ ofName other = .ok charset) ∨
        ofName name = .error ⟨name⟩ ∧ ofName other = .error ⟨other⟩) ∧
    (∀ charset, ofName name = .ok charset ↔
      ∃ known ∈ charset.aliases, Respelled name known) ∧
    (∀ charset second : Charset, ∀ known ∈ charset.aliases, ∀ unlike ∈ second.aliases,
      Respelled name known → Respelled name unlike → charset = second) ∧
    (∀ charset, ofName name = .ok charset →
      ∃ front core back known, name = front ++ core ++ back ∧
        (∀ c ∈ front.toList, isBlank c = true) ∧ (∀ c ∈ back.toList, isBlank c = true) ∧
        known ∈ charset.aliases ∧
        List.Forall₂ (fun c d => c = d ∨ Exchange c d) core.toList known.toList ∧
        ∀ c ∈ core.toList, c.isAlphanum = true ∨ c = '-' ∨ c = '_') ∧
    ∀ charset : Charset, ofName charset.name = .ok charset := by
  refine ⟨fun other => Respelled.of_name, fun charset => of_name_iff_respelled, ?_,
    fun charset => exists_alias, ?_⟩
  · intro charset second known hknown unlike hunlike hrespelled hother
    have hsame : ofName name = .ok charset := of_name_iff_respelled.mpr ⟨known, hknown, hrespelled⟩
    rw [of_name_iff_respelled.mpr ⟨unlike, hunlike, hother⟩] at hsame
    exact (Except.ok.inj hsame).symm
  · intro charset
    cases charset <;> decide +kernel

/-- The long s is a capital S in upper case, but it is no ASCII letter. -/
example : ofName "u\u017F-ascii" = .error ⟨"u\u017F-ascii"⟩ := by
  decide +kernel

end PluginDescriptor.Charset
