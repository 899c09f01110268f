import Mathlib.Data.List.Forall2
import Mathlib.Tactic.IntervalCases
import PluginDescriptor.Toml.Reader

/-!
# Integers in a document

`NumberText number text` says that `text` is one of the ways to write a natural number in TOML:
decimal, or in another base behind its mark, with single underscores between digits. The main
statement is `of_text_number`: such a text, taken as an unquoted value, is the number.
-/

namespace PluginDescriptor.Toml

open Scalar

/-! ## The grammar -/

/-- `Digits base number digits` says that the digits spell the number in the base, perhaps with
zeros in front and with capital letters. -/
def Digits (base number : Nat) (digits : List Char) : Prop :=
  ∃ zeros, List.Forall₂ (fun plain digit => digit = plain ∨ digit = plain.toUpper)
    (List.replicate zeros '0' ++ Nat.toDigits base number) digits

/-- `Grouped digits text` says that the text consists of the digits, with single underscores between
some of them. -/
inductive Grouped : List Char → List Char → Prop where
  | single (digit) : Grouped [digit] [digit]
  | digit {digit digits text} : Grouped digits text → Grouped (digit :: digits) (digit :: text)
  | underscore {digit digits text} : Grouped digits text →
      Grouped (digit :: digits) (digit :: '_' :: text)

/-- The letter behind the zero that marks a base other than ten. -/
inductive BaseMark : Char → Nat → Prop where
  | hexadecimal : BaseMark 'x' 16
  | octal : BaseMark 'o' 8
  | binary : BaseMark 'b' 2

/-- `NumberText number text` says that the text is a TOML integer that stands for the number. -/
inductive NumberText : Nat → List Char → Prop where
  | decimal {number text} : Grouped (Nat.toDigits 10 number) text → NumberText number text
  | plus {number text} : Grouped (Nat.toDigits 10 number) text → NumberText number ('+' :: text)
  | minusZero : NumberText 0 ['-', '0']
  | based {mark base number digits text} : BaseMark mark base → Digits base number digits →
      Grouped digits text → NumberText number ('0' :: mark :: text)

/-- The bases go up to 16, and their marks are characters of an unquoted value. -/
theorem BaseMark.bounds {mark : Char} {base : Nat} (h : BaseMark mark base) :
    1 < base ∧ base ≤ 16 ∧ isValueChar mark = true := by
  cases h <;> decide

/-! ## Digits -/

/-- A digit counts as much as it says. -/
theorem digit_value_digit_char {digit : Nat} (h : digit < 16) :
    digitValue digit.digitChar = digit := by
  interval_cases digit <;> decide

/-- Digits spell the number that the values of the single digits make up. -/
theorem digits_value_congr {base : Nat} {digits others : List Char}
    (h : digits.map digitValue = others.map digitValue) :
    digitsValue base digits = digitsValue base others := by
  have hmap : ∀ text, digitsValue base text =
      (text.map digitValue).foldl (fun value digit => value * base + digit) 0 := by
    intro text
    rw [List.foldl_map]
    rfl
  rw [hmap, hmap, h]

/-- Zeros in front do not count. -/
theorem digits_value_zeros (base zeros : Nat) (digits : List Char) :
    digitsValue base (List.replicate zeros '0' ++ digits) = digitsValue base digits := by
  induction zeros with
  | zero => rfl
  | succ zeros ih =>
      rw [List.replicate_succ, List.cons_append, ← ih]
      have hzero : (0 * base + digitValue '0') = 0 := by
        rw [Nat.zero_mul]
        rfl
      simp only [digitsValue, List.foldl_cons, hzero]

/-- The digits of a number in a base spell it. -/
theorem digits_value_to_digits {base : Nat} (hlow : 1 < base) (hhigh : base ≤ 16) (number : Nat) :
    digitsValue base (Nat.toDigits base number) = number := by
  induction number using Nat.strongRecOn with
  | ind number ih =>
      rw [Nat.toDigits_eq_if hlow]
      by_cases hdigit : number < base
      · simp [hdigit, digitsValue, digit_value_digit_char (Nat.lt_of_lt_of_le hdigit hhigh)]
      · rw [if_neg hdigit]
        have hpositive : 0 < base := by omega
        have hsmaller : number / base < number := Nat.div_lt_self (by omega) hlow
        have hlast : digitValue (number % base).digitChar = number % base :=
          digit_value_digit_char (Nat.lt_of_lt_of_le (Nat.mod_lt _ hpositive) hhigh)
        have hfront := ih _ hsmaller
        unfold digitsValue at hfront ⊢
        rw [List.foldl_append, hfront, List.foldl_cons, List.foldl_nil, hlast]
        exact Nat.div_add_mod' number base

/-- The digits of a number are smaller than the base. -/
theorem mem_to_digits {base number : Nat} {c : Char} (hlow : 1 < base)
    (h : c ∈ Nat.toDigits base number) : ∃ digit < base, c = digit.digitChar := by
  induction number using Nat.strongRecOn with
  | ind number ih =>
      rw [Nat.toDigits_eq_if hlow] at h
      by_cases hdigit : number < base
      · rw [if_pos hdigit] at h
        exact ⟨number, hdigit, List.mem_singleton.mp h⟩
      · rw [if_neg hdigit] at h
        obtain hfront | hlast := List.mem_append.mp h
        · exact ih _ (Nat.div_lt_self (by omega) hlow) hfront
        · exact ⟨number % base, Nat.mod_lt _ (by omega), List.mem_singleton.mp hlast⟩

/-- A number has no superfluous zeros in front. -/
theorem to_digits_zero {base number : Nat} {rest : List Char} (hlow : 1 < base) (hhigh : base ≤ 16)
    (h : Nat.toDigits base number = '0' :: rest) : rest = [] := by
  induction number using Nat.strongRecOn generalizing rest with
  | ind number ih =>
      rw [Nat.toDigits_eq_if hlow] at h
      by_cases hdigit : number < base
      · rw [if_pos hdigit] at h
        exact (List.cons.inj h).2.symm
      · rw [if_neg hdigit] at h
        exfalso
        obtain ⟨first, front, hfront⟩ := List.exists_cons_of_ne_nil
          (Nat.toDigits_ne_nil (n := number / base) (b := base))
        rw [hfront, List.cons_append, List.cons.injEq] at h
        obtain rfl := ih _ (Nat.div_lt_self (by omega) hlow) (h.1 ▸ hfront)
        -- A quotient that is written as a zero is zero.
        have hnothing : digitsValue base ['0'] = 0 := digits_value_zeros base 1 []
        have hzero := digits_value_to_digits hlow hhigh (number / base)
        rw [hfront, h.1, hnothing] at hzero
        have hsmall := (Nat.div_eq_zero_iff_lt (by omega)).mp hzero.symm
        omega

/-- A capital letter counts as much as the small one. -/
theorem digit_value_digit {digit : Nat} {c : Char} (h : digit < 16)
    (hc : c = digit.digitChar ∨ c = digit.digitChar.toUpper) : digitValue c = digit := by
  obtain rfl | rfl := hc
  · exact digit_value_digit_char h
  · interval_cases digit <;> decide

/-- Digits that may be capital letters have the same values, and are digits of the same base. -/
theorem same_values {base : Nat} {plains digits : List Char} (hhigh : base ≤ 16)
    (hplains : ∀ plain ∈ plains, ∃ digit < base, plain = digit.digitChar)
    (h : List.Forall₂ (fun plain digit => digit = plain ∨ digit = plain.toUpper) plains digits) :
    digits.map digitValue = plains.map digitValue ∧
      ∀ c ∈ digits, ∃ digit < base, c = digit.digitChar ∨ c = digit.digitChar.toUpper := by
  induction h with
  | nil => simp
  | cons hfirst _ ih =>
      obtain ⟨⟨digit, hdigit, rfl⟩, hrest⟩ := List.forall_mem_cons.mp hplains
      obtain ⟨hvalues, hdigits⟩ := ih hrest
      have hbelow := Nat.lt_of_lt_of_le hdigit hhigh
      rw [List.map_cons, List.map_cons, hvalues, digit_value_digit hbelow hfirst,
        digit_value_digit_char hbelow, List.forall_mem_cons]
      exact ⟨rfl, ⟨digit, hdigit, hfirst⟩, hdigits⟩

/-- Digits below 16 are hexadecimal digits. -/
theorem is_hex_digit_of_mem {digits : List Char} (h : ∀ c ∈ digits, ∃ digit < 16,
    c = digit.digitChar ∨ c = digit.digitChar.toUpper) : ∀ c ∈ digits, isHexDigit c = true := by
  intro c hc
  obtain ⟨digit, hdigit, rfl | rfl⟩ := h c hc <;> interval_cases digit <;> decide

/-- Digits of a number in a base up to 16 spell it, and all of them are digits of the base. -/
theorem Digits.spelled {base number : Nat} {digits : List Char} (hlow : 1 < base)
    (hhigh : base ≤ 16) (h : Digits base number digits) :
    digitsValue base digits = number ∧ ∀ c ∈ digits, ∃ digit < base,
      c = digit.digitChar ∨ c = digit.digitChar.toUpper := by
  obtain ⟨zeros, hdigits⟩ := h
  have hplains : ∀ plain ∈ List.replicate zeros '0' ++ Nat.toDigits base number,
      ∃ digit < base, plain = digit.digitChar := by
    intro plain hmember
    obtain hzero | hdigit := List.mem_append.mp hmember
    · exact ⟨0, by omega, List.eq_of_mem_replicate hzero⟩
    · exact mem_to_digits hlow hdigit
  obtain ⟨hvalues, hmembers⟩ := same_values hhigh hplains hdigits
  refine ⟨?_, hmembers⟩
  calc digitsValue base digits
      = digitsValue base (List.replicate zeros '0' ++ Nat.toDigits base number) :=
        digits_value_congr hvalues
    _ = digitsValue base (Nat.toDigits base number) := digits_value_zeros base zeros _
    _ = number := digits_value_to_digits hlow hhigh number

/-! ## Underscores -/

/-- Digits in groups consist of digits and underscores. -/
theorem Grouped.mem {digits text : List Char} (h : Grouped digits text) :
    ∀ c ∈ text, c ∈ digits ∨ c = '_' := by
  induction h with
  | single => simp
  | digit _ ih =>
      rintro c (_ | ⟨_, hc⟩)
      · exact Or.inl (.head _)
      · exact (ih c hc).imp_left (.tail _)
  | underscore _ ih =>
      rintro c (_ | ⟨_, _ | ⟨_, hc⟩⟩)
      · exact Or.inl (.head _)
      · exact Or.inr rfl
      · exact (ih c hc).imp_left (.tail _)

/-- Digits in groups start with a digit. -/
theorem Grouped.head {digits text : List Char} (h : Grouped digits text) :
    ∃ digit later rest, digits = digit :: later ∧ text = digit :: rest := by
  cases h with
  | single => exact ⟨_, _, _, rfl, rfl⟩
  | digit => exact ⟨_, _, _, rfl, rfl⟩
  | underscore => exact ⟨_, _, _, rfl, rfl⟩

/-- The digits are found again without the underscores. -/
theorem Grouped.ungroup {isDigit : Char → Bool} {digits text : List Char} (h : Grouped digits text)
    (hdigits : ∀ c ∈ digits, isDigit c = true) (hunderscore : isDigit '_' = false) :
    ungroup? isDigit text = some digits := by
  induction h with
  | single digit =>
      simp [ungroup?, hdigits digit (.head _)]
  | @digit digit digits text hrest ih =>
      obtain ⟨hdigit, hlater⟩ := List.forall_mem_cons.mp hdigits
      obtain ⟨next, later, rest, rfl, rfl⟩ := hrest.head
      have hnext : next ≠ '_' := by
        rintro rfl
        exact absurd (hlater '_' (.head _)) (by simp [hunderscore])
      rw [ungroup?, if_pos hdigit, ih hlater, Option.map_some]
      · simp
      · rintro _ ⟨⟩
        exact hnext rfl
  | @underscore digit digits text hrest ih =>
      obtain ⟨hdigit, hlater⟩ := List.forall_mem_cons.mp hdigits
      rw [ungroup?, if_pos hdigit, ih hlater, Option.map_some]

/-! ## Integers -/

/-- The integer that decimal digits spell. -/
theorem decimal_digits_of_grouped {number : Nat} {text : List Char}
    (h : Grouped (Nat.toDigits 10 number) text) :
    decimalDigits? text = some (Nat.toDigits 10 number) := by
  have hdigits : ∀ c ∈ Nat.toDigits 10 number, c.isDigit = true := fun c hc =>
    Nat.isDigit_of_mem_toDigits (by decide) (by decide) hc
  unfold decimalDigits?
  rw [h.ungroup hdigits rfl]
  split
  case h_1 hzero =>
    exact absurd (to_digits_zero (by decide) (by decide) (Option.some.inj hzero)) (by simp)
  case h_2 => rfl

/-- Decimal digits in groups are read as the number, without a sign or behind a plus. -/
theorem integer_value_of_grouped {number : Nat} {text : List Char}
    (h : Grouped (Nat.toDigits 10 number) text) :
    integerValue? text = some number ∧ integerValue? ('+' :: text) = some number := by
  have hchars : ∀ c ∈ text, c.isDigit = true ∨ c = '_' := by
    intro c hc
    exact (h.mem c hc).imp_left (Nat.isDigit_of_mem_toDigits (by decide) (by decide))
  have hsign : splitSign text = (false, text) := by
    unfold splitSign
    split
    · exact absurd (hchars '-' (.head _)) (by decide)
    · exact absurd (hchars '+' (.head _)) (by decide)
    · rfl
  have hdigits := decimal_digits_of_grouped h
  have hvalue : digitsValue 10 (Nat.toDigits 10 number) = number :=
    digits_value_to_digits (by decide) (by decide) number
  constructor
  · unfold integerValue?
    split
    · exact absurd (hchars 'x' (.tail _ (.head _))) (by decide)
    · exact absurd (hchars 'o' (.tail _ (.head _))) (by decide)
    · exact absurd (hchars 'b' (.tail _ (.head _))) (by decide)
    · simp [hsign, hdigits, hvalue]
  · simp [integerValue?, splitSign, hdigits, hvalue]

/-- An integer is read as the number it stands for. -/
theorem integer_value_of_number {number : Nat} {text : List Char} (h : NumberText number text) :
    integerValue? text = some number := by
  cases h with
  | decimal hgrouped => exact (integer_value_of_grouped hgrouped).1
  | plus hgrouped => exact (integer_value_of_grouped hgrouped).2
  | minusZero => decide
  | @based _ _ _ digits _ hmark hdigits hgrouped =>
      cases hmark with
      | hexadecimal =>
          obtain ⟨hvalue, hmembers⟩ := hdigits.spelled (by decide) (by decide)
          simp [integerValue?, hgrouped.ungroup (is_hex_digit_of_mem hmembers) rfl, hvalue]
      | octal =>
          obtain ⟨hvalue, hmembers⟩ := hdigits.spelled (by decide) (by decide)
          have hoctal : ∀ c ∈ digits, ('0' ≤ c && c ≤ '7') = true := by
            intro c hc
            obtain ⟨digit, hdigit, rfl | rfl⟩ := hmembers c hc <;> interval_cases digit <;> decide
          simp [integerValue?, hgrouped.ungroup hoctal rfl, hvalue]
      | binary =>
          obtain ⟨hvalue, hmembers⟩ := hdigits.spelled (by decide) (by decide)
          have hbinary : ∀ c ∈ digits, (c = '0' || c = '1') = true := by
            intro c hc
            obtain ⟨digit, hdigit, rfl | rfl⟩ := hmembers c hc <;> interval_cases digit <;> decide
          simp [integerValue?, hgrouped.ungroup hbinary rfl, hvalue]

/-! ## Unquoted values -/

/-- Digits in groups are characters of an unquoted value. -/
theorem Grouped.is_value_char {digits text : List Char} (h : Grouped digits text)
    (hdigits : ∀ c ∈ digits, ∃ digit < 16, c = digit.digitChar ∨ c = digit.digitChar.toUpper) :
    ∀ c ∈ text, isValueChar c = true := by
  intro c hc
  obtain hdigit | rfl := h.mem c hc
  · obtain ⟨digit, hlow, rfl | rfl⟩ := hdigits c hdigit <;> interval_cases digit <;> decide
  · decide

/-- An integer starts with a digit or a sign. -/
theorem NumberText.head {number : Nat} {text : List Char} (h : NumberText number text) :
    ∃ c rest, text = c :: rest ∧ (c.isDigit = true ∨ c = '+' ∨ c = '-') := by
  cases h with
  | decimal hgrouped =>
      obtain ⟨digit, later, rest, hdigits, rfl⟩ := hgrouped.head
      have hmember : digit ∈ Nat.toDigits 10 number := hdigits ▸ .head _
      exact ⟨digit, rest, rfl, Or.inl (Nat.isDigit_of_mem_toDigits (by decide) (by decide) hmember)⟩
  | plus => exact ⟨'+', _, rfl, by decide⟩
  | minusZero => exact ⟨'-', _, rfl, by decide⟩
  | based => exact ⟨'0', _, rfl, by decide⟩

/-- An integer consists of characters of an unquoted value. -/
theorem NumberText.is_value_char {number : Nat} {text : List Char} (h : NumberText number text) :
    ∀ c ∈ text, isValueChar c = true := by
  have hdecimal : ∀ c ∈ Nat.toDigits 10 number, ∃ digit < 16,
      c = digit.digitChar ∨ c = digit.digitChar.toUpper := by
    intro c hc
    obtain ⟨digit, hdigit, hvalue⟩ := mem_to_digits (by decide) hc
    exact ⟨digit, by omega, Or.inl hvalue⟩
  cases h with
  | decimal hgrouped => exact hgrouped.is_value_char hdecimal
  | plus hgrouped =>
      rw [List.forall_mem_cons]
      exact ⟨by decide, hgrouped.is_value_char hdecimal⟩
  | minusZero => simp [isValueChar, valueEnds]
  | based hmark hdigits hgrouped =>
      rw [List.forall_mem_cons, List.forall_mem_cons]
      obtain ⟨hlow, hhigh, hletter⟩ := hmark.bounds
      refine ⟨by decide, hletter, hgrouped.is_value_char fun c hc => ?_⟩
      obtain ⟨digit, hdigit, hvalue⟩ := (hdigits.spelled hlow hhigh).2 c hc
      exact ⟨digit, by omega, hvalue⟩

/-- An integer of 63 bits, taken as an unquoted value, is the number it stands for. -/
theorem of_text_number {number : Nat} {text : List Char} (h : NumberText number text)
    (hfits : number < 2 ^ 63) : ofText? (String.ofList text) = some (.integer number) := by
  obtain ⟨c, rest, htext, hc⟩ := h.head
  have hword : ∀ word : String, word.toList.head? = some 't' ∨ word.toList.head? = some 'f' →
      String.ofList text ≠ word := by
    rintro word hword rfl
    rw [String.toList_ofList, htext] at hword
    obtain ⟨⟨⟩⟩ | ⟨⟨⟩⟩ := hword <;> exact absurd hc (by decide)
  have hvalue := integer_value_of_number h
  have hrange : fits number = true := by
    simp [fits]
    omega
  simp [ofText?, hword "true" (by decide), hword "false" (by decide), hvalue, hrange]

end PluginDescriptor.Toml
