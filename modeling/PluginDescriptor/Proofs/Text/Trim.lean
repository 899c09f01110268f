import Mathlib.Data.List.TakeWhile
import PluginDescriptor.Text.Trim

/-!
# What trimming leaves

A text can be taken apart into a front and a back of characters that are taken off and a core that
neither starts nor ends with one. `trim_of_wrapped` and `exists_wrapped` say that the core is what
`Text.trim` leaves, and `wrapped_unique` that a core that is not empty settles the front and the
back.
-/

namespace PluginDescriptor.Text

/-- Around a core there are only `strip` characters, and it neither starts nor ends with one. -/
structure Wrapped (strip : Char → Bool) (front core back : String) : Prop where
  front : ∀ c ∈ front.toList, strip c = true
  back : ∀ c ∈ back.toList, strip c = true
  starts : ∀ c, core.toList.head? = some c → strip c = false
  ends : ∀ c, core.toList.getLast? = some c → strip c = false

variable {strip : Char → Bool} {front core back : String} {chars : List Char}

/-- Nothing is taken off the front of characters that start with one that stays. -/
theorem drop_while_of_head (h : ∀ c, chars.head? = some c → strip c = false) :
    chars.dropWhile strip = chars := by
  cases chars with
  | nil => rfl
  | cons c rest =>
      have hc : ¬ strip c = true := by simp [h c rfl]
      rw [List.dropWhile_cons_of_neg hc]

/-- What is left behind the characters taken off the front starts with one that stays. -/
theorem head_drop_while {c : Char} (h : (chars.dropWhile strip).head? = some c) :
    strip c = false := by
  have hnot := List.head?_dropWhile_not strip chars
  rw [h] at hnot
  exact hnot

/-- Trimming leaves the core. -/
theorem trim_of_wrapped (h : Wrapped strip front core back) :
    trim strip (front ++ core ++ back) = core := by
  have hback : back.toList.dropWhile strip = [] := List.dropWhile_eq_nil_iff.mpr h.back
  have hfront : (front ++ core ++ back).toList.dropWhile strip =
      (core.toList ++ back.toList).dropWhile strip := by
    rw [String.toList_append, String.toList_append, List.append_assoc,
      List.dropWhile_append_of_pos h.front]
  have hend : (back.toList.reverse ++ core.toList.reverse).dropWhile strip =
      core.toList.reverse := by
    rw [List.dropWhile_append_of_pos (by simpa using h.back)]
    apply drop_while_of_head
    intro c hc
    rw [List.head?_reverse] at hc
    exact h.ends c hc
  rw [trim, hfront]
  cases hcore : core.toList with
  | nil =>
      rw [List.nil_append, hback, List.reverse_nil, List.dropWhile_nil, List.reverse_nil, ← hcore,
        String.ofList_toList]
  | cons first rest =>
      have hstays : ∀ c, (core.toList ++ back.toList).head? = some c → strip c = false := by
        intro c hc
        rw [hcore, List.cons_append, List.head?_cons] at hc
        exact h.starts c (by rw [hcore]; exact hc)
      rw [← hcore, drop_while_of_head hstays, List.reverse_append, hend, List.reverse_reverse,
        String.ofList_toList]

/-- Every text is what trimming leaves with what trimming takes off around it. -/
theorem exists_wrapped (strip : Char → Bool) (text : String) :
    ∃ front back, text = front ++ trim strip text ++ back ∧
      Wrapped strip front (trim strip text) back := by
  let inner := text.toList.dropWhile strip
  have hfront : text.toList.takeWhile strip ++ inner = text.toList :=
    List.takeWhile_append_dropWhile
  have hback : (inner.reverse.dropWhile strip).reverse ++ (inner.reverse.takeWhile strip).reverse =
      inner := by
    rw [← List.reverse_append, List.takeWhile_append_dropWhile, List.reverse_reverse]
  have hcore : (trim strip text).toList = (inner.reverse.dropWhile strip).reverse :=
    String.toList_ofList
  refine ⟨String.ofList (text.toList.takeWhile strip),
    String.ofList (inner.reverse.takeWhile strip).reverse, ?_, ?_, ?_, ?_, ?_⟩
  · rw [← String.toList_inj, String.toList_append, String.toList_append, hcore,
      String.toList_ofList, String.toList_ofList, List.append_assoc, hback, hfront]
  · intro c hc
    rw [String.toList_ofList] at hc
    exact List.mem_takeWhile_imp hc
  · intro c hc
    rw [String.toList_ofList, List.mem_reverse] at hc
    exact List.mem_takeWhile_imp hc
  · intro c hc
    -- The core is a beginning of what is left behind the front, so it starts with the same.
    have hinner : (text.toList.dropWhile strip).head? = some c := by
      show inner.head? = some c
      rw [← hback, List.head?_append, ← hcore, hc]
      rfl
    exact head_drop_while hinner
  · intro c hc
    rw [hcore, List.getLast?_reverse] at hc
    exact head_drop_while hc

/-- The front is what can be taken off, if something stays behind it. -/
theorem take_while_of_wrapped (h : Wrapped strip front core back) (hcore : core ≠ "") :
    (front ++ core ++ back).toList.takeWhile strip = front.toList := by
  have hne : core.toList ≠ [] := by simpa using hcore
  obtain ⟨first, rest, hchars⟩ := List.exists_cons_of_ne_nil hne
  have hstays : ¬ strip first = true := by
    rw [h.starts first (by rw [hchars]; rfl)]
    exact Bool.false_ne_true
  rw [String.toList_append, String.toList_append, List.append_assoc,
    List.takeWhile_append_of_pos h.front, hchars, List.cons_append,
    List.takeWhile_cons_of_neg hstays, List.append_nil]

/-- A text can be taken apart around a core that is not empty in one way only. -/
theorem wrapped_unique {otherFront other otherBack : String} (h : Wrapped strip front core back)
    (hother : Wrapped strip otherFront other otherBack)
    (hsame : front ++ core ++ back = otherFront ++ other ++ otherBack) (hcore : core ≠ "") :
    otherFront = front ∧ other = core ∧ otherBack = back := by
  have hcores : other = core := by
    rw [← trim_of_wrapped hother, ← hsame, trim_of_wrapped h]
  subst hcores
  have hfronts : otherFront = front := by
    rw [← String.toList_inj, ← take_while_of_wrapped hother hcore, ← hsame,
      take_while_of_wrapped h hcore]
  subst hfronts
  refine ⟨rfl, rfl, ?_⟩
  rw [← String.toList_inj] at hsame ⊢
  simpa using hsame.symm

/-- Nothing is left of a text exactly if all of it can be taken off. -/
theorem Wrapped.core_eq_empty_iff (h : Wrapped strip front core back) :
    core = "" ↔ ∀ c ∈ (front ++ core ++ back).toList, strip c = true := by
  constructor
  · rintro rfl c hc
    rw [String.append_empty, String.toList_append, List.mem_append] at hc
    exact hc.elim (h.front c) (h.back c)
  · intro hall
    by_contra hne
    have hchars : core.toList ≠ [] := by simpa using hne
    obtain ⟨first, rest, hcore⟩ := List.exists_cons_of_ne_nil hchars
    have htaken : strip first = true := hall first (by simp [hcore])
    rw [h.starts first (by rw [hcore]; rfl)] at htaken
    cases htaken

/-- What is in front of a text and can be taken off makes no difference. -/
theorem trim_append_left {text : String} (h : ∀ c ∈ front.toList, strip c = true) :
    trim strip (front ++ text) = trim strip text := by
  obtain ⟨inner, back, htext, hwrapped⟩ := exists_wrapped strip text
  have hboth : Wrapped strip (front ++ inner) (trim strip text) back := by
    refine ⟨?_, hwrapped.back, hwrapped.starts, hwrapped.ends⟩
    intro c hc
    rw [String.toList_append, List.mem_append] at hc
    exact hc.elim (h c) (hwrapped.front c)
  calc trim strip (front ++ text)
      = trim strip (front ++ (inner ++ trim strip text ++ back)) := by rw [← htext]
    _ = trim strip (front ++ inner ++ trim strip text ++ back) := by
        simp only [String.append_assoc]
    _ = trim strip text := trim_of_wrapped hboth

/-- What is behind a text and can be taken off makes no difference. -/
theorem trim_append_right {text : String} (h : ∀ c ∈ back.toList, strip c = true) :
    trim strip (text ++ back) = trim strip text := by
  obtain ⟨front, inner, htext, hwrapped⟩ := exists_wrapped strip text
  have hboth : Wrapped strip front (trim strip text) (inner ++ back) := by
    refine ⟨hwrapped.front, ?_, hwrapped.starts, hwrapped.ends⟩
    intro c hc
    rw [String.toList_append, List.mem_append] at hc
    exact hc.elim (hwrapped.back c) (h c)
  calc trim strip (text ++ back)
      = trim strip (front ++ trim strip text ++ inner ++ back) := by rw [← htext]
    _ = trim strip (front ++ trim strip text ++ (inner ++ back)) := by rw [String.append_assoc]
    _ = trim strip text := trim_of_wrapped hboth

/-- Characters can be exchanged before trimming if that does not change which are taken off. -/
theorem trim_map {f : Char → Char} (h : ∀ c, strip (f c) = strip c) (text : String) :
    trim strip (text.map f) = (trim strip text).map f := by
  have hsame : strip ∘ f = strip := funext h
  rw [← String.toList_inj]
  simp only [trim, String.toList_map, String.toList_ofList, List.dropWhile_map,
    ← List.map_reverse, hsame]

end PluginDescriptor.Text
