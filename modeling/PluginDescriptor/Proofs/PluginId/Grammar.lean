import Mathlib.Computability.RegularExpressions
import PluginDescriptor.Proofs.Paths

/-!
# The grammar of plugin ids

Three descriptions of the same texts. `PluginId.pattern` is a regular expression, `Segmented` tells
what is found when a text is cut at every dot, and `PluginId.isValid` reads a text from left to
right. All of them are compared with `Joined`, a first segment and more segments with a dot before
each, and `valid_iff_segmented` puts them together with what `PluginId.parse` does.
-/

namespace PluginDescriptor.PluginId

/-- The characters of a segment, one by one. -/
def segmentChars : List Char :=
  "-0123456789abcdefghijklmnopqrstuvwxyz".toList

/-- One of these characters. -/
def oneOf (chars : List Char) : RegularExpression Char :=
  (chars.map RegularExpression.char).sum

/-- One segment character or more. -/
def segmentPattern : RegularExpression Char :=
  oneOf segmentChars * (oneOf segmentChars).star

/-- A segment with a dot before it. -/
def dottedPattern : RegularExpression Char :=
  .char '.' * segmentPattern

/-- The regular expression `[-0-9a-z]+\.[-0-9a-z]+(?:\.[-0-9a-z]+)*`. -/
def pattern : RegularExpression Char :=
  segmentPattern * (dottedPattern * dottedPattern.star)

/-- What stands between the dots of a text, before the first and after the last, empty texts
included. -/
def segments (text : String) : List String :=
  (text.toList.splitOn '.').map String.ofList

/-- Cut at every dot, a text is two segments or more, and each of them is one or more of the ASCII
lower-case letters, the ASCII digits and the hyphen. -/
structure Segmented (text : String) : Prop where
  several : 2 ≤ (segments text).length
  nonempty : ∀ segment ∈ segments text, segment ≠ ""
  plain : ∀ segment ∈ segments text, ∀ c ∈ segment.toList,
    ('a' ≤ c ∧ c ≤ 'z') ∨ ('0' ≤ c ∧ c ≤ '9') ∨ c = '-'

/-- One segment character or more. -/
def IsSegment (chars : List Char) : Prop :=
  chars ≠ [] ∧ ∀ c ∈ chars, isSegmentChar c = true

/-- The characters of a first segment and of the others, with a dot before each of these. -/
def joined (first : List Char) (others : List (List Char)) : List Char :=
  first ++ others.flatMap ('.' :: ·)

/-- Two segments or more, with dots between them. -/
def Joined (chars : List Char) : Prop :=
  ∃ first others, chars = joined first others ∧ IsSegment first ∧
    (∀ segment ∈ others, IsSegment segment) ∧ others ≠ []

/-! ## Segment characters -/

/-- The segment characters are the ASCII lower-case letters, the ASCII digits and the hyphen. -/
theorem segment_char_iff {c : Char} :
    isSegmentChar c = true ↔ ('a' ≤ c ∧ c ≤ 'z') ∨ ('0' ≤ c ∧ c ≤ '9') ∨ c = '-' := by
  have hlower : c.isLower = (decide ('a' ≤ c) && decide (c ≤ 'z')) := rfl
  have hdigit : c.isDigit = (decide ('0' ≤ c) && decide (c ≤ '9')) := rfl
  simp only [isSegmentChar, hlower, hdigit, Bool.or_eq_true, Bool.and_eq_true, decide_eq_true_eq,
    or_assoc]

/-- A segment character is a graphic ASCII character. -/
theorem segment_char_bounds {c : Char} (h : isSegmentChar c = true) :
    0x20 < c.toNat ∧ c.toNat < 0x7F := by
  simp only [segment_char_iff, Char.le_def, UInt32.le_iff_toNat_le] at h
  rcases h with ⟨hlower, hupper⟩ | ⟨hlower, hupper⟩ | rfl
  · have hfirst : 0x61 ≤ c.toNat := hlower
    have hlast : c.toNat ≤ 0x7A := hupper
    omega
  · have hfirst : 0x30 ≤ c.toNat := hlower
    have hlast : c.toNat ≤ 0x39 := hupper
    omega
  · decide

/-- The listed characters are the segment characters. -/
theorem mem_segment_chars {c : Char} : c ∈ segmentChars ↔ isSegmentChar c = true := by
  constructor
  · have hall : segmentChars.all isSegmentChar = true := by decide
    exact List.all_eq_true.mp hall c
  · intro hc
    -- The ASCII characters can be gone through.
    have hascii : ∀ code < 0x7F, isSegmentChar (Char.ofNat code) = true →
        Char.ofNat code ∈ segmentChars := by decide
    have hmem := hascii c.toNat (segment_char_bounds hc).2
    rw [Char.ofNat_toNat] at hmem
    exact hmem hc

/-- A dot is no segment character, so no segment holds one. -/
theorem IsSegment.dot_not_mem {chars : List Char} (h : IsSegment chars) : '.' ∉ chars := by
  intro hdot
  exact absurd (h.2 '.' hdot) (by decide)

/-! ## The regular expression -/

/-- A character class matches its characters. -/
theorem mem_one_of {chars word : List Char} :
    word ∈ (oneOf chars).matches' ↔ ∃ c ∈ chars, word = [c] := by
  induction chars with
  | nil => simp [oneOf]
  | cons first rest ih =>
      have hsum : oneOf (first :: rest) = .char first + oneOf rest := rfl
      have hfirst : word ∈ (RegularExpression.char first).matches' ↔ word = [first] := Iff.rfl
      rw [hsum, RegularExpression.matches'_add, Language.mem_add, ih, hfirst,
        List.exists_mem_cons_iff]

/-- A repeated character class matches words of its characters. -/
theorem mem_one_of_star {chars word : List Char} :
    word ∈ (oneOf chars).star.matches' ↔ ∀ c ∈ word, c ∈ chars := by
  rw [RegularExpression.matches'_star, Language.mem_kstar]
  constructor
  · rintro ⟨words, rfl, hwords⟩ c hc
    obtain ⟨word, hword, hmem⟩ := List.mem_flatten.mp hc
    obtain ⟨only, honly, rfl⟩ := mem_one_of.mp (hwords word hword)
    exact List.mem_singleton.mp hmem ▸ honly
  · intro hchars
    refine ⟨word.map fun c => [c], ?_, ?_⟩
    · rw [← List.flatMap_def, List.flatMap_singleton']
    · intro single hsingle
      obtain ⟨c, hc, rfl⟩ := List.mem_map.mp hsingle
      exact mem_one_of.mpr ⟨c, hchars c hc, rfl⟩

/-- The pattern of a segment matches segments. -/
theorem mem_segment_pattern {word : List Char} :
    word ∈ segmentPattern.matches' ↔ IsSegment word := by
  rw [segmentPattern, RegularExpression.matches'_mul, Language.mem_mul]
  simp only [mem_one_of, mem_one_of_star, mem_segment_chars]
  constructor
  · rintro ⟨_, ⟨c, hc, rfl⟩, rest, hrest, rfl⟩
    refine ⟨by simp, ?_⟩
    intro other hother
    rcases List.mem_cons.mp hother with rfl | hother
    · exact hc
    · exact hrest other hother
  · rintro ⟨hne, hall⟩
    obtain ⟨c, rest, rfl⟩ := List.exists_cons_of_ne_nil hne
    exact ⟨[c], ⟨c, hall c List.mem_cons_self, rfl⟩, rest,
      fun other hother => hall other (List.mem_cons_of_mem c hother), rfl⟩

/-- The pattern of a dotted segment matches a dot with a segment behind it. -/
theorem mem_dotted_pattern {word : List Char} :
    word ∈ dottedPattern.matches' ↔ ∃ segment, IsSegment segment ∧ word = '.' :: segment := by
  rw [dottedPattern, RegularExpression.matches'_mul, Language.mem_mul,
    RegularExpression.matches'_char]
  simp only [mem_segment_pattern]
  constructor
  · rintro ⟨_, rfl, segment, hsegment, rfl⟩
    exact ⟨segment, hsegment, rfl⟩
  · rintro ⟨segment, hsegment, rfl⟩
    exact ⟨['.'], rfl, segment, hsegment, rfl⟩

/-- The repeated pattern matches any number of dotted segments. -/
theorem mem_dotted_pattern_star {word : List Char} :
    word ∈ dottedPattern.star.matches' ↔
      ∃ others : List (List Char), (∀ segment ∈ others, IsSegment segment) ∧
        word = others.flatMap ('.' :: ·) := by
  rw [RegularExpression.matches'_star, Language.mem_kstar]
  constructor
  · rintro ⟨words, rfl, hwords⟩
    induction words with
    | nil => exact ⟨[], by simp, rfl⟩
    | cons word rest ih =>
        obtain ⟨segment, hsegment, rfl⟩ :=
          mem_dotted_pattern.mp (hwords word List.mem_cons_self)
        obtain ⟨others, hothers, hrest⟩ :=
          ih fun other hother => hwords other (List.mem_cons_of_mem _ hother)
        refine ⟨segment :: others, ?_, ?_⟩
        · exact List.forall_mem_cons.mpr ⟨hsegment, hothers⟩
        · rw [List.flatten_cons, hrest, List.flatMap_cons]
  · rintro ⟨others, hothers, rfl⟩
    refine ⟨others.map ('.' :: ·), List.flatMap_def, ?_⟩
    intro word hword
    obtain ⟨segment, hsegment, rfl⟩ := List.mem_map.mp hword
    exact mem_dotted_pattern.mpr ⟨segment, hothers segment hsegment, rfl⟩

/-- The pattern of plugin ids matches two segments or more, with dots between them. -/
theorem mem_pattern {chars : List Char} : chars ∈ pattern.matches' ↔ Joined chars := by
  rw [pattern, RegularExpression.matches'_mul, RegularExpression.matches'_mul, Language.mem_mul]
  simp only [Language.mem_mul, mem_segment_pattern, mem_dotted_pattern, mem_dotted_pattern_star]
  constructor
  · rintro ⟨first, hfirst, _, ⟨_, ⟨second, hsecond, rfl⟩, _, ⟨others, hothers, rfl⟩, rfl⟩, rfl⟩
    exact ⟨first, second :: others, rfl, hfirst, List.forall_mem_cons.mpr ⟨hsecond, hothers⟩,
      List.cons_ne_nil _ _⟩
  · rintro ⟨first, others, rfl, hfirst, hothers, hne⟩
    obtain ⟨second, others, rfl⟩ := List.exists_cons_of_ne_nil hne
    obtain ⟨hsecond, hothers⟩ := List.forall_mem_cons.mp hothers
    exact ⟨first, hfirst, _, ⟨_, ⟨second, hsecond, rfl⟩, _, ⟨others, hothers, rfl⟩, rfl⟩, rfl⟩

/-! ## Cutting at dots -/

/-- To put dots before all segments but the first is to put dots between them. -/
theorem joined_eq_intercalate (first : List Char) (others : List (List Char)) :
    joined first others = ['.'].intercalate (first :: others) := by
  induction others generalizing first with
  | nil => simp [joined]
  | cons second rest ih =>
      rw [List.intercalate_cons_cons, ← ih second]
      simp [joined]

/-- Cutting at dots gives back the segments that dots were put between. -/
theorem joined_iff_split {chars : List Char} :
    Joined chars ↔ 2 ≤ (chars.splitOn '.').length ∧
      ∀ segment ∈ chars.splitOn '.', IsSegment segment := by
  constructor
  · rintro ⟨first, others, rfl, hfirst, hothers, hne⟩
    have hall : ∀ segment ∈ first :: others, IsSegment segment :=
      List.forall_mem_cons.mpr ⟨hfirst, hothers⟩
    have hsplit : (joined first others).splitOn '.' = first :: others := by
      rw [joined_eq_intercalate]
      exact List.splitOn_intercalate '.' (fun segment hsegment =>
        (hall segment hsegment).dot_not_mem) (List.cons_ne_nil _ _)
    have hlength := List.length_pos_of_ne_nil hne
    rw [hsplit, List.length_cons]
    exact ⟨by omega, hall⟩
  · rintro ⟨hlength, hall⟩
    obtain ⟨first, others, hsplit⟩ :=
      List.exists_cons_of_ne_nil (List.splitOn_ne_nil '.' chars)
    rw [hsplit, List.length_cons] at hlength
    rw [hsplit, List.forall_mem_cons] at hall
    refine ⟨first, others, ?_, hall.1, hall.2, ?_⟩
    · rw [joined_eq_intercalate, ← hsplit, List.intercalate_splitOn]
    · exact List.ne_nil_of_length_pos (by omega)

/-- A text is segmented if it is two segments or more with dots between them. -/
theorem segmented_iff {text : String} : Segmented text ↔ Joined text.toList := by
  have hlength : (segments text).length = (text.toList.splitOn '.').length := List.length_map ..
  rw [joined_iff_split, ← hlength]
  constructor
  · rintro ⟨hseveral, hnonempty, hplain⟩
    refine ⟨hseveral, ?_⟩
    intro segment hsegment
    have hmem : String.ofList segment ∈ segments text := List.mem_map_of_mem hsegment
    refine ⟨?_, ?_⟩
    · rintro rfl
      exact hnonempty _ hmem rfl
    · intro c hc
      exact segment_char_iff.mpr (hplain _ hmem c (by simpa using hc))
  · rintro ⟨hseveral, hall⟩
    refine ⟨hseveral, ?_, ?_⟩
    · intro segment hsegment
      obtain ⟨chars, hchars, rfl⟩ := List.mem_map.mp hsegment
      simpa using (hall chars hchars).1
    · intro segment hsegment c hc
      obtain ⟨chars, hchars, rfl⟩ := List.mem_map.mp hsegment
      exact segment_char_iff.mp ((hall chars hchars).2 c (by simpa using hc))

/-! ## Reading from left to right -/

/-- Segment characters keep a reader inside of a segment. -/
theorem foldl_next_inside {chars : List Char} (dotted : Bool)
    (h : ∀ c ∈ chars, isSegmentChar c = true) :
    chars.foldl Progress.next (.inside dotted) = .inside dotted := by
  induction chars with
  | nil => rfl
  | cons c rest ih =>
      obtain ⟨hc, hrest⟩ := List.forall_mem_cons.mp h
      have hstep : Progress.next (.inside dotted) c = .inside dotted := by
        simp [Progress.next, hc]
      rw [List.foldl_cons, hstep, ih hrest]

/-- A segment takes a reader that expects one to its inside. -/
theorem IsSegment.foldl_next {chars : List Char} (h : IsSegment chars) (dotted : Bool) :
    chars.foldl Progress.next (.expecting dotted) = .inside dotted := by
  obtain ⟨hne, hall⟩ := h
  obtain ⟨c, rest, rfl⟩ := List.exists_cons_of_ne_nil hne
  obtain ⟨hc, hrest⟩ := List.forall_mem_cons.mp hall
  have hstep : Progress.next (.expecting dotted) c = .inside dotted := by
    simp [Progress.next, hc]
  rw [List.foldl_cons, hstep, foldl_next_inside dotted hrest]

/-- Dotted segments take a reader from the inside of one segment to the inside of another. -/
theorem foldl_next_dotted {others : List (List Char)} (dotted : Bool)
    (h : ∀ segment ∈ others, IsSegment segment) :
    (others.flatMap ('.' :: ·)).foldl Progress.next (.inside dotted) =
      .inside (dotted || !others.isEmpty) := by
  induction others generalizing dotted with
  | nil => simp
  | cons segment rest ih =>
      obtain ⟨hsegment, hrest⟩ := List.forall_mem_cons.mp h
      have hdot : Progress.next (.inside dotted) '.' = .expecting true := rfl
      rw [List.flatMap_cons, List.cons_append, List.foldl_cons, hdot, List.foldl_append,
        hsegment.foldl_next, ih true hrest]
      simp

/-- What a reader accepts from the inside of a segment on, it accepts as the rest of that segment
and further segments. What it accepts where a segment has to start is led by a segment. -/
theorem joined_of_foldl_next {chars : List Char} {dotted : Bool} :
    (chars.foldl Progress.next (.inside dotted) = .inside true →
      ∃ first others, chars = joined first others ∧ (∀ c ∈ first, isSegmentChar c = true) ∧
        (∀ segment ∈ others, IsSegment segment) ∧ (dotted = true ∨ others ≠ [])) ∧
    (chars.foldl Progress.next (.expecting dotted) = .inside true →
      ∃ first others, chars = joined first others ∧ IsSegment first ∧
        (∀ segment ∈ others, IsSegment segment) ∧ (dotted = true ∨ others ≠ [])) := by
  induction chars generalizing dotted with
  | nil =>
      constructor
      · intro h
        cases h
        exact ⟨[], [], rfl, by simp, by simp, Or.inl rfl⟩
      · intro h
        cases h
  | cons c rest ih =>
      rw [List.foldl_cons, List.foldl_cons]
      by_cases hc : isSegmentChar c = true
      · -- The character belongs to the segment that is being read, or starts it.
        have hinside : Progress.next (.inside dotted) c = .inside dotted := by
          simp [Progress.next, hc]
        have hexpecting : Progress.next (.expecting dotted) c = .inside dotted := by
          simp [Progress.next, hc]
        rw [hinside, hexpecting]
        have hlonger : rest.foldl Progress.next (.inside dotted) = .inside true →
            ∃ first others, c :: rest = joined first others ∧ IsSegment first ∧
              (∀ segment ∈ others, IsSegment segment) ∧ (dotted = true ∨ others ≠ []) := by
          intro h
          obtain ⟨first, others, rfl, hfirst, hothers, hend⟩ := ih.1 h
          exact ⟨c :: first, others, rfl,
            ⟨List.cons_ne_nil _ _, List.forall_mem_cons.mpr ⟨hc, hfirst⟩⟩, hothers, hend⟩
        refine ⟨?_, hlonger⟩
        intro h
        obtain ⟨first, others, hrest, hfirst, hothers, hend⟩ := hlonger h
        exact ⟨first, others, hrest, hfirst.2, hothers, hend⟩
      · have hexpecting : Progress.next (.expecting dotted) c = .failed := by
          simp [Progress.next, hc]
        rw [hexpecting, foldl_next_failed]
        have hrefused : Progress.failed ≠ .inside true := by decide
        refine ⟨?_, fun h => absurd h hrefused⟩
        by_cases hdot : c = '.'
        · -- The dot ends a segment, and another one has to follow.
          subst hdot
          intro h
          obtain ⟨segment, others, rfl, hsegment, hothers, _⟩ := ih.2 h
          exact ⟨[], segment :: others, rfl, by simp,
            List.forall_mem_cons.mpr ⟨hsegment, hothers⟩, Or.inr (List.cons_ne_nil _ _)⟩
        · have hfailed : Progress.next (.inside dotted) c = .failed := by
            simp [Progress.next, hc, hdot]
          rw [hfailed, foldl_next_failed]
          exact fun h => absurd h hrefused

/-- The texts that are read as plugin ids are two segments or more, with dots between them. -/
theorem is_valid_iff {text : String} : isValid text = true ↔ Joined text.toList := by
  rw [isValid, decide_eq_true_eq]
  constructor
  · intro h
    obtain ⟨first, others, hchars, hfirst, hothers, hend⟩ := joined_of_foldl_next.2 h
    rcases hend with hend | hend
    · cases hend
    · exact ⟨first, others, hchars, hfirst, hothers, hend⟩
  · rintro ⟨first, others, hchars, hfirst, hothers, hne⟩
    rw [hchars, joined, List.foldl_append, hfirst.foldl_next, foldl_next_dotted false hothers]
    simp [hne]

/-! ## What is accepted -/

/-- A plugin id is known by its text. -/
theorem text_inj {id other : PluginId} : id.text = other.text ↔ id = other := by
  obtain ⟨text, _⟩ := id
  obtain ⟨otherText, _⟩ := other
  rw [PluginId.mk.injEq]

/-- An accepted text is kept as it is. -/
theorem parse_ok_iff {text : String} {id : PluginId} :
    parse text = .ok id ↔ isValid text = true ∧ id.text = text := by
  unfold parse
  by_cases htext : isValid text = true
  · rw [dif_pos htext, Except.ok.injEq, ← text_inj]
    exact ⟨fun h => ⟨htext, h.symm⟩, fun h => h.2.symm⟩
  · simp [htext]

/-- A refused text is kept as it is. -/
theorem parse_error_iff {text : String} {invalid : InvalidPluginId} :
    parse text = .error invalid ↔ ¬ isValid text = true ∧ invalid.text = text := by
  obtain ⟨invalidText⟩ := invalid
  unfold parse
  by_cases htext : isValid text = true
  · simp [htext]
  · rw [dif_neg htext, Except.error.injEq, InvalidPluginId.mk.injEq]
    exact ⟨fun h => ⟨htext, h.symm⟩, fun h => h.2.symm⟩

/-- The validator accepts the texts that match the regular expression, and these are the texts that
consist of two or more segments when they are cut at every dot. Exactly these are made into plugin
ids, and exactly the others are refused, with the text as it was given either way. -/
theorem valid_iff_segmented (text : String) :
    (isValid text = true ↔ text.toList ∈ pattern.matches') ∧
    (isValid text = true ↔ Segmented text) ∧
    ((∃ id, parse text = .ok id ∧ id.text = text) ↔ Segmented text) ∧
    (parse text = .error ⟨text⟩ ↔ ¬ Segmented text) := by
  have hsegmented : isValid text = true ↔ Segmented text := is_valid_iff.trans segmented_iff.symm
  refine ⟨is_valid_iff.trans mem_pattern.symm, hsegmented, ?_, ?_⟩
  · constructor
    · rintro ⟨id, hparse, _⟩
      exact hsegmented.mp (parse_ok_iff.mp hparse).1
    · intro h
      have hvalid := hsegmented.mpr h
      exact ⟨⟨text, hvalid⟩, parse_ok_iff.mpr ⟨hvalid, rfl⟩, rfl⟩
  · rw [parse_error_iff, hsegmented]
    exact and_iff_left rfl

/-- Dots at an end or in a row, a line break, and letters and digits outside ASCII are refused. -/
example : [".a.b", "a.b.", "a..b", "a", "a.b\n", "a.B", "a.é", "a.٣"].all (!isValid ·) = true := by
  decide

end PluginDescriptor.PluginId
