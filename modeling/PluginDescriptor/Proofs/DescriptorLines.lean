import PluginDescriptor.CommandLine
import PluginDescriptor.Descriptor
import PluginDescriptor.Proofs.Manifest.RoundTrip

/-!
# The lines of a descriptor

A descriptor has three lines, `ThreeLined`, as long as nothing that is written into it brings a line
break of its own. The time never does. The name and the version of the generator and the name of the
class may, since none of them is looked at before it is written: a class or a generator whose name
holds a line break adds lines to its descriptor, `not_three_lined`. The main statement,
`three_lined_iff`, says that this is the only way to another form.
-/

namespace PluginDescriptor

namespace Text

/-- A character that ends a line of a descriptor. -/
def isLineBreak (c : Char) : Bool :=
  c = '\n' || c = '\r'

/-- How often a line ends in a text. -/
def lineBreaks (text : String) : Nat :=
  text.toList.countP isLineBreak

/-- Lines end in a text where they end in its parts. -/
@[simp] theorem line_breaks_append (first second : String) :
    lineBreaks (first ++ second) = lineBreaks first + lineBreaks second := by
  simp [lineBreaks, String.toList_append, List.countP_append]

/-- Lines with a line break after each end there, and where they are broken themselves. -/
theorem line_breaks_join (lines : List String) :
    lineBreaks (String.join (lines.map (· ++ "\n"))) =
      lines.length + (lines.map lineBreaks).sum := by
  induction lines with
  | nil => rfl
  | cons line rest ih =>
      have hend : lineBreaks "\n" = 1 := by decide
      rw [List.map_cons, String.join_cons, line_breaks_append, line_breaks_append, ih, hend,
        List.map_cons, List.sum_cons, List.length_cons]
      omega

end Text

open Text

namespace Moment

/-! ## The time -/

/-- A digit ends no line. -/
theorem digit_char_unbroken {digit : Nat} (h : digit < 10) :
    isLineBreak digit.digitChar = false := by
  interval_cases digit <;> rfl

/-- Any number of digits is on one line. -/
theorem digits_unbroken (width number : Nat) : (digits width number).countP isLineBreak = 0 := by
  induction width generalizing number with
  | zero => rfl
  | succ width ih =>
      have hlast : isLineBreak (number % 10).digitChar = false :=
        digit_char_unbroken (Nat.mod_lt _ (by decide))
      rw [digits, List.countP_append, ih, List.countP_singleton, hlast]
      rfl

/-- A number is on one line, whether or not it has to be padded. -/
@[simp] theorem padded_digits_unbroken (width number : Nat) :
    (paddedDigits width number).countP isLineBreak = 0 := by
  unfold paddedDigits
  split
  · exact digits_unbroken width number
  · rw [List.countP_eq_zero]
    intro c hc
    obtain ⟨digit, hdigit, rfl⟩ := Toml.mem_to_digits (by decide) hc
    rw [digit_char_unbroken hdigit]
    exact Bool.false_ne_true

/-- A year is on one line. -/
@[simp] theorem year_text_unbroken (year : Int) : (yearText year).countP isLineBreak = 0 := by
  unfold yearText
  split
  · simp [isLineBreak]
  · split <;> simp [isLineBreak]

/-- An offset is on one line. -/
@[simp] theorem offset_text_unbroken (offset : Int) :
    (offsetText offset).countP isLineBreak = 0 := by
  unfold offsetText
  by_cases hsign : offset < 0 <;> simp [hsign, isLineBreak]

/-- The time is on one line. -/
@[simp] theorem line_breaks_rfc3339 (moment : Moment) : lineBreaks moment.rfc3339 = 0 := by
  simp [lineBreaks, rfc3339, dateTimeText, isLineBreak]

end Moment

/-! ## The generator -/

/-- The text of a label is on one line if its name and its version are. -/
theorem GeneratorLabel.line_breaks_text_eq_zero_iff (label : GeneratorLabel) :
    lineBreaks label.text = 0 ↔ lineBreaks label.name = 0 ∧
      ∀ version, label.version = some version → lineBreaks version = 0 := by
  obtain ⟨name, version⟩ := label
  cases version with
  | none => simp [text]
  | some version =>
      have hopening : lineBreaks " (version: " = 0 := by decide +kernel
      have hclosing : lineBreaks ")" = 0 := by decide +kernel
      show lineBreaks (name ++ " (version: " ++ version ++ ")") = 0 ↔ _
      simp [hopening, hclosing]

namespace Descriptor

/-! ## The three lines -/

/-- The lines of a descriptor: its generator, its time and its class. -/
def lines (generator time className : String) : List String :=
  ["# Generated by " ++ generator, "# Generated on " ++ time,
    "implementation-class = " ++ className]

/-- The text has the form of a descriptor of a class: three lines, each of which ends in the only
line break there is in it. -/
def ThreeLined (className text : String) : Prop :=
  ∃ generator time, text = String.join ((lines generator time className).map (· ++ "\n")) ∧
    ∀ line ∈ lines generator time className, lineBreaks line = 0

/-- The lines of a descriptor are broken where what is written into them is. -/
theorem line_breaks_lines (generator time className : String) :
    (lines generator time className).map lineBreaks =
      [lineBreaks generator, lineBreaks time, lineBreaks className] := by
  have hgenerator : lineBreaks "# Generated by " = 0 := by decide +kernel
  have htime : lineBreaks "# Generated on " = 0 := by decide +kernel
  have hclass : lineBreaks "implementation-class = " = 0 := by decide +kernel
  simp only [lines, List.map_cons, List.map_nil, line_breaks_append, hgenerator, htime, hclass,
    Nat.zero_add]

/-- A descriptor is its lines, with a line break after each. -/
theorem render_eq_join (label : GeneratorLabel) (moment : Moment) (className : String) :
    render label moment className =
      String.join ((lines label.text moment.rfc3339 className).map (· ++ "\n")) := by
  have htime : "\n# Generated on " = "\n" ++ "# Generated on " := rfl
  have hclass : "\nimplementation-class = " = "\n" ++ "implementation-class = " := rfl
  unfold render
  -- How the time is written makes no difference, and comparing texts would look into it.
  generalize moment.rfc3339 = time
  rw [htime, hclass]
  simp only [lines, List.map_cons, List.map_nil, String.join_cons, String.join_nil,
    String.append_assoc, String.append_empty]

/-- Beside the ends of its three lines, a descriptor has the line breaks of its label and of its
class. -/
theorem line_breaks_render (label : GeneratorLabel) (moment : Moment) (className : String) :
    lineBreaks (render label moment className) =
      3 + (lineBreaks label.text + lineBreaks className) := by
  rw [render_eq_join, line_breaks_join, line_breaks_lines, moment.line_breaks_rfc3339]
  simp [lines]

/-- A text in the form of a descriptor has three line breaks. -/
theorem ThreeLined.line_breaks {className text : String} (h : ThreeLined className text) :
    lineBreaks text = 3 := by
  obtain ⟨generator, time, rfl, hlines⟩ := h
  have hunbroken : ((lines generator time className).map lineBreaks).sum = 0 :=
    List.sum_eq_zero_iff_forall_eq_nat.mpr (List.forall_mem_map.mpr hlines)
  rw [line_breaks_join, hunbroken]
  rfl

/-- A descriptor has the form of one if and only if neither the name nor the version of its
generator nor the name of its class holds a line break. -/
theorem three_lined_iff (label : GeneratorLabel) (moment : Moment) (className : String) :
    ThreeLined className (render label moment className) ↔
      lineBreaks label.name = 0 ∧
        (∀ version, label.version = some version → lineBreaks version = 0) ∧
        lineBreaks className = 0 := by
  rw [← and_assoc, ← label.line_breaks_text_eq_zero_iff]
  constructor
  · intro h
    have hbreaks := h.line_breaks
    rw [line_breaks_render] at hbreaks
    exact ⟨by omega, by omega⟩
  · rintro ⟨hlabel, hclass⟩
    refine ⟨label.text, moment.rfc3339, render_eq_join label moment className, ?_⟩
    rw [← List.forall_mem_map (P := (· = 0)), line_breaks_lines, hlabel, hclass,
      moment.line_breaks_rfc3339]
    simp

/-- The name of a generator may come with a line break from the command line, and the name of a
class from a manifest. Either of them breaks the form of a descriptor. -/
theorem not_three_lined :
    let arguments := ["--generator", "gpdgen\nimplementation-class = evil.Plugin\n#", "-o", "out",
      "unit.toml"]
    let declaration : Declaration := { name := "good.Plugin\nimplementation-class = evil.Plugin" }
    (∃ commandLine, CommandLine.parse arguments = .ok commandLine ∧
      ¬ ThreeLined "good.Plugin" (render commandLine.config.label ⟨0, 0, 0⟩ "good.Plugin")) ∧
    (∃ text, Manifest.parse text = .ok [declaration]) ∧
      ¬ ThreeLined declaration.name (render .standard ⟨0, 0, 0⟩ declaration.name) := by
  intro arguments declaration
  have htext := Manifest.manifest_text_write [declaration]
  refine ⟨⟨_, rfl, ?_⟩, ⟨_, Manifest.parse_of_manifest_text htext⟩, ?_⟩
  · intro h
    exact absurd h.line_breaks (by decide +kernel)
  · intro h
    exact absurd h.line_breaks (by decide +kernel)

end Descriptor

end PluginDescriptor
