import Mathlib.Data.Rat.Floor
import Mathlib.Tactic.Linarith
import PluginDescriptor.Proofs.DateTime
import PluginDescriptor.Proofs.DescriptorLines

/-!
# The time line of a descriptor

The second line of a descriptor tells when it was generated. The main statement,
`time_line_identifies_moment`, says that its date-time reads as the instant of the moment, rounded
down to the millisecond, and its offset. So at one offset the lines of two descriptors are the same
for the same millisecond only, and come in the order of their moments.
-/

namespace PluginDescriptor

open Text

namespace Text

/-- The lines of a text, and what follows the last line break. -/
def linesOf (text : String) : List String :=
  (text.toList.splitOnP isLineBreak).map String.ofList

/-- A line ends at the first line break. -/
theorem lines_of_append {line : String} (h : lineBreaks line = 0) (rest : String) :
    linesOf (line ++ "\n" ++ rest) = line :: linesOf rest := by
  have hunbroken : ∀ c ∈ line.toList, isLineBreak c = false := by
    intro c hc
    exact Bool.eq_false_iff.mpr (List.countP_eq_zero.mp h c hc)
  have hend : "\n".toList = ['\n'] := rfl
  rw [linesOf, String.toList_append, String.toList_append, hend, List.append_assoc,
    List.singleton_append, List.splitOnP_append_cons_of_forall_mem hunbroken '\n' rfl,
    List.map_cons, String.ofList_toList, linesOf]

end Text

namespace Moment

variable {moment : Moment}

/-- The instant of a moment, in seconds since 1970-01-01T00:00:00 UTC. -/
def instant (moment : Moment) : Rat :=
  moment.seconds + (moment.nanoseconds : Rat) / 1000000000

/-- The millisecond of a moment is the one that its instant falls in. -/
theorem floor_instant (moment : Moment) : ⌊moment.instant * 1000⌋ = moment.milliseconds := by
  have hsplit : moment.instant * 1000 =
      ((moment.seconds * 1000000000 + moment.nanoseconds : Int) : Rat) / (1000000 : Nat) := by
    unfold instant
    push_cast
    ring
  rw [hsplit, Rat.floor_intCast_div_natCast, milliseconds]
  omega

/-- A moment is read as its instant, rounded down to the millisecond, and its offset. -/
theorem read_rfc3339 (h : moment.Ordinary) :
    DateTime.read? moment.rfc3339 =
      some ⟨(⌊moment.instant * 1000⌋ : Rat) / 1000, .offset moment.offset⟩ := by
  rw [rfc3339_eq h, stamp, DateTime.read_text h.local_time h.offset_minutes h.offset_lt,
    LocalTime.to_millisecond_of_millisecond, floor_instant]
  push_cast
  congr 2
  ring

end Moment

namespace Descriptor

/-- The line that tells a millisecond at an offset. -/
def timeLine (offset number : Int) : String :=
  "# Generated on " ++ Moment.stamp offset number

/-- At one offset, later milliseconds have later lines. -/
theorem time_line_lt {offset number later : Int}
    (hnumber : (LocalTime.ofMillisecond (number + offset * 1000)).Ordinary)
    (hlater : (LocalTime.ofMillisecond (later + offset * 1000)).Ordinary) (h : number < later) :
    timeLine offset number < timeLine offset later := by
  have hstamp := Moment.stamp_lt hnumber hlater h
  rw [String.lt_iff_toList_lt] at hstamp ⊢
  rw [timeLine, timeLine, String.toList_append, String.toList_append]
  exact List.append_left_lt hstamp

/-- The second line of a descriptor tells its time. -/
theorem second_line_of_render {label : GeneratorLabel} {moment : Moment} (className : String)
    (hlabel : lineBreaks label.text = 0) :
    (linesOf (render label moment className))[1]? = some ("# Generated on " ++ moment.rfc3339) := by
  have hlines := line_breaks_lines label.text moment.rfc3339 className
  rw [hlabel, moment.line_breaks_rfc3339] at hlines
  simp only [lines, List.map_cons, List.map_nil, List.cons.injEq] at hlines
  obtain ⟨hgenerator, htime, _⟩ := hlines
  rw [render_eq_join, lines, List.map_cons, List.map_cons, String.join_cons, String.join_cons,
    lines_of_append hgenerator, lines_of_append htime]
  rfl

/-- The line says that a descriptor was generated on a date-time, and the date-time reads as the
instant of the moment, rounded down to the millisecond, and its offset, given by a sign. -/
def TellsTime (line : String) (moment : Moment) : Prop :=
  ∃ time, line = "# Generated on " ++ time ∧
    DateTime.read? time = some ⟨(⌊moment.instant * 1000⌋ : Rat) / 1000, .offset moment.offset⟩

/-- Whatever the class and the generator, as long as the latter is on one line, the second line of a
descriptor tells the time of its moment. Two moments with the same offset have the same line if and
only if they fall in the same millisecond, and otherwise the line of the earlier one comes first. -/
theorem time_line_identifies_moment {label otherLabel : GeneratorLabel} {moment other : Moment}
    (className otherName : String) (hlabel : lineBreaks label.text = 0)
    (hotherLabel : lineBreaks otherLabel.text = 0) (hmoment : moment.Ordinary)
    (hother : other.Ordinary) :
    ∃ line otherLine,
      (linesOf (render label moment className))[1]? = some line ∧ TellsTime line moment ∧
      (linesOf (render otherLabel other otherName))[1]? = some otherLine ∧
      TellsTime otherLine other ∧
      (moment.offset = other.offset →
        (line = otherLine ↔ ⌊moment.instant * 1000⌋ = ⌊other.instant * 1000⌋) ∧
        (line < otherLine ↔ ⌊moment.instant * 1000⌋ < ⌊other.instant * 1000⌋) ∧
        (moment.instant ≤ other.instant → line ≤ otherLine)) := by
  refine ⟨_, _, second_line_of_render className hlabel, ⟨_, rfl, Moment.read_rfc3339 hmoment⟩,
    second_line_of_render otherName hotherLabel, ⟨_, rfl, Moment.read_rfc3339 hother⟩, ?_⟩
  intro hoffset
  have hmono : StrictMonoOn (timeLine other.offset)
      {number | (LocalTime.ofMillisecond (number + other.offset * 1000)).Ordinary} :=
    fun _ hnumber _ hlater => time_line_lt hnumber hlater
  have hlocal := hmoment.local_time
  rw [hoffset] at hlocal
  rw [Moment.rfc3339_eq hmoment, Moment.rfc3339_eq hother, hoffset, moment.floor_instant,
    other.floor_instant]
  refine ⟨hmono.eq_iff_eq hlocal hother.local_time, hmono.lt_iff_lt hlocal hother.local_time, ?_⟩
  intro hinstant
  have hfloor : ⌊moment.instant * 1000⌋ ≤ ⌊other.instant * 1000⌋ :=
    Int.floor_mono (by linarith)
  rw [moment.floor_instant, other.floor_instant] at hfloor
  exact (hmono.le_iff_le hlocal hother.local_time).mpr hfloor

/-- The last millisecond of a leap day before 1970 comes before the first of March, three and a half
hours behind UTC. -/
theorem time_line_of_leap_day :
    let moment : Moment := ⟨-57961801, 999999999, -12600⟩
    let other : Moment := ⟨-57961800, 0, -12600⟩
    let label : GeneratorLabel := { name := "generator" }
    lineBreaks GeneratorLabel.standard.text = 0 ∧ lineBreaks label.text = 0 ∧
    moment.Ordinary ∧ other.Ordinary ∧ moment.offset = other.offset ∧
    ∃ line otherLine,
      (linesOf (render .standard moment "a.B"))[1]? = some line ∧ TellsTime line moment ∧
      (linesOf (render label other "c.D\n"))[1]? = some otherLine ∧ TellsTime otherLine other ∧
      line ≠ otherLine ∧ line < otherLine := by
  intro moment other label
  have hstandard : lineBreaks GeneratorLabel.standard.text = 0 := by decide +kernel
  have hlabel : lineBreaks label.text = 0 := by decide +kernel
  have hfirst : Date.daysToYear 0 = -719528 := by
    rw [Date.days_to_year_eq]
    rfl
  have hlast : Date.daysToYear 10000 = 2932897 := by
    rw [Date.days_to_year_eq]
    rfl
  have hmoment : moment.Ordinary :=
    ⟨by decide, by rw [hfirst]; decide, by rw [hlast]; decide, ⟨-210, rfl⟩, by decide⟩
  have hother : other.Ordinary :=
    ⟨by decide, by rw [hfirst]; decide, by rw [hlast]; decide, ⟨-210, rfl⟩, by decide⟩
  obtain ⟨line, otherLine, hline, htells, hotherLine, hotherTells, horder⟩ :=
    time_line_identifies_moment "a.B" "c.D\n" hstandard hlabel hmoment hother
  obtain ⟨hsame, hbefore, _⟩ := horder rfl
  rw [moment.floor_instant, other.floor_instant] at hsame hbefore
  refine ⟨hstandard, hlabel, hmoment, hother, rfl, line, otherLine, hline, htells, hotherLine,
    hotherTells, ?_, hbefore.mpr (by decide)⟩
  intro heq
  exact absurd (hsame.mp heq) (by decide)

end Descriptor

end PluginDescriptor
