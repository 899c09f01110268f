import Mathlib.Data.String.Basic
import PluginDescriptor.Moment
import PluginDescriptor.Proofs.Calendar
import PluginDescriptor.Proofs.Toml.Numbers

/-!
# Local times

A local time is a date and a time of day, found from the number of a millisecond, `ofMillisecond`.
It is written with as many digits as each of its parts can have, so the texts come in the order of
the times, `text_lt`. A moment is written as its millisecond is at its offset, `stamp`. The main
statements are `rfc3339_eq`, which says so, and `stamp_lt`, which says that at one offset
later milliseconds are written as later texts.
-/

namespace PluginDescriptor

open Toml.Scalar

namespace Moment

variable {width number other : Nat} {rest otherRest : List Char} {separator : Char}

/-! ## Digits -/

/-- Digits are as many as asked for. -/
theorem length_digits (width number : Nat) : (digits width number).length = width := by
  induction width generalizing number with
  | zero => rfl
  | succ width ih => rw [digits, List.length_append, ih, List.length_singleton]

/-- Digits are decimal digits. -/
theorem is_digit_of_mem_digits {c : Char} (h : c ∈ digits width number) : c.isDigit = true := by
  induction width generalizing number with
  | zero => cases h
  | succ width ih =>
      rw [digits, List.mem_append, List.mem_singleton] at h
      obtain hfront | rfl := h
      · exact ih hfront
      · rw [Nat.isDigit_digitChar]
        exact decide_eq_true (Nat.mod_lt _ (by omega))

/-- Digits spell a number that they suffice for. -/
theorem digits_value_digits (h : number < 10 ^ width) :
    digitsValue 10 (digits width number) = number := by
  induction width generalizing number with
  | zero =>
      obtain rfl : number = 0 := by omega
      rfl
  | succ width ih =>
      have hfront : digitsValue 10 (digits width (number / 10)) = number / 10 := ih (by omega)
      have hlast : digitValue (number % 10).digitChar = number % 10 :=
        Toml.digit_value_digit_char (by omega)
      unfold digitsValue at hfront ⊢
      rw [digits, List.foldl_append, hfront, List.foldl_cons, List.foldl_nil, hlast]
      omega

/-- A number that needs no more digits is padded. -/
theorem padded_digits_eq (h : number < 10 ^ width) :
    paddedDigits width number = digits width number :=
  if_pos h

/-- Of two digits the smaller comes first. -/
theorem digit_char_lt {digit other : Nat} (h : digit < other) (hother : other < 10) :
    digit.digitChar < other.digitChar := by
  show digit.digitChar.toNat < other.digitChar.toNat
  rw [Nat.toNat_digitChar_of_lt_ten (h.trans hother), Nat.toNat_digitChar_of_lt_ten hother]
  omega

/-- Of two numbers with as many digits the smaller comes first, whatever follows. -/
theorem digits_lt (h : number < other) (hother : other < 10 ^ width) :
    digits width number ++ rest < digits width other ++ otherRest := by
  induction width generalizing number other rest otherRest with
  | zero => omega
  | succ width ih =>
      simp only [digits, List.append_assoc, List.singleton_append]
      obtain hfront | ⟨hfront, hlast⟩ : number / 10 < other / 10 ∨
          number / 10 = other / 10 ∧ number % 10 < other % 10 := by omega
      · exact ih hfront (by omega)
      · rw [hfront]
        have hdigit := digit_char_lt hlast (Nat.mod_lt other (by omega))
        exact List.append_left_lt (List.cons_lt_cons_iff.mpr (Or.inl hdigit))

/-- Of two texts that begin with as many digits, their numbers decide which comes first, and what
follows the digits if the numbers are the same. -/
theorem digits_append_lt (h : number < other ∨ number = other ∧ rest < otherRest)
    (hother : other < 10 ^ width) :
    digits width number ++ rest < digits width other ++ otherRest := by
  obtain hlt | ⟨rfl, hrest⟩ := h
  · exact digits_lt hlt hother
  · exact List.append_left_lt hrest

/-- A separator behind the digits makes no difference. -/
theorem field_lt (h : number < other ∨ number = other ∧ rest < otherRest)
    (hother : other < 10 ^ width) :
    digits width number ++ separator :: rest < digits width other ++ separator :: otherRest :=
  digits_append_lt (h.imp_right (And.imp_right List.cons_lt_cons_self.mpr)) hother

end Moment

open Moment

namespace Date

variable {date other : Date} {rest otherRest : List Char}

/-- A date of the years 0 to 9999, as it is written. -/
def text (date : Date) : List Char :=
  digits 4 date.year.toNat ++ '-' :: (digits 2 date.month ++ '-' :: digits 2 date.day)

/-- A day of a month has at most two digits. -/
theorem Proper.day_lt (h : date.Proper) : date.day < 100 := by
  have hday := h.day_le
  have hleap := leap_day_le date.year
  unfold monthLength at hday
  split at hday <;> omega

/-- Of two dates the earlier comes first, whatever follows. -/
theorem text_lt (hyear : 0 ≤ date.year) (hlast : other.year < 10000) (hother : other.Proper)
    (h : date.Before other) : date.text ++ rest < other.text ++ otherRest := by
  have hmonth := hother.month_le
  have hday := hother.day_lt
  simp only [text, List.append_assoc, List.cons_append]
  obtain hbefore | ⟨hsame, h⟩ := h
  · exact field_lt (Or.inl (by omega)) (by omega)
  refine field_lt (Or.inr ⟨by rw [hsame], ?_⟩) (by omega)
  refine field_lt (h.imp_right (And.imp_right fun h => ?_)) (by omega)
  exact digits_append_lt (Or.inl h) (by omega)

end Date

/-- A date and a time of day, to the millisecond. -/
structure LocalTime where
  date : Date
  hour : Nat
  minute : Nat
  second : Nat
  millisecond : Nat

namespace LocalTime

/-- The milliseconds of a day. -/
def dayLength : Nat := 86400000

/-- The local time that is so many milliseconds after 1970-01-01T00:00. -/
def ofMillisecond (number : Int) : LocalTime :=
  let millisecondOfDay := (number % dayLength).toNat
  { date := Date.ofDayNumber (number / dayLength)
    hour := millisecondOfDay / 3600000
    minute := millisecondOfDay / 60000 % 60
    second := millisecondOfDay / 1000 % 60
    millisecond := millisecondOfDay % 1000 }

/-- The milliseconds from 1970-01-01T00:00 to a local time. -/
def toMillisecond (time : LocalTime) : Int :=
  dayLength * time.date.dayNumber +
    (((time.hour * 60 + time.minute) * 60 + time.second) * 1000 + time.millisecond)

/-- A local time of the years 0 to 9999. -/
structure Ordinary (time : LocalTime) : Prop where
  proper : time.date.Proper
  year_nonneg : 0 ≤ time.date.year
  year_lt : time.date.year < 10000
  hour_lt : time.hour < 24
  minute_lt : time.minute < 60
  second_lt : time.second < 60
  millisecond_lt : time.millisecond < 1000

/-- The time of day as it is written. -/
def clockText (time : LocalTime) : List Char :=
  digits 2 time.hour ++ ':' :: (digits 2 time.minute ++ ':' ::
    (digits 2 time.second ++ '.' :: digits 3 time.millisecond))

/-- A local time as it is written. -/
def text (time : LocalTime) : List Char :=
  time.date.text ++ 'T' :: time.clockText

/-- The order of local times: by date, hour, minute, second and millisecond. -/
def Before (time other : LocalTime) : Prop :=
  time.date.Before other.date ∨ time.date = other.date ∧
    (time.hour < other.hour ∨ time.hour = other.hour ∧
      (time.minute < other.minute ∨ time.minute = other.minute ∧
        (time.second < other.second ∨ time.second = other.second ∧
          time.millisecond < other.millisecond)))

variable {time other : LocalTime} {rest otherRest : List Char}

/-! ## The number of a millisecond -/

/-- A local time is as many milliseconds after 1970-01-01T00:00 as it is made from. -/
theorem to_millisecond_of_millisecond (number : Int) :
    (ofMillisecond number).toMillisecond = number := by
  simp only [toMillisecond, ofMillisecond, Date.day_number_of_day_number, dayLength]
  omega

/-- A millisecond between the beginnings of the years 0 and 10000 is in these years. -/
theorem ordinary_of_millisecond {number : Int} (hlow : Date.daysToYear 0 ≤ number / dayLength)
    (hhigh : number / dayLength < Date.daysToYear 10000) : (ofMillisecond number).Ordinary := by
  obtain ⟨hfirst, hlast⟩ := Date.year_of_day_number hlow hhigh
  refine ⟨Date.of_day_number_proper _, hfirst, hlast, ?_, ?_, ?_, ?_⟩
  all_goals
    simp only [ofMillisecond, dayLength]
    omega

/-- Of two milliseconds the earlier has the earlier local time. -/
theorem of_millisecond_before {number later : Int} (h : number < later) :
    (ofMillisecond number).Before (ofMillisecond later) := by
  obtain hday | ⟨hday, hrest⟩ : number / dayLength < later / dayLength ∨
      number / dayLength = later / dayLength ∧
        (number % dayLength).toNat < (later % dayLength).toNat := by
    unfold dayLength
    omega
  · exact Or.inl (Date.of_day_number_before hday)
  · refine Or.inr ⟨?_, ?_⟩
    · simp only [ofMillisecond, hday]
    · simp only [ofMillisecond]
      omega

/-- Of two local times the earlier comes first, whatever follows. -/
theorem text_lt (htime : time.Ordinary) (hother : other.Ordinary) (h : time.Before other) :
    time.text ++ rest < other.text ++ otherRest := by
  obtain ⟨hproper, _, hlast, hhour, hminute, hsecond, hmillisecond⟩ := hother
  simp only [text, clockText, List.append_assoc, List.cons_append]
  obtain hdate | ⟨hdate, h⟩ := h
  · exact Date.text_lt htime.year_nonneg hlast hproper hdate
  rw [hdate]
  refine List.append_left_lt (List.cons_lt_cons_self.mpr ?_)
  refine field_lt (h.imp_right (And.imp_right fun h => ?_)) (by omega)
  refine field_lt (h.imp_right (And.imp_right fun h => ?_)) (by omega)
  refine field_lt (h.imp_right (And.imp_right fun h => ?_)) (by omega)
  exact digits_append_lt (Or.inl h) (by omega)

end LocalTime

namespace Moment

variable {moment : Moment}

/-- The number of the millisecond that a moment falls in, counted from 1970-01-01T00:00:00 UTC. -/
def milliseconds (moment : Moment) : Int :=
  moment.seconds * 1000 + moment.nanoseconds / 1000000

/-- What is written for a millisecond where local time is so many seconds ahead of UTC: the local
time and the offset. -/
def stamp (offset number : Int) : String :=
  String.ofList ((LocalTime.ofMillisecond (number + offset * 1000)).text ++ offsetText offset)

/-- A moment outside of leap seconds and in the years 0 to 9999 of local time, which is ahead of UTC
or behind it by a whole number of minutes and less than a day. -/
structure Ordinary (moment : Moment) : Prop where
  nanoseconds_lt : moment.nanoseconds < 1000000000
  year_nonneg : Date.daysToYear 0 ≤ (moment.seconds + moment.offset) / secondsPerDay
  year_lt : (moment.seconds + moment.offset) / secondsPerDay < Date.daysToYear 10000
  offset_minutes : 60 ∣ moment.offset
  offset_lt : moment.offset.natAbs < secondsPerDay

/-- The milliseconds of local time are in the days that its seconds are in. -/
theorem local_day_eq (moment : Moment) (h : moment.nanoseconds < 1000000000) :
    (moment.milliseconds + moment.offset * 1000) / LocalTime.dayLength =
      (moment.seconds + moment.offset) / secondsPerDay := by
  unfold milliseconds LocalTime.dayLength secondsPerDay
  omega

/-- The local time of a moment is found from its second and its nanosecond. -/
theorem local_time_eq (moment : Moment) (h : moment.nanoseconds < 1000000000) :
    let localSeconds := moment.seconds + moment.offset
    let secondOfDay := (localSeconds % secondsPerDay).toNat
    LocalTime.ofMillisecond (moment.milliseconds + moment.offset * 1000) =
      ⟨Date.ofDayNumber (localSeconds / secondsPerDay), secondOfDay / 3600, secondOfDay / 60 % 60,
        secondOfDay % 60, moment.nanoseconds / 1000000⟩ := by
  intro localSeconds secondOfDay
  have hrest : ((moment.milliseconds + moment.offset * 1000) % LocalTime.dayLength).toNat =
      secondOfDay * 1000 + moment.nanoseconds / 1000000 := by
    unfold secondOfDay localSeconds milliseconds LocalTime.dayLength secondsPerDay
    omega
  simp only [LocalTime.ofMillisecond, moment.local_day_eq h, hrest, LocalTime.mk.injEq,
    localSeconds, true_and]
  omega

/-- The local time of an ordinary moment is ordinary. -/
theorem Ordinary.local_time (h : moment.Ordinary) :
    (LocalTime.ofMillisecond (moment.milliseconds + moment.offset * 1000)).Ordinary := by
  refine LocalTime.ordinary_of_millisecond ?_ ?_
  · rw [moment.local_day_eq h.nanoseconds_lt]
    exact h.year_nonneg
  · rw [moment.local_day_eq h.nanoseconds_lt]
    exact h.year_lt

/-- A year from 0 to 9999 is written with four digits. -/
theorem year_text_eq {year : Int} (hlow : 0 ≤ year) (hhigh : year < 10000) :
    yearText year = digits 4 year.toNat := by
  rw [yearText, if_neg (by omega), if_pos (by omega), padded_digits_eq (by omega),
    show year.natAbs = year.toNat by omega]

/-- A moment is written as its millisecond is at its place. -/
theorem rfc3339_eq (h : moment.Ordinary) :
    moment.rfc3339 = stamp moment.offset moment.milliseconds := by
  have hnanoseconds := h.nanoseconds_lt
  obtain ⟨hfirst, hlast⟩ := Date.year_of_day_number h.year_nonneg h.year_lt
  have hproper := Date.of_day_number_proper ((moment.seconds + moment.offset) / secondsPerDay)
  have hmonth := hproper.month_le
  have hday := hproper.day_lt
  have hsecondOfDay : ((moment.seconds + moment.offset) % secondsPerDay).toNat < 86400 := by
    unfold secondsPerDay
    omega
  have hsecond : moment.nanoseconds / 1000000000 = 0 := by omega
  have hmillisecond : moment.nanoseconds % 1000000000 = moment.nanoseconds := by omega
  rw [rfc3339, stamp, moment.local_time_eq hnanoseconds]
  unfold dateTimeText LocalTime.text LocalTime.clockText Date.text
  simp only [hsecond, hmillisecond, Nat.add_zero, year_text_eq hfirst hlast]
  simp (disch := omega) only [padded_digits_eq, List.append_assoc, List.cons_append]

/-- At one offset, later milliseconds are written as later texts. -/
theorem stamp_lt {offset number later : Int}
    (hnumber : (LocalTime.ofMillisecond (number + offset * 1000)).Ordinary)
    (hlater : (LocalTime.ofMillisecond (later + offset * 1000)).Ordinary) (h : number < later) :
    stamp offset number < stamp offset later := by
  rw [String.lt_iff_toList_lt, stamp, stamp, String.toList_ofList, String.toList_ofList]
  exact LocalTime.text_lt hnumber hlater (LocalTime.of_millisecond_before (by omega))

end Moment

end PluginDescriptor
