import Mathlib.Data.Int.Order.Basic
import Mathlib.Order.Monotone.Basic
import Mathlib.Tactic.IntervalCases
import PluginDescriptor.Calendar

/-!
# The days of the calendar

The proleptic Gregorian calendar by its rules: which years are leap years, how long the months are,
and how many days lie between 1970-01-01 and the date, counted year by year and month by month. The
main statements are `of_day_number_proper` and `day_number_of_day_number`: the date of a day number
is one that the calendar has, and it is that many days away from 1970-01-01. `day_number_lt` says
that the days are counted in the order of the dates.
-/

namespace PluginDescriptor.Date

/-! ## The rules -/

/-- One year in four is a leap year, but of the years that end a century only one in four. -/
def IsLeap (year : Int) : Prop :=
  4 ∣ year ∧ (100 ∣ year → 400 ∣ year)

/-- A leap year is found out by division. -/
instance (year : Int) : Decidable (IsLeap year) :=
  inferInstanceAs (Decidable (_ ∧ (_ → _)))

/-- The days that a year has beyond 365. -/
def leapDay (year : Int) : Nat :=
  if IsLeap year then 1 else 0

/-- The days of a month. -/
def monthLength (year : Int) (month : Nat) : Nat :=
  match month with
  | 2 => 28 + leapDay year
  | 4 | 6 | 9 | 11 => 30
  | _ => 31

/-- The days from the first day of a year to the first day of a month in it. -/
def daysToMonth (year : Int) (month : Nat) : Nat :=
  ((List.range (month - 1)).map fun passed => monthLength year (passed + 1)).sum

/-- The days of a year. -/
def yearLength (year : Int) : Nat :=
  daysToMonth year 13

/-- The days of some years, one after the other. -/
def yearsLength (first : Int) (count : Nat) : Nat :=
  ((List.range count).map fun (passed : Nat) => yearLength (first + passed)).sum

/-- The days from 1970-01-01 to the first day of a year, negative for a year before 1970. -/
def daysToYear (year : Int) : Int :=
  yearsLength 1970 (year - 1970).toNat - yearsLength year (1970 - year).toNat

/-- The days from 1970-01-01 to a date. -/
def dayNumber (date : Date) : Int :=
  daysToYear date.year + daysToMonth date.year date.month + (date.day - 1)

/-- A date that the calendar has. -/
structure Proper (date : Date) : Prop where
  month_pos : 1 ≤ date.month
  month_le : date.month ≤ 12
  day_pos : 1 ≤ date.day
  day_le : date.day ≤ monthLength date.year date.month

/-- The order of dates: by year, month and day. -/
def Before (date other : Date) : Prop :=
  date.year < other.year ∨ date.year = other.year ∧
    (date.month < other.month ∨ date.month = other.month ∧ date.day < other.day)

/-- A date is looked up in the calendar. -/
instance (date : Date) : Decidable date.Proper :=
  decidable_of_iff (1 ≤ date.month ∧ date.month ≤ 12 ∧ 1 ≤ date.day ∧
      date.day ≤ monthLength date.year date.month)
    ⟨fun ⟨hfirst, hlast, hlow, hhigh⟩ => ⟨hfirst, hlast, hlow, hhigh⟩,
      fun h => ⟨h.month_pos, h.month_le, h.day_pos, h.day_le⟩⟩

variable {date other : Date} {year : Int} {month day number : Nat}

/-! ## Counting -/

/-- A year of twelve months has 365 days, or one more. -/
theorem year_length_eq (year : Int) : yearLength year = 365 + leapDay year := by
  simp [yearLength, daysToMonth, List.range_succ, monthLength]
  omega

/-- The next month begins when the days of the month are over. -/
theorem days_to_next_month (h : 1 ≤ month) (year : Int) :
    daysToMonth year (month + 1) = daysToMonth year month + monthLength year month := by
  obtain ⟨index, rfl⟩ : ∃ index, month = index + 1 := ⟨month - 1, by omega⟩
  simp [daysToMonth, List.range_succ]

/-- One more year adds its days at the end. -/
theorem years_length_succ (first : Int) (count : Nat) :
    yearsLength first (count + 1) = yearsLength first count + yearLength (first + count) := by
  simp [yearsLength, List.range_succ]

/-- One more year adds its days at the beginning. -/
theorem years_length_front (first : Int) (count : Nat) :
    yearsLength first (count + 1) = yearLength first + yearsLength (first + 1) count := by
  induction count with
  | zero => simp [yearsLength]
  | succ count ih =>
      have hlast : first + (count + 1 : Nat) = first + 1 + count := by omega
      rw [years_length_succ, ih, years_length_succ, hlast, Nat.add_assoc]

/-- The next year begins when the days of the year are over. -/
theorem days_to_next_year (year : Int) :
    daysToYear (year + 1) = daysToYear year + yearLength year := by
  unfold daysToYear
  by_cases h : 1970 ≤ year
  · have hpassed : (year + 1 - 1970).toNat = (year - 1970).toNat + 1 := by omega
    have hcoming : (1970 - (year + 1)).toNat = 0 ∧ (1970 - year).toNat = 0 := by omega
    have hlast : 1970 + ((year - 1970).toNat : Int) = year := by omega
    rw [hpassed, hcoming.1, hcoming.2, years_length_succ, hlast]
    show _ - (0 : Int) = _ - (0 : Int) + _
    omega
  · have hpassed : (year + 1 - 1970).toNat = 0 ∧ (year - 1970).toNat = 0 := by omega
    have hcoming : (1970 - year).toNat = (1970 - (year + 1)).toNat + 1 := by omega
    rw [hpassed.1, hpassed.2, hcoming, years_length_front]
    show (0 : Int) - _ = 0 - _ + _
    omega

/-- A year has one leap day at most. -/
theorem leap_day_le (year : Int) : leapDay year ≤ 1 := by
  unfold leapDay
  split <;> omega

/-- How many leap days there have been changes in a leap year only. -/
theorem leap_day_eq (year : Int) :
    (leapDay year : Int) =
      (year / 4 - (year - 1) / 4) - (year / 100 - (year - 1) / 100) +
        (year / 400 - (year - 1) / 400) := by
  by_cases h : IsLeap year
  · rw [leapDay, if_pos h]
    unfold IsLeap at h
    omega
  · rw [leapDay, if_neg h]
    unfold IsLeap at h
    omega

/-- Years of 365 days and the leap days before a year make up the days to its first one. -/
theorem days_to_year_eq (year : Int) :
    daysToYear year = 365 * (year - 1970) +
      ((year - 1) / 4 - (year - 1) / 100 + (year - 1) / 400 - 477) := by
  induction year using Int.inductionOn' (b := 1970) with
  | zero => rfl
  | succ year _ ih =>
      rw [days_to_next_year, ih, year_length_eq]
      have hleap := leap_day_eq year
      omega
  | pred year _ ih =>
      have hnext := days_to_next_year (year - 1)
      rw [Int.sub_add_cancel, ih, year_length_eq] at hnext
      have hleap := leap_day_eq (year - 1)
      omega

/-! ## Years from March -/

/-- The days from 1970-01-01 to 1 March of a year. -/
def daysToMarch (year : Int) : Int :=
  365 * year + (year / 4 - year / 100 + year / 400) - daysToEpoch

/-- The date that is some days after 1 March of a year. -/
def ofMarchDay (year : Int) (dayOfYear : Nat) : Date :=
  let monthIndex := (5 * dayOfYear + 2) / 153
  { year := if monthIndex < 10 then year else year + 1
    month := if monthIndex < 10 then monthIndex + 3 else monthIndex - 9
    day := dayOfYear - daysBeforeMonth monthIndex + 1 }

/-- The days of a month that is so many months after March. -/
theorem month_length_of_march {index : Nat} (h : index < 10) (year : Int) :
    daysBeforeMonth (index + 1) = daysBeforeMonth index + monthLength year (index + 3) := by
  interval_cases index <;> rfl

/-- January and February are over when March begins. -/
theorem days_to_month_of_march {index : Nat} (h : index < 10) (year : Int) :
    daysToMonth year (index + 3) = 59 + leapDay year + daysBeforeMonth index := by
  induction index with
  | zero =>
      simp [daysToMonth, List.range_succ, monthLength, daysBeforeMonth]
      omega
  | succ index ih =>
      have hnext : daysToMonth year (index + 3 + 1) =
          daysToMonth year (index + 3) + monthLength year (index + 3) :=
        days_to_next_month (by omega) year
      rw [Nat.add_right_comm, hnext, ih (by omega), month_length_of_march (by omega) year,
        Nat.add_assoc]

/-- The months from March to December have their usual place in the year. -/
theorem march_to_december {index : Nat} (h : index < 10) (year : Int) :
    daysToYear year + daysToMonth year (index + 3) = daysToMarch year + daysBeforeMonth index := by
  have hleap := leap_day_eq year
  rw [days_to_year_eq, days_to_month_of_march h, daysToMarch, daysToEpoch]
  omega

/-- January and February end the year that began in March. -/
theorem january_to_february {index : Nat} (hlow : 10 ≤ index) (hhigh : index < 12) (year : Int) :
    daysToYear (year + 1) + daysToMonth (year + 1) (index - 9) =
      daysToMarch year + daysBeforeMonth index := by
  have hmonth : daysToMonth (year + 1) (index - 9) + 306 = daysBeforeMonth index := by
    interval_cases index <;> simp [daysToMonth, monthLength, daysBeforeMonth]
  rw [days_to_year_eq, ← hmonth, daysToMarch, daysToEpoch]
  omega

/-- A day of a month is a date of the calendar, and is counted from the first day of the month. -/
theorem date_of_month {start : Int} {before dayOfYear : Nat} (hlow : 1 ≤ month) (hhigh : month ≤ 12)
    (hcount : daysToYear year + daysToMonth year month = start + before)
    (hstart : before ≤ dayOfYear) (hend : dayOfYear < before + monthLength year month) :
    (Date.mk year month (dayOfYear - before + 1)).Proper ∧
      (Date.mk year month (dayOfYear - before + 1)).dayNumber = start + dayOfYear := by
  refine ⟨⟨hlow, hhigh, Nat.le_add_left .., ?_⟩, ?_⟩
  · show dayOfYear - before + 1 ≤ monthLength year month
    omega
  · show daysToYear year + daysToMonth year month + ((dayOfYear - before + 1 : Nat) - 1) = _
    omega

/-- A day of a year from March on is a date of the calendar, and is counted as such. -/
theorem of_march_day_spec {dayOfYear : Nat} (h : dayOfYear < 365 + leapDay (year + 1)) :
    (ofMarchDay year dayOfYear).Proper ∧
      (ofMarchDay year dayOfYear).dayNumber = daysToMarch year + dayOfYear := by
  have hleap := leap_day_le (year + 1)
  obtain ⟨index, hindex⟩ : ∃ index, index = (5 * dayOfYear + 2) / 153 := ⟨_, rfl⟩
  have hstart : daysBeforeMonth index ≤ dayOfYear := by
    unfold daysBeforeMonth
    omega
  have hend : dayOfYear < daysBeforeMonth (index + 1) := by
    unfold daysBeforeMonth
    omega
  by_cases hmonth : index < 10
  · have hdate : ofMarchDay year dayOfYear =
        ⟨year, index + 3, dayOfYear - daysBeforeMonth index + 1⟩ := by
      simp only [ofMarchDay, ← hindex, if_pos hmonth]
    rw [month_length_of_march hmonth year] at hend
    rw [hdate]
    exact date_of_month (by omega) (by omega) (march_to_december hmonth year) hstart hend
  · have hdate : ofMarchDay year dayOfYear =
        ⟨year + 1, index - 9, dayOfYear - daysBeforeMonth index + 1⟩ := by
      simp only [ofMarchDay, ← hindex, if_neg hmonth]
    have hcount : daysToYear (year + 1) + daysToMonth (year + 1) (index - 9) =
        daysToMarch year + daysBeforeMonth index :=
      january_to_february (by omega) (by omega) year
    -- February has the days that are left of the year.
    have hlength : dayOfYear < daysBeforeMonth index + monthLength (year + 1) (index - 9) := by
      obtain rfl | rfl : index = 10 ∨ index = 11 := by omega
      · exact hend
      · show dayOfYear < 337 + (28 + leapDay (year + 1))
        omega
    rw [hdate]
    exact date_of_month (by omega) (by omega) hcount hstart hlength

/-! ## Days of a cycle -/

/-- A day of a cycle lies in a century, in four years of the century and in one of these. Only the
last of four years has a leap day at its end, and the last four of a century have none unless they
are the last of the cycle. -/
structure Splits (day century olympiad single dayOfYear : Nat) : Prop where
  century_le : century ≤ 3
  olympiad_le : olympiad ≤ 24
  single_le : single ≤ 3
  day_eq : day = 36524 * century + 1461 * olympiad + 365 * single + dayOfYear
  day_of_year_le : dayOfYear ≤ 364 ∨
    dayOfYear = 365 ∧ single = 3 ∧ (olympiad ≤ 23 ∨ century = 3)

variable {century olympiad single dayOfYear : Nat}

/-- Every day of a cycle lies somewhere in it. -/
theorem exists_splits (h : day < daysPerCycle) :
    ∃ century olympiad single dayOfYear, Splits day century olympiad single dayOfYear := by
  unfold daysPerCycle at h
  obtain ⟨century, hcentury⟩ : ∃ century, century = min (day / 36524) 3 := ⟨_, rfl⟩
  obtain ⟨dayOfCentury, hday⟩ : ∃ dayOfCentury, day = 36524 * century + dayOfCentury :=
    ⟨day - 36524 * century, by omega⟩
  have hlast : dayOfCentury ≤ 36523 ∨ dayOfCentury = 36524 ∧ century = 3 := by omega
  obtain ⟨dayOfFour, hfour⟩ : ∃ dayOfFour, dayOfFour = dayOfCentury % 1461 := ⟨_, rfl⟩
  refine ⟨century, dayOfCentury / 1461, min (dayOfFour / 365) 3,
    dayOfFour - 365 * min (dayOfFour / 365) 3, ?_, ?_, ?_, ?_, ?_⟩
  all_goals omega

/-- The year of a cycle is found from the day. -/
theorem Splits.year_of_cycle (h : Splits day century olympiad single dayOfYear) :
    yearOfCycle day = 100 * century + 4 * olympiad + single := by
  obtain ⟨hcentury, holympiad, hsingle, hday, hlength⟩ := h
  unfold yearOfCycle
  obtain hlast | hlast : day = 146096 ∨ day < 146096 := by omega
  · omega
  · have hcenturies : day / 36524 = century := by omega
    have hcycles : day / 146096 = 0 := by omega
    have holympiads : day / 1460 = 25 * century + olympiad ∧ dayOfYear ≤ 364 ∨
        day / 1460 = 25 * century + olympiad + 1 ∧ 1 ≤ dayOfYear := by
      omega
    rw [hcenturies, hcycles]
    omega

/-- The day of the year is what the years before leave. -/
theorem Splits.day_of_year (h : Splits day century olympiad single dayOfYear) :
    day - daysBeforeYear (yearOfCycle day) = dayOfYear := by
  have hyear := h.year_of_cycle
  obtain ⟨hcentury, holympiad, hsingle, hday, _⟩ := h
  rw [hyear, daysBeforeYear]
  omega

/-- A year has a day for each day that lies in it. -/
theorem Splits.day_of_year_lt (h : Splits day century olympiad single dayOfYear) (cycle : Int) :
    dayOfYear < 365 + leapDay (cycle * 400 + yearOfCycle day + 1) := by
  have hyear := h.year_of_cycle
  obtain ⟨hcentury, holympiad, hsingle, _, hlength⟩ := h
  obtain hshort | ⟨hlast, hleap⟩ := hlength
  · omega
  · have hend : IsLeap (cycle * 400 + yearOfCycle day + 1) := by
      unfold IsLeap
      omega
    rw [leapDay, if_pos hend]
    omega

/-- The days to 1 March of a year and the day of the year are the days of the cycles before and the
day of the cycle. -/
theorem Splits.days_to_march (h : Splits day century olympiad single dayOfYear) (cycle : Int) :
    daysToMarch (cycle * 400 + yearOfCycle day) + dayOfYear =
      daysPerCycle * cycle + day - daysToEpoch := by
  have hnumber := h.year_of_cycle
  obtain ⟨hcentury, holympiad, hsingle, hday, _⟩ := h
  obtain ⟨year, hyear⟩ : ∃ year : Int, year = cycle * 400 + yearOfCycle day := ⟨_, rfl⟩
  have hfour : year / 4 = 100 * cycle + (25 * century + olympiad) := by omega
  have hhundred : year / 100 = 4 * cycle + century := by omega
  have hcycle : year / 400 = cycle := by omega
  rw [← hyear, daysToMarch, hfour, hhundred, hcycle, hyear, daysPerCycle]
  omega

/-- Every day number is that of a day of a year from March on. -/
theorem of_day_number_eq (number : Int) :
    ∃ (year : Int) (dayOfYear : Nat), dayOfYear < 365 + leapDay (year + 1) ∧
      daysToMarch year + dayOfYear = number ∧ ofDayNumber number = ofMarchDay year dayOfYear := by
  obtain ⟨cycle, hcycle⟩ : ∃ cycle, cycle = (number + daysToEpoch) / daysPerCycle := ⟨_, rfl⟩
  obtain ⟨day, hday⟩ : ∃ day, day = ((number + daysToEpoch) % daysPerCycle).toNat := ⟨_, rfl⟩
  have hnumber : daysPerCycle * cycle + day - daysToEpoch = number := by
    unfold daysPerCycle at *
    omega
  have hbelow : day < daysPerCycle := by
    unfold daysPerCycle at *
    omega
  obtain ⟨century, olympiad, single, dayOfYear, hsplits⟩ := exists_splits hbelow
  refine ⟨cycle * 400 + yearOfCycle day, dayOfYear, hsplits.day_of_year_lt cycle, ?_, ?_⟩
  · rw [hsplits.days_to_march, hnumber]
  · simp only [ofDayNumber, ofMarchDay, ← hcycle, ← hday, hsplits.day_of_year]

/-! ## Dates and day numbers -/

/-- The date of a day number is one that the calendar has. -/
theorem of_day_number_proper (number : Int) : (ofDayNumber number).Proper := by
  obtain ⟨year, dayOfYear, hday, _, hdate⟩ := of_day_number_eq number
  rw [hdate]
  exact (of_march_day_spec hday).1

/-- The date of a day number is so many days after 1970-01-01. -/
theorem day_number_of_day_number (number : Int) : (ofDayNumber number).dayNumber = number := by
  obtain ⟨year, dayOfYear, hday, hnumber, hdate⟩ := of_day_number_eq number
  rw [hdate, (of_march_day_spec hday).2, hnumber]

/-! ## The order of dates -/

/-- Later months of a year begin later. -/
theorem days_to_month_le {later : Nat} (h : month ≤ later) (year : Int) :
    daysToMonth year month ≤ daysToMonth year later := by
  have hmono : Monotone (daysToMonth year) := by
    refine monotone_nat_of_le_succ fun month => ?_
    obtain rfl | hmonth : month = 0 ∨ 1 ≤ month := by omega
    · exact Nat.zero_le _
    · rw [days_to_next_month hmonth]
      exact Nat.le_add_right ..
  exact hmono h

/-- Later years begin later. -/
theorem days_to_year_le {later : Int} (h : year ≤ later) : daysToYear year ≤ daysToYear later := by
  have hmono : Monotone daysToYear := by
    refine monotone_int_of_le_succ fun year => ?_
    rw [days_to_next_year]
    omega
  exact hmono h

/-- A date lies in its month. -/
theorem Proper.month_bounds (h : date.Proper) :
    daysToYear date.year + daysToMonth date.year date.month ≤ date.dayNumber ∧
      date.dayNumber < daysToYear date.year + daysToMonth date.year (date.month + 1) := by
  have hlow := h.day_pos
  have hhigh := h.day_le
  rw [days_to_next_month h.month_pos, dayNumber]
  omega

/-- A date lies in its year. -/
theorem Proper.year_bounds (h : date.Proper) :
    daysToYear date.year ≤ date.dayNumber ∧ date.dayNumber < daysToYear (date.year + 1) := by
  obtain ⟨hlow, hhigh⟩ := h.month_bounds
  have hlast : daysToMonth date.year (date.month + 1) ≤ yearLength date.year :=
    days_to_month_le (Nat.succ_le_succ h.month_le) date.year
  rw [days_to_next_year]
  omega

/-- Of two dates the earlier has the lower day number. -/
theorem day_number_lt (hdate : date.Proper) (hother : other.Proper) (h : date.Before other) :
    date.dayNumber < other.dayNumber := by
  obtain hyear | ⟨hyear, hmonth | ⟨hmonth, hday⟩⟩ := h
  · have hnext : daysToYear (date.year + 1) ≤ daysToYear other.year := days_to_year_le hyear
    exact hdate.year_bounds.2.trans_le (hnext.trans hother.year_bounds.1)
  · have hnext : daysToMonth other.year (date.month + 1) ≤ daysToMonth other.year other.month :=
      days_to_month_le hmonth other.year
    have hend := hdate.month_bounds.2
    have hstart := hother.month_bounds.1
    rw [hyear] at hend
    omega
  · rw [dayNumber, dayNumber, hyear, hmonth]
    omega

/-- Two dates are the same, or one is before the other. -/
theorem before_or_eq_or_after (date other : Date) :
    date.Before other ∨ date = other ∨ other.Before date := by
  obtain ⟨year, month, day⟩ := date
  obtain ⟨otherYear, otherMonth, otherDay⟩ := other
  simp only [Before, Date.mk.injEq]
  omega

/-- Of two days the earlier has the earlier date. -/
theorem of_day_number_before {number later : Int} (h : number < later) :
    (ofDayNumber number).Before (ofDayNumber later) := by
  obtain hbefore | heq | hafter := before_or_eq_or_after (ofDayNumber number) (ofDayNumber later)
  · exact hbefore
  · have hsame := congrArg dayNumber heq
    rw [day_number_of_day_number, day_number_of_day_number] at hsame
    omega
  · have hlater := day_number_lt (of_day_number_proper later) (of_day_number_proper number) hafter
    rw [day_number_of_day_number, day_number_of_day_number] at hlater
    omega

/-- A day that lies between the beginnings of two years has a date of these years. -/
theorem year_of_day_number {number first last : Int} (hlow : daysToYear first ≤ number)
    (hhigh : number < daysToYear last) :
    first ≤ (ofDayNumber number).year ∧ (ofDayNumber number).year < last := by
  obtain ⟨hstart, hend⟩ := (of_day_number_proper number).year_bounds
  rw [day_number_of_day_number] at hstart hend
  constructor
  · by_contra hearlier
    have hnext : daysToYear ((ofDayNumber number).year + 1) ≤ daysToYear first :=
      days_to_year_le (by omega)
    omega
  · by_contra hlater
    have hfirst : daysToYear last ≤ daysToYear (ofDayNumber number).year :=
      days_to_year_le (by omega)
    omega

end PluginDescriptor.Date
