/-!
# The calendar

Days of the proleptic Gregorian calendar, numbered from 1970-01-01. Years are reckoned from March,
so that the leap day is the last day of a year and month lengths follow one rule.
-/

namespace PluginDescriptor

/-- A day of the proleptic Gregorian calendar. Year 0 is the year before year 1. -/
structure Date where
  year : Int
  month : Nat
  day : Nat
deriving DecidableEq

namespace Date

/-- The days of four hundred years, after which the calendar repeats. -/
def daysPerCycle : Nat := 146097

/-- The day number of 0000-03-01, counted backwards from 1970-01-01. -/
def daysToEpoch : Nat := 719468

/-- The days from 1 March to the first day of the month that is `index` months later. -/
def daysBeforeMonth (index : Nat) : Nat :=
  (153 * index + 2) / 5

/-- The days from the start of a cycle to 1 March of its year `index`. -/
def daysBeforeYear (index : Nat) : Nat :=
  365 * index + index / 4 - index / 100

/-- The year of a cycle that a day of the cycle falls in. -/
def yearOfCycle (day : Nat) : Nat :=
  (day - day / 1460 + day / 36524 - day / 146096) / 365

/-- The date of a day number. -/
def ofDayNumber (number : Int) : Date :=
  let shifted := number + daysToEpoch
  let cycle := shifted / daysPerCycle
  let dayOfCycle := (shifted % daysPerCycle).toNat
  let yearIndex := yearOfCycle dayOfCycle
  let dayOfYear := dayOfCycle - daysBeforeYear yearIndex
  let monthIndex := (5 * dayOfYear + 2) / 153
  let marchYear := cycle * 400 + yearIndex
  { year := if monthIndex < 10 then marchYear else marchYear + 1
    month := if monthIndex < 10 then monthIndex + 3 else monthIndex - 9
    day := dayOfYear - daysBeforeMonth monthIndex + 1 }

end Date

end PluginDescriptor
