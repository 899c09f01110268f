import PluginDescriptor.Calendar

/-!
# Moments

A moment is an instant together with the offset of the local time from UTC. `Moment.rfc3339` writes
it as a local date-time with milliseconds, rounded down, and a numeric offset.
-/

namespace PluginDescriptor

/-- A reading of a clock. -/
structure Moment where
  /-- Seconds since 1970-01-01T00:00:00 UTC, leap seconds not counted. -/
  seconds : Int
  /-- Nanoseconds within the second; from one billion on, within a leap second that follows it. -/
  nanoseconds : Nat
  /-- Seconds that local time is ahead of UTC. -/
  offset : Int
deriving DecidableEq

namespace Moment

/-- The lowest `width` decimal digits of a number. -/
def digits : Nat → Nat → List Char
  | 0, _ => []
  | width + 1, number => digits width (number / 10) ++ [Nat.digitChar (number % 10)]

/-- The decimal digits of a number, with zeros in front up to `width`. -/
def paddedDigits (width number : Nat) : List Char :=
  if number < Nat.pow 10 width then digits width number else Nat.toDigits 10 number

/-- A year: four digits from 0 to 9999, and otherwise a sign and at least four digits. -/
def yearText (year : Int) : List Char :=
  let magnitude := paddedDigits 4 year.natAbs
  if year < 0 then '-' :: magnitude else if year ≤ 9999 then magnitude else '+' :: magnitude

/-- An offset in hours and minutes, rounded to the nearest minute, half a minute away from zero. -/
def offsetText (offset : Int) : List Char :=
  let minutes := (offset.natAbs + 30) / 60
  let sign := if offset < 0 then '-' else '+'
  sign :: paddedDigits 2 (minutes / 60) ++ ':' :: paddedDigits 2 (minutes % 60)

/-- The seconds a day has. -/
def secondsPerDay : Nat := 86400

/-- The date and the time of day, to the second, at a place `offset` seconds ahead of UTC. -/
def dateTimeText (moment : Moment) (offset : Int) : List Char :=
  let localSeconds := moment.seconds + offset
  let date := Date.ofDayNumber (localSeconds / secondsPerDay)
  let secondOfDay := (localSeconds % secondsPerDay).toNat
  let second := secondOfDay % 60 + moment.nanoseconds / 1000000000
  yearText date.year ++ '-' :: paddedDigits 2 date.month ++ '-' :: paddedDigits 2 date.day ++
    'T' :: paddedDigits 2 (secondOfDay / 3600) ++ ':' :: paddedDigits 2 (secondOfDay / 60 % 60) ++
    ':' :: paddedDigits 2 second

/-- The local date-time with milliseconds and offset. -/
def rfc3339 (moment : Moment) : String :=
  let millisecond := moment.nanoseconds % 1000000000 / 1000000
  String.ofList
    (moment.dateTimeText moment.offset ++ '.' :: paddedDigits 3 millisecond ++
      offsetText moment.offset)

/-- The date-time in UTC with microseconds, as it leads the lines of a log. -/
def logStamp (moment : Moment) : String :=
  let microsecond := moment.nanoseconds % 1000000000 / 1000
  String.ofList (moment.dateTimeText 0 ++ '.' :: paddedDigits 6 microsecond ++ ['Z'])

end Moment

/-- A source of moments, given by its successive readings. -/
structure Clock where
  reading : Nat → Moment

namespace Clock

/-- The next reading. -/
def now (clock : Clock) : Moment :=
  clock.reading 0

/-- The clock after one reading. -/
def later (clock : Clock) : Clock :=
  ⟨fun count => clock.reading (count + 1)⟩

/-- A clock that always reads the same. -/
def constant (moment : Moment) : Clock :=
  ⟨fun _ => moment⟩

end Clock

end PluginDescriptor
