import Mathlib.Algebra.Field.Rat
import Mathlib.Tactic.Ring
import PluginDescriptor.Proofs.LocalTime
import PluginDescriptor.Toml.Scalar

/-!
# Reading date-times

A date-time of RFC 3339 names an instant and says how far local time is from UTC. `DateTime.read?`
reads one by the calendar: the parts have to be in their ranges and the calendar has to have the
date. The main statement, `read_text`, says that a local time with an offset behind it is read as
the instant that it stands for.
-/

namespace PluginDescriptor

open Moment Toml.Scalar

/-- What a date-time says about local time. -/
inductive Zone where
  /-- The time is in UTC, which is written `Z`. -/
  | utc
  /-- How far local time is from UTC is not known, which is written `-00:00`. -/
  | unknown
  /-- Local time is so many seconds ahead of UTC, written with a sign. -/
  | offset (seconds : Int)
deriving DecidableEq

/-- The seconds that local time is ahead of UTC. -/
def Zone.seconds : Zone → Int
  | .utc | .unknown => 0
  | .offset seconds => seconds

/-- What a date-time says. -/
structure DateTime where
  /-- Seconds since 1970-01-01T00:00:00 UTC, leap seconds not counted. -/
  instant : Rat
  zone : Zone
deriving DecidableEq

namespace DateTime

/-- The date at the start of a text, which has to be in the calendar, and the text after it. -/
def takeDate? (text : List Char) : Option (Date × List Char) := do
  let (year, text) ← takeDigits? 4 text
  let text ← expect? '-' text
  let (month, text) ← takeDigits? 2 text
  let text ← expect? '-' text
  let (day, text) ← takeDigits? 2 text
  let date : Date := ⟨year, month, day⟩
  if date.Proper then some (date, text) else none

/-- The fraction of a second at the start of a text, if there is one, and the text after it. -/
def takeFraction? : List Char → Option (Rat × List Char)
  | '.' :: text =>
    let digits := text.takeWhile Char.isDigit
    if digits.isEmpty then none
    else some ((digitsValue 10 digits : Rat) / 10 ^ digits.length, text.dropWhile Char.isDigit)
  | text => some (0, text)

/-- The time of day at the start of a text, in seconds, and the text after it. A leap second is not
read. -/
def takeTime? (text : List Char) : Option (Rat × List Char) := do
  let (hour, text) ← takeDigits? 2 text
  let text ← expect? ':' text
  let (minute, text) ← takeDigits? 2 text
  let text ← expect? ':' text
  let (second, text) ← takeDigits? 2 text
  let (fraction, text) ← takeFraction? text
  if hour < 24 ∧ minute < 60 ∧ second < 60 then
    some (((hour * 60 + minute) * 60 + second : Nat) + fraction, text)
  else none

/-- The seconds of an offset that a text is, but for its sign. -/
def readOffset? (text : List Char) : Option Nat := do
  let (hours, text) ← takeDigits? 2 text
  let text ← expect? ':' text
  let (minutes, text) ← takeDigits? 2 text
  if text = [] ∧ hours < 24 ∧ minutes < 60 then some ((hours * 60 + minutes) * 60) else none

/-- What a text says about local time. -/
def readZone? : List Char → Option Zone
  | ['Z'] => some .utc
  | '+' :: text => (readOffset? text).map fun (seconds : Nat) => .offset seconds
  | '-' :: text =>
    (readOffset? text).map fun (seconds : Nat) =>
      if seconds = 0 then .unknown else .offset (-seconds)
  | _ => none

/-- What a text says if it is a date-time of RFC 3339: a date, `T`, a time of day and an offset. -/
def read? (text : String) : Option DateTime := do
  let (date, text) ← takeDate? text.toList
  let text ← expect? 'T' text
  let (secondOfDay, text) ← takeTime? text
  let zone ← readZone? text
  return ⟨86400 * date.dayNumber + secondOfDay - zone.seconds, zone⟩

variable {offset : Int} {width number : Nat} {sign : Char} {date : Date} {time : LocalTime}

/-! ## The parts -/

/-- Digits are read as the number that they were written for. -/
theorem take_digits_digits (h : number < 10 ^ width) (rest : List Char) :
    takeDigits? width (digits width number ++ rest) = some (number, rest) := by
  have hlength := length_digits width number
  have hdigits : (digits width number).all Char.isDigit = true :=
    List.all_eq_true.mpr fun _ => is_digit_of_mem_digits
  simp only [takeDigits?, List.take_left' hlength, List.drop_left' hlength, hlength, hdigits,
    digits_value_digits h]
  rfl

/-- A date is read as itself. -/
theorem take_date_text (h : date.Proper) (hlow : 0 ≤ date.year) (hhigh : date.year < 10000)
    (rest : List Char) : takeDate? (date.text ++ rest) = some (date, rest) := by
  have hmonth := h.month_le
  have hday := h.day_lt
  have hdate : (⟨date.year.toNat, date.month, date.day⟩ : Date) = date := by
    rw [Int.toNat_of_nonneg hlow]
  simp (disch := omega) only [takeDate?, Date.text, List.append_assoc, List.cons_append,
    take_digits_digits, expect?, if_true, Option.bind_eq_bind, Option.bind_some, hdate, h]

/-- A fraction of a second is read to its last digit. -/
theorem take_fraction_digits (h : number < 10 ^ width) (hwidth : 0 < width)
    (hsign : sign.isDigit = false) (rest : List Char) :
    takeFraction? ('.' :: (digits width number ++ sign :: rest)) =
      some ((number : Rat) / 10 ^ width, sign :: rest) := by
  have hdigits : ∀ c ∈ digits width number, c.isDigit = true := fun _ => is_digit_of_mem_digits
  have htake : (digits width number ++ sign :: rest).takeWhile Char.isDigit =
      digits width number := by
    rw [List.takeWhile_append_of_pos hdigits, List.takeWhile_cons, hsign]
    exact List.append_nil _
  have hdrop : (digits width number ++ sign :: rest).dropWhile Char.isDigit = sign :: rest := by
    rw [List.dropWhile_append_of_pos hdigits, List.dropWhile_cons, hsign]
    rfl
  have hsome : (digits width number).isEmpty = false := by
    rw [List.isEmpty_eq_false_iff, ← List.length_pos_iff, length_digits]
    exact hwidth
  simp only [takeFraction?, htake, hdrop, hsome, length_digits, digits_value_digits h]
  rfl

/-- A time of day is read to the millisecond. -/
theorem take_clock_text (h : time.Ordinary) (hsign : sign.isDigit = false) (rest : List Char) :
    takeTime? (time.clockText ++ sign :: rest) =
      some ((((time.hour * 60 + time.minute) * 60 + time.second : Nat) : Rat) +
        (time.millisecond : Rat) / 10 ^ 3, sign :: rest) := by
  obtain ⟨_, _, _, hhour, hminute, hsecond, hmillisecond⟩ := h
  simp (disch := omega) only [takeTime?, LocalTime.clockText, List.append_assoc, List.cons_append,
    take_digits_digits, expect?, if_true, Option.bind_eq_bind, Option.bind_some,
    take_fraction_digits _ _ hsign, hhour, hminute, hsecond, and_self]

/-! ## The offset -/

/-- The sign of an offset. -/
def offsetSign (offset : Int) : Char :=
  if offset < 0 then '-' else '+'

/-- An offset of whole minutes is written with its sign, hours and minutes. -/
theorem offset_text_eq (hminutes : 60 ∣ offset)
    (hday : offset.natAbs < secondsPerDay) :
    offsetText offset = offsetSign offset ::
      (digits 2 (offset.natAbs / 3600) ++ ':' :: digits 2 (offset.natAbs / 60 % 60)) := by
  unfold secondsPerDay at hday
  have hround : (offset.natAbs + 30) / 60 = offset.natAbs / 60 := by omega
  simp (disch := omega) only [offsetText, offsetSign, hround, padded_digits_eq,
    Nat.div_div_eq_div_mul, List.cons_append]

/-- Hours and minutes are read as the seconds that they were written for. -/
theorem read_offset_digits {seconds : Nat} (hminutes : 60 ∣ seconds)
    (hday : seconds < secondsPerDay) :
    readOffset? (digits 2 (seconds / 3600) ++ ':' :: digits 2 (seconds / 60 % 60)) =
      some seconds := by
  unfold secondsPerDay at hday
  have hhours : seconds / 3600 < 24 := by omega
  have hrest : seconds / 60 % 60 < 60 := by omega
  have hseconds : (seconds / 3600 * 60 + seconds / 60 % 60) * 60 = seconds := by omega
  have hlast : takeDigits? 2 (digits 2 (seconds / 60 % 60)) = some (seconds / 60 % 60, []) := by
    have hdigits := take_digits_digits (show seconds / 60 % 60 < 10 ^ 2 by omega) []
    rwa [List.append_nil] at hdigits
  simp (disch := omega) only [readOffset?, take_digits_digits, expect?, if_true, hlast, hhours,
    hrest, hseconds, Option.bind_eq_bind, Option.bind_some, and_self]

/-- An offset of whole minutes is read as itself. -/
theorem read_offset_text (hminutes : 60 ∣ offset)
    (hday : offset.natAbs < secondsPerDay) :
    readZone? (offsetText offset) = some (.offset offset) := by
  have hread := read_offset_digits (Int.ofNat_dvd_left.mp hminutes) hday
  rw [offset_text_eq hminutes hday, offsetSign]
  obtain hsign | hsign : offset < 0 ∨ 0 ≤ offset := by omega
  · have hsome : offset.natAbs ≠ 0 := by omega
    have hvalue : -(offset.natAbs : Int) = offset := by omega
    rw [if_pos hsign, readZone?, hread, Option.map_some, if_neg hsome, hvalue]
  · have hvalue : (offset.natAbs : Int) = offset := by omega
    rw [if_neg (by omega), readZone?, hread, Option.map_some, hvalue]

/-! ## The whole -/

/-- A local time with an offset behind it is read as the instant that it stands for. -/
theorem read_text (h : time.Ordinary) (hminutes : 60 ∣ offset)
    (hday : offset.natAbs < secondsPerDay) :
    read? (String.ofList (time.text ++ offsetText offset)) =
      some ⟨(time.toMillisecond : Rat) / 1000 - offset, .offset offset⟩ := by
  have hzone := read_offset_text hminutes hday
  have hsign : (offsetSign offset).isDigit = false := by
    unfold offsetSign
    split <;> rfl
  have hdate := take_date_text h.proper h.year_nonneg h.year_lt
  rw [offset_text_eq hminutes hday] at hzone ⊢
  simp only [read?, LocalTime.text, String.toList_ofList, List.append_assoc, List.cons_append,
    hdate, expect?, if_true, Option.bind_eq_bind, Option.bind_some, take_clock_text h hsign, hzone,
    Zone.seconds, LocalTime.toMillisecond, LocalTime.dayLength]
  push_cast
  congr 3
  ring

example : read? "2026-10-16T10:15:30.123+02:00" = some ⟨1792138530123 / 1000, .offset 7200⟩ := by
  decide +kernel

end DateTime

end PluginDescriptor
