import PhotoPublish.Number.Numeral

/-!
# Calendar dates

Dates of the Gregorian calendar, extended to all whole years. `Date.dayNumber` counts the days from
1970-01-01 to a date, and `Date.ofDayNumber` is its inverse on valid dates. A `DateTime` is a date
with a time of day, either in a fixed zone or in local time.
-/

set_option autoImplicit false

namespace PhotoPublish

namespace Calendar

/-- A year divisible by four has a 29th of February, unless it is a century not divisible by 400. -/
def isLeap (year : Int) : Bool :=
  year % 4 == 0 && (year % 100 != 0 || year % 400 == 0)

/-- Days of a month, which counts from one. -/
def daysInMonth (year : Int) : Nat → Nat
  | 2 => if isLeap year then 29 else 28
  | 4 | 6 | 9 | 11 => 30
  | _ => 31

/-- Days of a year. -/
def daysInYear (year : Int) : Nat :=
  if isLeap year then 366 else 365

/-- Days of the year before the first of a month. -/
def daysBeforeMonth (year : Int) : Nat → Nat
  | 0 => 0
  | 1 => 0
  | month + 1 => daysBeforeMonth year month + daysInMonth year month

/-- Days from the first of January of year 1 to the first of January of a year. -/
def daysBeforeYear (year : Int) : Int :=
  let past := year - 1
  365 * past + past / 4 - past / 100 + past / 400

/-- Days before 1970 in the count of `daysBeforeYear`. -/
def epochDays : Int := 719162

/-- The year that holds a day counted from the first of January of year 1. -/
def yearOfDay (day : Int) : Int :=
  let guess := day * 400 / 146097 + 1
  if day < daysBeforeYear guess then guess - 1
  else if daysBeforeYear (guess + 1) ≤ day then guess + 1
  else guess

/-- The month and day of month of a day of the year, searching from `month` for at most `fuel`
months. -/
def monthOfDay (year : Int) : Nat → Nat → Nat → Nat × Nat
  | 0, month, day => (month, day + 1)
  | fuel + 1, month, day =>
    let days := daysInMonth year month
    if day < days then (month, day + 1) else monthOfDay year fuel (month + 1) (day - days)

end Calendar

open Calendar

/-- A day of the calendar; month and day count from one. -/
structure Date where
  year : Int
  month : Nat
  day : Nat
deriving DecidableEq, Repr, Inhabited

namespace Date

/-- A month of the year and a day of that month. -/
def IsValid (date : Date) : Prop :=
  1 ≤ date.month ∧ date.month ≤ 12 ∧ 1 ≤ date.day ∧ date.day ≤ daysInMonth date.year date.month

instance (date : Date) : Decidable date.IsValid :=
  inferInstanceAs (Decidable (_ ∧ _ ∧ _ ∧ _))

/-- Days of the year before the date. -/
def dayOfYear (date : Date) : Nat :=
  daysBeforeMonth date.year date.month + (date.day - 1)

/-- Days from 1970-01-01 to the date. -/
def dayNumber (date : Date) : Int :=
  daysBeforeYear date.year + date.dayOfYear - epochDays

/-- The date a number of days after 1970-01-01. -/
def ofDayNumber (number : Int) : Date :=
  let day := number + epochDays
  let year := yearOfDay day
  let (month, dayOfMonth) := monthOfDay year 11 1 (day - daysBeforeYear year).toNat
  ⟨year, month, dayOfMonth⟩

/-- The day of the week, Sunday being zero. -/
def weekday (date : Date) : Nat :=
  ((date.dayNumber + 4) % 7).toNat

/-- Year, month and day as `2020-06-15`. -/
def text (date : Date) : Text :=
  Numeral.padded 4 date.year.toNat ++ '-' :: Numeral.padded 2 date.month ++
    '-' :: Numeral.padded 2 date.day

end Date

/-- A date and time of day. With an offset it is the time in the zone that many seconds east of UTC,
without one it is local time. -/
structure DateTime where
  date : Date
  hour : Nat
  minute : Nat
  second : Nat
  microsecond : Nat
  offset : Option Int
deriving DecidableEq, Repr, Inhabited

namespace DateTime

/-- Seconds since midnight. -/
def secondOfDay (time : DateTime) : Nat :=
  3600 * time.hour + 60 * time.minute + time.second

/-- Seconds from 1970-01-01 00:00:00 by the clock of its own zone. -/
def clockSeconds (time : DateTime) : Int :=
  86400 * time.date.dayNumber + time.secondOfDay

/-- Microseconds from 1970-01-01 00:00:00 in UTC; a time without an offset is taken as UTC. -/
def microsecondCount (time : DateTime) : Int :=
  1000000 * (time.clockSeconds - time.offset.getD 0) + time.microsecond

/-- An offset as `+05:30`, with seconds only if there are any. -/
def offsetText (offset : Int) : Text :=
  let seconds := offset.natAbs
  (if offset < 0 then '-' else '+') :: Numeral.padded 2 (seconds / 3600) ++
    ':' :: Numeral.padded 2 (seconds / 60 % 60) ++
    (if seconds % 60 = 0 then [] else ':' :: Numeral.padded 2 (seconds % 60))

/-- Date, separator, time of day, fraction of a second if there is one, and offset if it has one. -/
def text (separator : Char) (time : DateTime) : Text :=
  time.date.text ++ separator :: Numeral.padded 2 time.hour ++ ':' :: Numeral.padded 2 time.minute ++
    ':' :: Numeral.padded 2 time.second ++
    (if time.microsecond = 0 then [] else '.' :: Numeral.padded 6 time.microsecond) ++
    (match time.offset with
      | none => []
      | some offset => offsetText offset)

end DateTime

end PhotoPublish
