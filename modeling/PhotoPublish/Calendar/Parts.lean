import PhotoPublish.Failure

/-!
# Dates from their parts

`Date.ofParts` and `DateTime.ofParts` take the numbers of a date and time as they were read. Years run
from 1 to 9999. The first part outside its range is the fault.
-/

set_option autoImplicit false

namespace PhotoPublish

/-- The last year of the calendar. -/
def lastYear : Nat := 9999

/-- Seconds of a day. -/
def daySeconds : Nat := 86400

namespace Date

/-- The date with the given parts. -/
def ofParts (year month day : Nat) : Except CalendarFault Date :=
  if year < 1 ∨ lastYear < year then .error (.year year)
  else if month < 1 ∨ 12 < month then .error .month
  else if day < 1 ∨ Calendar.daysInMonth year month < day then .error .day
  else .ok ⟨year, month, day⟩

/-- A date is made of parts only if they are a day of the calendar. -/
theorem isValid_of_ofParts {year month day : Nat} {date : Date}
    (h : ofParts year month day = .ok date) :
    date.IsValid ∧ date = ⟨year, month, day⟩ ∧ 1 ≤ year ∧ year ≤ lastYear := by
  simp only [ofParts] at h
  split at h
  · contradiction
  split at h
  · contradiction
  split at h
  · contradiction
  cases h
  simp only [IsValid, and_assoc, true_and]
  omega

end Date

namespace DateTime

/-- The date and time with the given parts. -/
def ofParts (year month day hour minute second microsecond : Nat) (offset : Option Int) :
    Except CalendarFault DateTime := do
  let date ← Date.ofParts year month day
  if 23 < hour then throw .hour
  if 59 < minute then throw .minute
  if 59 < second then throw .second
  return { date, hour, minute, second, microsecond, offset }

/-- An offset of less than a day. -/
def checkedOffset (seconds : Int) : Except CalendarFault Int :=
  if daySeconds ≤ seconds.natAbs then .error (.offset seconds) else .ok seconds

end DateTime

end PhotoPublish
