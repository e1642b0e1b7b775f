import PhotoPublish.Calendar.Parts

/-!
# Time zones

A `Zone` has a standard offset and, in summer, possibly another one. The two changes of a year fall on
Sundays. `Zone.offsetAt` is the offset at an instant, `Zone.clockAt` what the clocks of the zone show
then. An instant counts seconds from 1970-01-01 00:00:00 in UTC. Summer time is known from 1970 on.
-/

set_option autoImplicit false

namespace PhotoPublish

/-- A yearly change of the clocks: on the Sunday of a month that `week` counts, the fifth being the last,
so many seconds after midnight by the clock before the change. -/
structure Change where
  month : Nat
  week : Nat
  second : Nat
deriving DecidableEq, Repr

namespace Change

/-- The day of month of the first Sunday, counted from zero. -/
def firstSunday (year : Int) (month : Nat) : Nat :=
  (7 - (Date.mk year month 1).weekday) % 7

/-- The day of month of the change, counted from zero. -/
def dayOfMonth (change : Change) (year : Int) : Nat :=
  let first := firstSunday year change.month
  first + 7 * min (change.week - 1) ((Calendar.daysInMonth year change.month - 1 - first) / 7)

/-- The instant of the change in a year, from the offset before it. -/
def instant (change : Change) (year offset : Int) : Int :=
  daySeconds * ((Date.mk year change.month 1).dayNumber + change.dayOfMonth year) + change.second -
    offset

end Change

/-- Summer time. -/
structure Summer where
  name : Text
  offset : Int
  start : Change
  stop : Change
deriving DecidableEq, Repr

/-- A time zone; offsets are seconds east of UTC. -/
structure Zone where
  name : Text
  offset : Int
  summer : Option Summer
deriving DecidableEq, Repr

/-- The time that clocks show, with the offset and the name of the zone then. -/
structure LocalTime where
  time : DateTime
  offset : Int
  name : Text
deriving Repr

/-- The first year with summer time. -/
def firstSummerYear : Int := 1970

namespace Zone

/-- Coordinated universal time. -/
def utc : Zone :=
  ⟨"UTC".toList, 0, none⟩

/-- Indian standard time. -/
def ist : Zone :=
  ⟨"IST".toList, 19800, none⟩

/-- Newfoundland standard time, all the year. -/
def nst : Zone :=
  ⟨"NST".toList, -12600, none⟩

/-- Eastern time in North America. -/
def est : Zone :=
  ⟨"EST".toList, -18000, some ⟨"EDT".toList, -14400, ⟨3, 2, 7200⟩, ⟨11, 1, 7200⟩⟩⟩

/-- Central European time. -/
def cet : Zone :=
  ⟨"CET".toList, 3600, some ⟨"CEST".toList, 7200, ⟨3, 5, 7200⟩, ⟨10, 5, 10800⟩⟩⟩

/-- The zones that are supported. -/
def supported : List Zone :=
  [utc, ist, nst, est, cet]

/-- Whether a summer lasts at an instant. -/
def isSummer (zone : Zone) (summer : Summer) (instant : Int) : Bool :=
  let year := (Date.ofDayNumber (instant / daySeconds)).year
  firstSummerYear ≤ year && summer.start.instant year zone.offset ≤ instant &&
    instant < summer.stop.instant year summer.offset

/-- The offset and the name of the time at an instant. -/
def timeAt (zone : Zone) (instant : Int) : Int × Text :=
  match zone.summer with
  | none => (zone.offset, zone.name)
  | some summer =>
    if zone.isSummer summer instant then (summer.offset, summer.name) else (zone.offset, zone.name)

/-- The offset at an instant. -/
def offsetAt (zone : Zone) (instant : Int) : Int :=
  (zone.timeAt instant).1

/-- The date and time of a number of seconds since 1970-01-01 00:00:00 by the same clock. -/
def clockOf (seconds : Int) : DateTime :=
  let second := (seconds % daySeconds).toNat
  { date := Date.ofDayNumber (seconds / daySeconds), hour := second / 3600,
    minute := second / 60 % 60, second := second % 60, microsecond := 0, offset := none }

/-- What the clocks show at an instant. -/
def clockAt (zone : Zone) (instant : Int) : LocalTime :=
  let (offset, name) := zone.timeAt instant
  { time := clockOf (instant + offset), offset := offset, name := name }

end Zone

/-- The years that a calendar record can hold, counted from 1900, stay below the thirty-first power
of two. -/
def recordBound : Int := 0x80000000

/-- The seconds that a clock can count stay below the sixty-third power of two. -/
def clockBound : Int := 0x8000000000000000

/-- Whether a year fits a calendar record. -/
def fitsRecord (year : Int) : Bool :=
  -recordBound ≤ year - 1900 && year - 1900 < recordBound

namespace Zone

/-- What the clocks show at an instant, if it can be said. -/
def clockAt? (zone : Zone) (instant : Int) : Except InstantFault LocalTime :=
  if instant < -clockBound ∨ clockBound ≤ instant then .error .outsideClock
  else
    let shown := zone.clockAt instant
    if fitsRecord (Date.ofDayNumber (instant / daySeconds)).year && fitsRecord shown.time.date.year
    then .ok shown
    else .error .outsideRecord

end Zone

end PhotoPublish
