import PhotoPublish.Calendar.Zone

/-!
# Timestamps of date-times

`DateTime.timestamp` is the instant that a date and time denotes, in seconds since 1970-01-01 00:00:00 in
UTC. Without an offset it is local time: in an autumn overlap the first occurrence, in a spring gap the
time by the offset before the change. The offsets around the time are probed at instants up to a day
away, which have to lie in the years of the calendar.
-/

set_option autoImplicit false

namespace PhotoPublish

namespace Zone

/-- The clock of the zone at an instant, as seconds since 1970-01-01 00:00:00 by that clock. Its year has
to be one of the calendar. -/
def probe (zone : Zone) (instant : Int) : Except CalendarFault Int :=
  let seconds := instant + zone.offsetAt instant
  let year := (Date.ofDayNumber (seconds / daySeconds)).year
  if year < 1 ∨ lastYear < year then .error (.year year) else .ok seconds

/-- The instant at which the clock shows a number of seconds. -/
def instantOf (zone : Zone) (clock : Int) : Except CalendarFault Int := do
  let offset := (← zone.probe clock) - clock
  let guess := clock - offset
  let shown ← zone.probe guess
  if shown = clock then
    let dayBefore := guess - daySeconds
    let offsetBefore := (← zone.probe dayBefore) - dayBefore
    if offset = offsetBefore then return guess
    let earlier := clock - offsetBefore
    if (← zone.probe earlier) = clock then return earlier
    return guess
  else
    let other := clock - (shown - guess)
    if (← zone.probe other) = clock then return other
    return max guess other

end Zone

namespace DateTime

/-- Microseconds of a second. -/
def microseconds : Nat := 1000000

/-- The instant that a date and time denotes, as the nearest double. -/
def timestamp (zone : Zone) (time : DateTime) : Except CalendarFault Binary64 :=
  match time.offset with
  | some offset =>
    .ok (Binary64.ofRatio (microseconds * (time.clockSeconds - offset) + time.microsecond)
      microseconds)
  | none => do
    let instant ← zone.instantOf time.clockSeconds
    return (Binary64.ofInt instant).add (Binary64.ofRatio time.microsecond microseconds)

end DateTime

end PhotoPublish
