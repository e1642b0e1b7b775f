import PhotoPublish.Calendar.Format
import PhotoPublish.Calendar.IsoDate

/-!
# Text of timestamps

`Timestamp.format` writes an instant in local time by a date format.
-/

set_option autoImplicit false

namespace PhotoPublish.Timestamp

/-- The format of dates in messages. -/
def messageFormat : Text :=
  "%Y-%m-%d %H:%M:%S".toList

/-- The last year that a date format can write. -/
def lastFormatYear : Int := 0x7fffffff

/-- An instant in local time by a date format. -/
def format (zone : Zone) (instant : Value) (format : Text) : Except Failure Text := do
  let second ← second instant
  let shown ← (zone.clockAt? second).mapError Failure.instant
  if lastFormatYear < shown.time.date.year then throw (.instant .beyondInt)
  if format.contains '\x00' then throw .nulInText
  return DateFormat.format format second shown

end PhotoPublish.Timestamp
