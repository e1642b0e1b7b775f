import PhotoPublish.Calendar.Timestamp
import PhotoPublish.Number.Reading

/-!
# ISO dates

An ISO date is a year, month and day with hyphens between them, perhaps a `T` and a time of day, perhaps
a zone. `IsoDate.find?` is the first one in a text and `IsoDate.timestamp` the instant it denotes, if it
denotes one. `parseIsoDate` puts the two together, and `toTimestamp` reads dates of any type.
-/

set_option autoImplicit false

namespace PhotoPublish

/-- The zone of an ISO date: `Z`, or a sign with hours and minutes. -/
inductive IsoZone where
  | utc
  | shifted (negative : Bool) (hours minutes : Text)
deriving DecidableEq, Repr

/-- The digits of a date in a text. Parts of the time that are missing have none. -/
structure IsoDate where
  year : Text
  month : Text
  day : Text
  hour : Text := []
  minute : Text := []
  second : Text := []
  zone : Option IsoZone := none
deriving DecidableEq, Repr

namespace IsoDate

/-! ## Finding a date -/

/-- The digits at the start of a text, and the rest. -/
def takeDigits (text : Text) : Text × Text :=
  (text.takeWhile isDecimal, text.dropWhile isDecimal)

/-- Digits that end in a hyphen, and the rest. -/
def takeHyphened? (text : Text) : Option (Text × Text) :=
  match takeDigits text with
  | (_ :: _, '-' :: _) => some ((takeDigits text).1, (takeDigits text).2.tail)
  | _ => none

/-- A colon and digits, and the rest. Without a colon there are no digits. -/
def takeColon : Text → Text × Text
  | ':' :: rest => takeDigits rest
  | text => ([], text)

/-- Hours and minutes of a zone, two digits each, perhaps with a colon between them. -/
def takeShift? : Text → Option (Text × Text)
  | a :: b :: ':' :: c :: d :: _ | a :: b :: c :: d :: _ =>
    if [a, b, c, d].all isDecimal then some ([a, b], [c, d]) else none
  | _ => none

/-- The zone at the start of a text. -/
def takeZone? : Text → Option IsoZone
  | 'Z' :: _ => some .utc
  | '+' :: rest => (takeShift? rest).map fun (hours, minutes) => .shifted false hours minutes
  | '-' :: rest => (takeShift? rest).map fun (hours, minutes) => .shifted true hours minutes
  | _ => none

/-- The time of day at the start of a text: hour, minute and second, and the rest. -/
def takeClock : Text → Text × Text × Text × Text
  | 'T' :: text =>
    let (hour, text) := takeDigits text
    let (minute, text) := takeColon text
    let (second, text) := takeColon text
    (hour, minute, second, text)
  | text => ([], [], [], text)

/-- The date at the start of a text. -/
def take? (text : Text) : Option IsoDate := do
  let (year, text) ← takeHyphened? text
  let (month, text) ← takeHyphened? text
  let (day, text) := takeDigits text
  if day.isEmpty then none
  else
    let (hour, minute, second, text) := takeClock text
    some { year, month, day, hour, minute, second, zone := takeZone? text }

/-- The first date in a text. -/
def find? : Text → Option IsoDate
  | [] => none
  | c :: rest =>
    match take? (c :: rest) with
    | some date => some date
    | none => find? rest

/-! ## The instant of a date -/

/-- The numbers of a date in their order. -/
def parts (date : IsoDate) : List Text :=
  [date.year, date.month, date.day, date.hour, date.minute, date.second]

/-- Seconds east of UTC. -/
def IsoZone.seconds : IsoZone → Int
  | .utc => 0
  | .shifted negative hours minutes =>
    let seconds : Int := 3600 * numeralValue hours + 60 * numeralValue minutes
    if negative then -seconds else seconds

/-- The greatest number that a part of a date can hold. -/
def greatestPart : Nat := 0x7fffffff

/-- The greatest number that a register can hold. -/
def greatestRegister : Nat := 0x7fffffffffffffff

/-- A number that is not too large for a part of a date. -/
def checkPart (n : Nat) : Except InstantFault Unit :=
  if greatestRegister < n then .error .beyondLong
  else if greatestPart < n then .error .beyondInt
  else .ok ()

/-- Whether the digits make numbers and the zone is less than a day away from UTC. -/
def isReadable (date : IsoDate) : Bool :=
  date.parts.all (·.length ≤ Numeral.longest) &&
    match date.zone with
    | none => true
    | some zone => (IsoZone.seconds zone).natAbs < daySeconds

/-- The date and time that the numbers denote. -/
def dateTime (date : IsoDate) : Except CalendarFault DateTime :=
  DateTime.ofParts (numeralValue date.year) (numeralValue date.month) (numeralValue date.day)
    (numeralValue date.hour) (numeralValue date.minute) (numeralValue date.second) 0
    (date.zone.map IsoZone.seconds)

/-- The instant of a date, `none` if its numbers are no date. Numbers beyond all calendars are a failure,
and so is a local time whose surroundings leave the years of the calendar. -/
def timestamp (zone : Zone) (date : IsoDate) : Except Failure (Option Binary64) :=
  if !date.isReadable then .ok none
  else do
    (date.parts.forM fun part => checkPart (numeralValue part)).mapError Failure.instant
    match date.dateTime with
    | .error _ => return none
    | .ok time => return some (← (time.timestamp zone).mapError Failure.calendar)

end IsoDate

/-- The instant that the first date in a text denotes. -/
def parseIsoDate (zone : Zone) (text : Text) : Except Failure (Option Binary64) :=
  match IsoDate.find? text with
  | none => .ok none
  | some date => date.timestamp zone

/-- The instant that a date of any type denotes. -/
def toTimestamp (zone : Zone) (value : Value) : Except Failure (Option Binary64) :=
  let real (x : Option Binary64) : Except Failure (Option Binary64) :=
    match x with
    | some x => .ok (some x)
    | none => .error .wholeTooLarge
  match value with
  | .null => .ok none
  | .text text => parseIsoDate zone text
  | .moment time => some <$> (time.timestamp zone).mapError Failure.calendar
  | .bool b => real (Binary64.ofInt? (if b then 1 else 0))
  | .whole n => real (Binary64.ofInt? n)
  | .real x => .ok (some x)
  | .bytes b => some <$> Binary64.readBytes b
  | .date _ | .list _ | .map _ | .enclosing _ => .error .wrongType

namespace Timestamp

/-- The second in which an instant of any numeric type lies. -/
def second : Value → Except Failure Int
  | .bool b => .ok (if b then 1 else 0)
  | .whole n => .ok n
  | .real .nan => .error (.instant .notANumber)
  | .real x =>
    match x.floor? with
    | some second => .ok second
    | none => .error (.instant .outsideClock)
  | _ => .error .wrongType

end Timestamp

end PhotoPublish
