import PhotoPublish.Calendar.Zone
import PhotoPublish.Text.Case

/-!
# Date formats

`DateFormat.format` writes a local time by a format, in which a directive such as `%Y` or `%-d` stands
for a part of the time. A directive is a percent sign, flags, a least width, a modifier and a conversion.
`pieces` cuts a format into characters and directives, `Directive.write` writes one of these. A directive
without meaning stands for itself. Results that are too long for the room that a format of this length
gets are empty.
-/

set_option autoImplicit false

namespace PhotoPublish.DateFormat

/-- A directive. `source` is its text; a format may end before the conversion. -/
structure Directive where
  /-- The last of the flags `_`, `-` and `0`: filled up with spaces, not at all, or with zeros. -/
  pad : Option Char
  upper : Bool
  changeCase : Bool
  width : Option Nat
  modifier : Option Char
  conversion : Option Char
  source : Text
deriving Repr, DecidableEq

/-- A character that stands for itself, or a directive. -/
inductive Piece where
  | char (c : Char)
  | directive (d : Directive)
deriving Repr, DecidableEq

/-! ## Cutting a format -/

/-- Whether a character is a flag of a directive. -/
def isFlag (c : Char) : Bool :=
  c == '_' || c == '-' || c == '0' || c == '^' || c == '#'

/-- The directive that follows a percent sign. -/
def readDirective (text : Text) : Directive :=
  let flags := text.takeWhile isFlag
  let afterFlags := text.dropWhile isFlag
  let digits := afterFlags.takeWhile Char.isDigit
  let afterDigits := afterFlags.dropWhile Char.isDigit
  let modifier := match afterDigits with
    | 'E' :: _ => some 'E'
    | 'O' :: _ => some 'O'
    | _ => none
  let conversion := (afterDigits.drop modifier.toList.length).head?
  { pad := flags.reverse.find? fun c => c == '_' || c == '-' || c == '0'
    upper := flags.contains '^'
    changeCase := flags.contains '#'
    width := if digits.isEmpty then none
      else some (digits.foldl (fun n c => 10 * n + (c.toNat - 48)) 0)
    modifier := modifier
    conversion := conversion
    source := '%' :: flags ++ digits ++ modifier.toList ++ conversion.toList }

/-- The pieces of a format, when the next `skip` characters belong to the directive before. -/
def piecesFrom : Nat → Text → List Piece
  | _, [] => []
  | skip + 1, _ :: rest => piecesFrom skip rest
  | 0, c :: rest =>
    if c = '%' then
      let d := readDirective rest
      .directive d :: piecesFrom (d.source.length - 1) rest
    else .char c :: piecesFrom 0 rest

/-- The pieces of a format. -/
def pieces (format : Text) : List Piece :=
  piecesFrom 0 format

/-! ## Parts of a time -/

/-- The names of the days of the week. -/
def weekdayNames : List String :=
  ["Sunday", "Monday", "Tuesday", "Wednesday", "Thursday", "Friday", "Saturday"]

/-- The names of the months. -/
def monthNames : List String :=
  ["January", "February", "March", "April", "May", "June", "July", "August", "September", "October",
    "November", "December"]

/-- The name of the day of the week. -/
def weekdayName (time : LocalTime) : Text :=
  (weekdayNames.getD time.time.date.weekday "?").toList

/-- The name of the month. -/
def monthName (time : LocalTime) : Text :=
  (monthNames.getD (time.time.date.month - 1) "?").toList

/-- The half of the day. -/
def halfDay (time : LocalTime) : Text :=
  (if time.time.hour < 12 then "AM" else "PM").toList

/-- The hour of the half of the day, from 1 to 12. -/
def hourOfHalf (time : LocalTime) : Nat :=
  if time.time.hour % 12 = 0 then 12 else time.time.hour % 12

/-- The day of the week, Monday being zero. -/
def daysAfterMonday (time : LocalTime) : Nat :=
  (time.time.date.weekday + 6) % 7

/-- Weeks of the year that have begun, the days before the first start of a week not counted. `after` is
the number of days since the start of the week. -/
def weekOfYear (time : LocalTime) (after : Nat) : Nat :=
  (time.time.date.dayOfYear + 7 - after) / 7

/-- Days since the first week of a year began. The day is the one after `yearDay` days of the year and
`after` days past Monday; the first week has at least four days in the year. -/
def weekDays (yearDay : Int) (after : Nat) : Int :=
  let firstMonday := (yearDay - after) % 7
  yearDay - (if firstMonday ≤ 3 then firstMonday else firstMonday - 7)

/-- The year and the number of the week, weeks starting on Monday and belonging to the year that has at
least four of their days. -/
def isoWeek (time : LocalTime) : Int × Nat :=
  let year := time.time.date.year
  let yearDay : Int := time.time.date.dayOfYear
  let after := daysAfterMonday time
  let days := weekDays yearDay after
  if days < 0 then
    let last := weekDays (yearDay + Calendar.daysInYear (year - 1)) after
    (year - 1, (last / 7 + 1).toNat)
  else
    let next := weekDays (yearDay - Calendar.daysInYear year) after
    if 0 ≤ next then (year + 1, (next / 7 + 1).toNat) else (year, (days / 7 + 1).toNat)

/-! ## Writing directives -/

/-- An ASCII letter in upper case. -/
def upperText (text : Text) : Text :=
  text.map Char.toUpper

/-- An ASCII letter in lower case. -/
def lowerText (text : Text) : Text :=
  text.map Char.toLower

namespace Directive

/-- The least width, never more than the room. -/
def leastWidth (room : Nat) (d : Directive) : Nat :=
  min room (d.width.getD 0)

/-- A text filled up on the left to the least width. -/
def fill (room : Nat) (d : Directive) (text : Text) : Text :=
  Numeral.padLeft (if d.pad = some '0' then '0' else ' ') (d.leastWidth room) text

/-- A text in the case that the flags ask for. -/
def inCase (d : Directive) (text : Text) : Text :=
  if d.upper then upperText text else text

/-- A name; a flag for the other case makes it upper case, too. -/
def name (room : Nat) (d : Directive) (text : Text) : Text :=
  d.fill room (if d.upper || d.changeCase then upperText text else text)

/-- A name in capitals; a flag for the other case makes it lower case. -/
def capitals (room : Nat) (d : Directive) (text : Text) : Text :=
  d.fill room (if d.changeCase then lowerText text else d.inCase text)

/-- A number with at least `digits` characters, filled up by the flag. Zeros follow the sign. -/
def number (room : Nat) (d : Directive) (digits : Nat) (n : Int) : Text :=
  let least := max digits (d.leastWidth room)
  let plain := Numeral.ofInt n
  match d.pad with
  | some '-' => d.fill room plain
  | some '_' => Numeral.padLeft ' ' least plain
  | _ =>
    if n < 0 then '-' :: Numeral.padLeft '0' (least - 1) (Numeral.ofNat n.natAbs)
    else Numeral.padLeft '0' least plain

/-- A number filled up with spaces unless a flag says otherwise. -/
def spaced (room : Nat) (d : Directive) (digits : Nat) (n : Int) : Text :=
  let pad := if d.pad = some '0' ∨ d.pad = some '-' then d.pad else some '_'
  number room { d with pad := pad } digits n

/-- The text of a directive without meaning. A flag for the other case makes that of a short month upper
case. -/
def asText (room : Nat) (d : Directive) : Text :=
  let text := if d.conversion = some '%' then ['%'] else d.source
  if d.conversion = some 'b' ∨ d.conversion = some 'h' then d.name room text
  else d.fill room (d.inCase text)

/-- Whether the modifier has a meaning with the conversion. -/
def fitsModifier (d : Directive) : Bool :=
  match d.modifier, d.conversion with
  | some _, some c => !("%aADF".toList.contains c) &&
    (if d.modifier = some 'E' then !("bhBdeHIkljMmSUVgGWw".toList.contains c)
      else !("cxXY".toList.contains c))
  | _, _ => true

/-- The format that a conversion stands for. -/
def expansion? : Char → Option String
  | 'c' => some "%a %b %e %H:%M:%S %Y"
  | 'D' | 'x' => some "%m/%d/%y"
  | 'F' => some "%Y-%m-%d"
  | 'T' | 'X' => some "%H:%M:%S"
  | 'R' => some "%H:%M"
  | 'r' => some "%I:%M:%S %p"
  | _ => none

/-- The offset from UTC: a sign, then hours and minutes. -/
def offset (room : Nat) (d : Directive) (time : LocalTime) : Text :=
  let minutes := time.offset.natAbs / 60
  d.fill room [if time.offset < 0 then '-' else '+'] ++
    d.number room 4 (minutes / 60 * 100 + minutes % 60 : Nat)

/-- Writes a directive that stands for one part of a time. -/
def writePart (room : Nat) (d : Directive) (instant : Int) (time : LocalTime) : Text :=
  let date := time.time.date
  let number (digits : Nat) (n : Nat) : Text := d.number room digits n
  if !d.fitsModifier then d.asText room
  else match d.conversion with
    | some '%' => d.fill room ['%']
    | some 'n' => d.fill room ['\n']
    | some 't' => d.fill room ['\t']
    | some 'a' => d.name room ((weekdayName time).take 3)
    | some 'A' => d.name room (weekdayName time)
    | some 'b' | some 'h' => d.name room ((monthName time).take 3)
    | some 'B' => d.name room (monthName time)
    | some 'p' => d.capitals room (halfDay time)
    | some 'P' => d.fill room (lowerText (halfDay time))
    | some 'Z' => d.capitals room time.name
    | some 'z' => d.offset room time
    | some 'Y' => d.number room 1 date.year
    | some 'C' => d.number room 1 (date.year / 100)
    | some 'y' => number 2 (date.year % 100).toNat
    | some 'G' => d.number room 1 (isoWeek time).1
    | some 'g' => number 2 ((isoWeek time).1 % 100).toNat
    | some 'V' => number 2 (isoWeek time).2
    | some 'm' => number 2 date.month
    | some 'd' => number 2 date.day
    | some 'e' => d.spaced room 2 date.day
    | some 'H' => number 2 time.time.hour
    | some 'k' => d.spaced room 2 time.time.hour
    | some 'I' => number 2 (hourOfHalf time)
    | some 'l' => d.spaced room 2 (hourOfHalf time)
    | some 'M' => number 2 time.time.minute
    | some 'S' => number 2 time.time.second
    | some 'j' => number 3 (date.dayOfYear + 1)
    | some 'U' => number 2 (weekOfYear time date.weekday)
    | some 'W' => number 2 (weekOfYear time (daysAfterMonday time))
    | some 'u' => number 1 (daysAfterMonday time + 1)
    | some 'w' => number 1 date.weekday
    | some 's' => d.fill room (Numeral.ofInt instant)
    | _ => d.asText room

/-- Writes a directive; one that stands for several parts is written by its own format. -/
def write (room : Nat) (d : Directive) (instant : Int) (time : LocalTime) : Text :=
  match d.conversion.bind expansion? with
  | some inner =>
    if d.fitsModifier then
      d.fill room <| d.inCase <| (pieces inner.toList).flatMap fun
        | .char c => [c]
        | .directive part => part.writePart room instant time
    else d.asText room
  | none => d.writePart room instant time

end Directive

/-! ## Formats -/

/-- The least room for a result. -/
def leastRoom : Nat := 1024

/-- Doubles a room until it is enough. -/
def growRoom (needed : Nat) : Nat → Nat → Nat
  | 0, room => room
  | fuel + 1, room => if needed ≤ room then room else growRoom needed fuel (2 * room)

/-- The room for the result of a format, which has to stay below it. -/
def room (format : Text) : Nat :=
  let needed := 256 * format.length
  growRoom needed needed leastRoom

/-- A local time by a format. -/
def format (format : Text) (instant : Int) (time : LocalTime) : Text :=
  let room := room format
  let result := (pieces format).flatMap fun
    | .char c => [c]
    | .directive d => d.write room instant time
  if result.length < room then result else []

end PhotoPublish.DateFormat
