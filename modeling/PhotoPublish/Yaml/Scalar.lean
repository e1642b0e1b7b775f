import PhotoPublish.Calendar.Parts
import PhotoPublish.Number.Reading
import PhotoPublish.Yaml.Cursor
import PhotoPublish.Yaml.Tag

/-!
# Values of scalars

`Tag.readScalar` is the value that a scalar of a type denotes. Numbers may hold underscores and may be
written in base sixty, with colons between the digits. A scalar whose text is not of its type is a
`Fault`, either of the notation or of the value.
-/

set_option autoImplicit false

namespace PhotoPublish.Yaml

namespace Scalar

/-- The sign in front of a number, and the number itself, which is not empty. -/
def takeSign (text : Text) : Except Failure (Bool × Text) :=
  match text with
  | [] => .error .emptyScalar
  | _ => .ok (readSign text)

/-- A number with the sign that stood in front of it. -/
def signed (negative : Bool) (n : Int) : Int :=
  if negative then -n else n

/-- The whole number that a text denotes. A leading zero means base eight. -/
def readWhole (text : Text) : Except Failure Int := do
  let (negative, body) ← takeSign (text.filter (· != '_'))
  signed negative <$>
    match body with
    | ['0'] => .ok 0
    | '0' :: 'b' :: digits => Numeral.read 2 digits
    | '0' :: 'x' :: digits => Numeral.read 16 digits
    | [] => .error .emptyScalar
    | '0' :: _ => Numeral.read 8 body
    | _ =>
      if body.contains ':' then do
        let digits ← (Text.splitOn ':' body).mapM (Numeral.read 10)
        return digits.foldl (fun n digit => 60 * n + digit) 0
      else Numeral.read 10 body

/-- One more digit in base sixty; `weight` is what it counts for. -/
def addDigit : Int × Binary64 → Binary64 → Except Failure (Int × Binary64)
  | (weight, sum), digit =>
    match Binary64.ofInt? weight with
    | some factor => .ok (60 * weight, sum.add (digit.mul factor))
    | none => .error .wholeTooLarge

/-- The value of digits in base sixty, the last one first. -/
def realOfDigits (digits : List Binary64) : Except Failure Binary64 :=
  Prod.snd <$> digits.foldlM addDigit (1, .finite 0)

/-- The real number that a text denotes. -/
def readReal (text : Text) : Except Failure Binary64 := do
  let (negative, body) ← takeSign (Text.lower (text.filter (· != '_')))
  let x ←
    if body = ".inf".toList then .ok (Binary64.infinite false)
    else if body = ".nan".toList then .ok Binary64.nan
    else if body.contains ':' then do
      let digits ← (Text.splitOn ':' body).mapM Binary64.read
      realOfDigits digits.reverse
    else Binary64.read body
  return if negative then x.negate else x

/-- The texts of the truth values. -/
def truthValues : List (Text × Bool) :=
  [("yes".toList, true), ("no".toList, false), ("true".toList, true), ("false".toList, false),
    ("on".toList, true), ("off".toList, false)]

/-- The truth value that a text denotes. -/
def readBool (text : Text) : Except Failure Bool :=
  let word := Text.lower text
  match truthValues.lookup word with
  | some b => .ok b
  | none => .error (.unknownName (.text word))

/-! ## Bytes -/

/-- The six bits of a character. -/
def sextet? (c : Char) : Option Nat :=
  if 'A' ≤ c ∧ c ≤ 'Z' then some (c.toNat - 65)
  else if 'a' ≤ c ∧ c ≤ 'z' then some (c.toNat - 71)
  else if c.isDigit then some (c.toNat + 4)
  else if c = '+' then some 62
  else if c = '/' then some 63
  else none

/-- Bytes written with six bits a character. `place` is the place in a group of four characters,
`left` the bits over from the character before, `pads` the equal signs just passed. Characters outside
the alphabet are skipped; a group is complete, or filled up with equal signs, where the text ends. -/
def readBytesFrom : Nat → Nat → Nat → Text → Option (List UInt8)
  | place, _, _, [] => if place = 0 then some [] else none
  | place, left, pads, c :: rest =>
    if c = '=' then
      if place < 2 then readBytesFrom place left pads rest
      else if 4 ≤ place + pads + 1 then some []
      else readBytesFrom place left (pads + 1) rest
    else
      match sextet? c, place with
      | none, _ => readBytesFrom place left pads rest
      | some bits, 0 => readBytesFrom 1 bits 0 rest
      | some bits, 1 =>
        (readBytesFrom 2 (bits % 16) 0 rest).map ((left * 4 + bits / 16).toUInt8 :: ·)
      | some bits, 2 =>
        (readBytesFrom 3 (bits % 4) 0 rest).map ((left * 16 + bits / 4).toUInt8 :: ·)
      | some bits, _ => (readBytesFrom 0 0 0 rest).map ((left * 64 + bits).toUInt8 :: ·)

/-- The bytes that an ASCII text denotes. -/
def readBytes? (text : Text) : Option (List UInt8) :=
  if text.all (·.toNat < 0x80) then readBytesFrom 0 0 0 text else none

/-! ## Dates -/

/-- The parts of a timestamp: year, month, day, hour, minute, second, fraction, zone, and sign, hours
and minutes of the zone. -/
def timestampParts : String :=
  "^([0-9][0-9][0-9][0-9])-([0-9][0-9]?)-([0-9][0-9]?)" ++
    "(?:(?:[Tt]|[ \\t]+)([0-9][0-9]?):([0-9][0-9]):([0-9][0-9])(?:\\.([0-9]*))?" ++
    "(?:[ \\t]*(Z|([-+])([0-9][0-9]?)(?::([0-9][0-9]))?))?)?$"

/-- The offset that the zone of a timestamp denotes. -/
def readOffset (zone sign hours minutes : Option Text) : Except CalendarFault (Option Int) :=
  match sign, zone with
  | some sign, _ => do
    let seconds : Int := 3600 * numeralValue (hours.getD []) + 60 * numeralValue (minutes.getD [])
    let offset ← DateTime.checkedOffset (signed (sign == ['-']) seconds)
    return some offset
  | none, some _ => .ok (some 0)
  | none, none => .ok none

/-- Places of the fraction of a second. -/
def fractionPlaces : Nat := 6

/-- The microseconds of a fraction; further places are cut off. -/
def readFraction (digits : Text) : Nat :=
  let kept := digits.take fractionPlaces
  numeralValue kept * Nat.pow 10 (fractionPlaces - kept.length)

/-- The date, or date and time, that a text denotes. -/
def readTimestamp (text : Text) : Except Failure Value := do
  let compiled ← (@Pattern.read .none timestampParts.toList).mapError fun _ => Failure.noOperation
  match compiled.search text with
  | none => .error .noOperation
  | some found =>
    let part? (n : Nat) : Option Text :=
      (found.place.group? n).map fun (first, last) => text.slice first last
    let number (n : Nat) : Nat := numeralValue ((part? n).getD [])
    let result : Except CalendarFault Value :=
      if (part? 4).isNone then Value.date <$> Date.ofParts (number 1) (number 2) (number 3)
      else do
        let offset ← readOffset (part? 8) (part? 9) (part? 10) (part? 11)
        Value.moment <$> DateTime.ofParts (number 1) (number 2) (number 3) (number 4) (number 5)
          (number 6) (readFraction ((part? 7).getD [])) offset
    result.mapError Failure.calendar

end Scalar

namespace Tag

/-- The value of a scalar of a type; `none` for the types of collections. -/
def readScalar (tag : Tag) (text : Text) : Option (Except Fault Value) :=
  match tag with
  | null => some (.ok .null)
  | bool => some ((Value.bool <$> Scalar.readBool text).mapError .failure)
  | whole => some ((Value.whole <$> Scalar.readWhole text).mapError .failure)
  | real => some ((Value.real <$> Scalar.readReal text).mapError .failure)
  | timestamp => some ((Scalar.readTimestamp text).mapError .failure)
  | binary =>
    match Scalar.readBytes? text with
    | some bytes => some (.ok (.bytes bytes))
    | none => some (.error .malformed)
  | Tag.text => some (.ok (.text text))
  | merge | default | other => some (.error .malformed)
  | sequence | mapping | set | orderedMap | pairs => none

end Tag

end PhotoPublish.Yaml
