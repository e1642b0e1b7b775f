import PhotoPublish.Calendar.Date
import PhotoPublish.Number.Shortest
import PhotoPublish.Text.Quoted

/-!
# Values

A `Value` is what a host or a configuration file hands over: metadata, settings and options carry
their type only at run time. `Value.isSet` says which values count as set, `Value.display` is the
text substituted for a value, and `Value.quoted` is the text that messages show, in which texts
stand between quotes and a list or mapping shows its members.
-/

set_option autoImplicit false

namespace PhotoPublish

/-- A value whose type is known at run time only. A mapping keeps the order of its entries. A list or
mapping that holds itself, directly or further down, is cut there. -/
inductive Value where
  | null
  | bool (b : Bool)
  | whole (n : Int)
  | real (x : Binary64)
  | text (t : Text)
  | bytes (b : List UInt8)
  | date (d : Date)
  | moment (t : DateTime)
  | list (items : List Value)
  | map (entries : List (Value × Value))
  /-- The list or mapping that encloses the place where this stands. -/
  | enclosing (isMap : Bool)
deriving Inhabited

namespace Value

/-- Neither null, nor `false`, nor zero, nor empty. -/
def isSet : Value → Bool
  | null => false
  | bool b => b
  | whole n => n != 0
  | real x => !x.isZero
  | text t => !t.isEmpty
  | bytes b => !b.isEmpty
  | date _ => true
  | moment _ => true
  | list items => !items.isEmpty
  | map entries => !entries.isEmpty
  | enclosing _ => true

/-- One byte between quotes. -/
def quotedByte (quote : Char) (b : UInt8) : Text :=
  let c := Char.ofNat b.toNat
  if c = quote ∨ c = '\\' then ['\\', c]
  else if c = '\t' then ['\\', 't']
  else if c = '\n' then ['\\', 'n']
  else if c = '\r' then ['\\', 'r']
  else if 0x20 ≤ b.toNat ∧ b.toNat < 0x7f then [c]
  else '\\' :: 'x' :: Numeral.hex 2 b.toNat

/-- Bytes between quotes, marked by a `b`. -/
def quotedBytes (b : List UInt8) : Text :=
  let quote := Text.quoteFor (b.map fun x => Char.ofNat x.toNat)
  'b' :: quote :: b.flatMap (quotedByte quote) ++ [quote]

/-- Parts between parentheses after a name, separated by commas. -/
def quotedCall (name : String) (parts : List Text) : Text :=
  name.toList ++ '(' :: Text.join ", ".toList parts ++ [')']

/-- The parts of a date. -/
def dateParts (d : Date) : List Text :=
  [Numeral.ofInt d.year, Numeral.ofNat d.month, Numeral.ofNat d.day]

/-- A zone by its offset: whole days and the seconds left over. -/
def quotedZone (offset : Int) : Text :=
  if offset = 0 then "datetime.timezone.utc".toList
  else
    let days := offset / 86400
    let seconds := offset % 86400
    let dayParts := if days = 0 then [] else ["days=".toList ++ Numeral.ofInt days]
    let secondParts := if seconds = 0 then [] else ["seconds=".toList ++ Numeral.ofInt seconds]
    quotedCall "datetime.timezone" [quotedCall "datetime.timedelta" (dayParts ++ secondParts)]

/-- A date and time by its parts; seconds and microseconds only as far as they are needed. -/
def quotedMoment (t : DateTime) : Text :=
  let clock := [Numeral.ofNat t.hour, Numeral.ofNat t.minute]
  let seconds :=
    if t.microsecond ≠ 0 then [Numeral.ofNat t.second, Numeral.ofNat t.microsecond]
    else if t.second ≠ 0 then [Numeral.ofNat t.second]
    else []
  let zone := match t.offset with
    | none => []
    | some offset => ["tzinfo=".toList ++ quotedZone offset]
  quotedCall "datetime.datetime" (dateParts t.date ++ clock ++ seconds ++ zone)

mutual

/-- The text that messages show for a value. -/
def quoted : Value → Text
  | null => "None".toList
  | bool b => (if b then "True" else "False").toList
  | whole n => Numeral.ofInt n
  | real x => x.text
  | text t => t.quoted
  | bytes b => quotedBytes b
  | date d => quotedCall "datetime.date" (dateParts d)
  | moment t => quotedMoment t
  | list items => '[' :: Text.join ", ".toList (quotedItems items) ++ [']']
  | map entries => '\x7b' :: Text.join ", ".toList (quotedEntries entries) ++ ['\x7d']
  | enclosing isMap => (if isMap then "\x7b...\x7d" else "[...]").toList

/-- The texts of the members of a list. -/
def quotedItems : List Value → List Text
  | [] => []
  | v :: rest => quoted v :: quotedItems rest

/-- The texts of the entries of a mapping. -/
def quotedEntries : List (Value × Value) → List Text
  | [] => []
  | (k, v) :: rest => (quoted k ++ ':' :: ' ' :: quoted v) :: quotedEntries rest

end

/-- The text substituted for a value: a text itself, a date in ISO form, any other value as quoted. -/
def display : Value → Text
  | text t => t
  | date d => d.text
  | moment t => t.text ' '
  | v => v.quoted

mutual

/-- Whether a whole number with too many digits to be written is in a value. -/
def hasLongWhole : Value → Bool
  | whole n => Numeral.longest < (Numeral.ofNat n.natAbs).length
  | list items => anyLongWhole items
  | map entries => anyLongEntry entries
  | _ => false

/-- Whether there is one in a list. -/
def anyLongWhole : List Value → Bool
  | [] => false
  | v :: rest => hasLongWhole v || anyLongWhole rest

/-- Whether there is one in a mapping. -/
def anyLongEntry : List (Value × Value) → Bool
  | [] => false
  | (k, v) :: rest => hasLongWhole k || hasLongWhole v || anyLongEntry rest

end

end Value

end PhotoPublish
