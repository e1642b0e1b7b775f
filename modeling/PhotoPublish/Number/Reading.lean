import PhotoPublish.Failure
import PhotoPublish.Text.Blank
import PhotoPublish.Text.Case
import PhotoPublish.Text.Digit

/-!
# Reading numbers

`Numeral.read` reads a whole number in a base, `Binary64.read` a decimal number. Both take digits of
any script, blanks around the number, a sign, and single underscores between digits;
`Binary64.readBytes` takes the digits and the blanks of ASCII only. A numeral in a
base that is not a power of two is refused beyond `Numeral.longest` digits.
-/

set_option autoImplicit false

namespace PhotoPublish

/-- Digits of other scripts as ASCII digits, and blanks as spaces. -/
def asciiNumeral (text : Text) : Text :=
  text.map fun c =>
    match digitValue? c with
    | some value => Char.ofNat (48 + value)
    | none => if isBlank c then ' ' else c

/-- The sign in front of a number, and what follows it. -/
def readSign : Text → Bool × Text
  | '-' :: rest => (true, rest)
  | '+' :: rest => (false, rest)
  | text => (false, text)

namespace Numeral

/-- The value of a digit of a base up to 36. -/
def digitOf? (base : Nat) (c : Char) : Option Nat :=
  let value :=
    if c.isDigit then c.toNat - 48
    else if 'a' ≤ c ∧ c ≤ 'z' then c.toNat - 87
    else if 'A' ≤ c ∧ c ≤ 'Z' then c.toNat - 55
    else 36
  if value < base then some value else none

/-- The letter that may stand after a zero in front of a numeral of this base. -/
def basePrefix : Nat → Text → Text
  | 2, '0' :: 'b' :: rest | 2, '0' :: 'B' :: rest
  | 8, '0' :: 'o' :: rest | 8, '0' :: 'O' :: rest
  | 16, '0' :: 'x' :: rest | 16, '0' :: 'X' :: rest =>
    match rest with
    | '_' :: more => more
    | rest => rest
  | _, text => text

/-- Whether every underscore stands between two digits. -/
def underscoresFit (base : Nat) : Bool → Text → Bool
  | afterDigit, [] => afterDigit
  | afterDigit, c :: rest =>
    if c = '_' then afterDigit && underscoresFit base false rest
    else (digitOf? base c).isSome && underscoresFit base true rest

/-- Whether a base is a power of two, so that its numerals have no limit. -/
def isBinaryBase (base : Nat) : Bool :=
  base == 2 || base == 8 || base == 16

/-- The whole number that a text denotes in a base. -/
def read (base : Nat) (text : Text) : Except Failure Int :=
  let (negative, unsigned) := readSign (asciiNumeral text).trim
  let body := basePrefix base unsigned
  let run := body.takeWhile fun c => c == '_' || (digitOf? base c).isSome
  let digits := run.filter (· != '_')
  if !underscoresFit base false run then .error (.badNumeral base text)
  else if longest < digits.length ∧ !isBinaryBase base then .error (.longNumeral digits.length)
  else if run.length < body.length then .error (.badNumeral base text)
  else
    let value := digits.foldl (fun n c => base * n + (digitOf? base c).getD 0) 0
    .ok (if negative then -(value : Int) else value)

end Numeral

namespace Binary64

/-- The text without its underscores, if each stands between two digits. -/
def dropUnderscores (text : Text) : Option Text :=
  go '\x00' text
where
  /-- Walks on after a character. -/
  go : Char → Text → Option Text
    | last, [] => if last = '_' then none else some []
    | last, c :: rest =>
      if c = '_' then if last.isDigit then go c rest else none
      else if last = '_' ∧ !c.isDigit then none
      else (go c rest).map (c :: ·)

/-- The value of an exponent and whether it was well formed. -/
def readExponent : Text → Option Int
  | [] => some 0
  | c :: rest =>
    if c = 'e' ∨ c = 'E' then
      let (negative, digits) := readSign rest
      if digits.isEmpty || !digits.all Char.isDigit then none
      else
        let value := numeralValue digits
        some (if negative then -(value : Int) else value)
    else none

/-- The number that an unsigned decimal text denotes. -/
def readUnsigned (negative : Bool) (text : Text) : Option Binary64 :=
  let word := text.map Char.toLower
  if word = "inf".toList ∨ word = "infinity".toList then some (infinite negative)
  else if word = "nan".toList then some nan
  else
    let front := text.takeWhile Char.isDigit
    let afterFront := text.dropWhile Char.isDigit
    let (back, rest) := match afterFront with
      | '.' :: more => (more.takeWhile Char.isDigit, more.dropWhile Char.isDigit)
      | more => ([], more)
    if front.isEmpty && back.isEmpty then none
    else (readExponent rest).map fun exponent =>
      ofDecimal negative (numeralValue (front ++ back)) (exponent - back.length)

/-- The number that a decimal text in ASCII denotes. -/
def ofAscii? (text : Text) : Option Binary64 := do
  let body ← dropUnderscores text
  let (negative, unsigned) := readSign body
  readUnsigned negative unsigned

/-- The double nearest to the decimal number that a text denotes. -/
def read (text : Text) : Except Failure Binary64 :=
  match ofAscii? (asciiNumeral text).trim with
  | some x => .ok x
  | none => .error (.badDecimal (.text text))

/-- The double nearest to the decimal number that bytes denote. -/
def readBytes (bytes : List UInt8) : Except Failure Binary64 :=
  let text : Text := (bytes.map fun b => Char.ofNat b.toNat).dropWhile isAsciiBlank
  match ofAscii? (text.reverse.dropWhile isAsciiBlank).reverse with
  | some x => .ok x
  | none => .error (.badDecimal (.bytes bytes))

end Binary64

end PhotoPublish
