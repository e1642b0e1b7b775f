import PhotoPublish.Text.Basic

/-!
# Double-precision numbers

`Binary64` is the set of IEEE 754 double-precision values. A finite value is a whole number of
*units* of 2⁻¹⁰⁷⁴, the smallest positive double, so that comparison, rounding down and exact
conversion are integer arithmetic. Every operation computes the exact ratio of its result and rounds
it once, by `ofRatio`: to 53 significant bits, a tie to the even neighbour.
-/

set_option autoImplicit false

namespace PhotoPublish

/-- A double-precision value; a finite one counts units of 2⁻¹⁰⁷⁴. -/
inductive Binary64 where
  | nan
  | infinite (negative : Bool)
  | negativeZero
  | finite (units : Int)
deriving DecidableEq, Repr, Inhabited

/-- The whole number nearest to `num / den`, a tie going to the even one. -/
def roundDiv (num den : Nat) : Nat :=
  let quotient := num / den
  let remainder := num % den
  if 2 * remainder < den then quotient
  else if den < 2 * remainder then quotient + 1
  else if quotient % 2 = 0 then quotient else quotient + 1

namespace Binary64

/-- Units in one. -/
def one : Nat := Nat.pow 2 1074

/-- The finite values lie strictly between plus and minus this number of units. -/
def limit : Nat := Nat.pow 2 2098

/-- The value of the leading one of 53 significant bits, which a bit pattern leaves out. -/
def leadingBit : Nat := Nat.pow 2 52

/-- Excess bits of a magnitude over 53 significant ones. -/
def excess (magnitude : Nat) : Nat :=
  magnitude.log2 - 52

/-- `num / den` units rounded to 53 significant bits; a tie goes to the even neighbour. -/
def roundMagnitude (num den : Nat) : Nat :=
  let shift := excess (num / den)
  roundDiv num (den * Nat.pow 2 shift) * Nat.pow 2 shift

/-- The double nearest to `num / den` units. -/
def ofUnitRatio (num : Int) (den : Nat) : Binary64 :=
  let magnitude := roundMagnitude num.natAbs den
  if limit ≤ magnitude then infinite (num < 0)
  else if num < 0 then
    if magnitude = 0 then negativeZero else finite (-magnitude : Int)
  else finite magnitude

/-- The double nearest to `num / den`. -/
def ofRatio (num : Int) (den : Nat) : Binary64 :=
  ofUnitRatio (num * one) den

/-- The double nearest to a whole number. -/
def ofInt (n : Int) : Binary64 :=
  ofRatio n 1

/-- The double nearest to a whole number; `none` if that lies beyond the finite values. -/
def ofInt? (n : Int) : Option Binary64 :=
  match ofInt n with
  | finite units => some (finite units)
  | _ => none

/-- The double nearest to `digits * 10 ^ exponent`. -/
def ofDecimal (negative : Bool) (digits : Nat) (exponent : Int) : Binary64 :=
  let signed : Int := if negative then -(digits : Int) else digits
  let scale : Int := (Nat.toDigits 10 digits).length + exponent
  if digits = 0 then if negative then negativeZero else finite 0
  else if 400 < scale then infinite negative
  else if scale < -400 then if negative then negativeZero else finite 0
  else if 0 ≤ exponent then ofRatio (signed * (Nat.pow 10 exponent.toNat : Nat)) 1
  else ofRatio signed (Nat.pow 10 (-exponent).toNat)

/-- The exact number of units of a finite value. -/
def units? : Binary64 → Option Int
  | finite units => some units
  | negativeZero => some 0
  | _ => none

/-- Whether the sign is a minus. -/
def isNegative : Binary64 → Bool
  | finite units => units < 0
  | negativeZero => true
  | infinite negative => negative
  | nan => false

/-- Equal to zero, of either sign. -/
def isZero (x : Binary64) : Bool :=
  x.units? == some 0

/-- Greater than zero. -/
def isPositive : Binary64 → Bool
  | finite units => 0 < units
  | infinite negative => !negative
  | _ => false

/-- The value with the opposite sign. -/
def negate : Binary64 → Binary64
  | nan => nan
  | infinite negative => infinite !negative
  | negativeZero => finite 0
  | finite 0 => negativeZero
  | finite units => finite (-units)

/-- The sum, rounded once. -/
def add : Binary64 → Binary64 → Binary64
  | nan, _ => nan
  | _, nan => nan
  | infinite a, infinite b => if a = b then infinite a else nan
  | infinite a, _ => infinite a
  | _, infinite b => infinite b
  | negativeZero, y => y
  | x, negativeZero => x
  | finite a, finite b => ofUnitRatio (a + b) 1

/-- The difference, rounded once. -/
def sub (x y : Binary64) : Binary64 :=
  add x y.negate

/-- The quotient, rounded once. -/
def div (x y : Binary64) : Binary64 :=
  let negative := x.isNegative != y.isNegative
  match x, y with
  | nan, _ => nan
  | _, nan => nan
  | infinite _, infinite _ => nan
  | infinite _, _ => infinite negative
  | _, infinite _ => if negative then negativeZero else finite 0
  | x, y =>
    let a := (x.units?.getD 0).natAbs
    let b := (y.units?.getD 0).natAbs
    if b = 0 then if a = 0 then nan else infinite negative
    else if a = 0 then if negative then negativeZero else finite 0
    else ofRatio (if negative then -(a : Int) else a) b

/-- The product, rounded once. -/
def mul (x y : Binary64) : Binary64 :=
  let negative := x.isNegative != y.isNegative
  match x, y with
  | nan, _ => nan
  | _, nan => nan
  | infinite _, y => if y.isZero then nan else infinite negative
  | x, infinite _ => if x.isZero then nan else infinite negative
  | x, y =>
    let product := (x.units?.getD 0).natAbs * (y.units?.getD 0).natAbs
    if product = 0 then if negative then negativeZero else finite 0
    else ofUnitRatio (if negative then -(product : Int) else product) one

/-- The greatest whole number not above a finite value. -/
def floor? (x : Binary64) : Option Int :=
  x.units?.map (· / (one : Int))

/-- The whole part of a finite value. -/
def truncate? (x : Binary64) : Option Int :=
  x.units?.map fun units => units.tdiv one

/-- The IEEE 754 bit pattern. -/
def toBits : Binary64 → Nat
  | nan => 0x7ff8000000000000
  | infinite negative => (if negative then 0x8000000000000000 else 0) + 0x7ff0000000000000
  | negativeZero => 0x8000000000000000
  | finite units =>
    let magnitude := units.natAbs
    let shift := excess magnitude
    let field := if magnitude < leadingBit then magnitude
      else (shift + 1) * leadingBit + (magnitude / Nat.pow 2 shift - leadingBit)
    (if units < 0 then 0x8000000000000000 else 0) + field

end Binary64

end PhotoPublish
