import PhotoPublish.Number.Binary64
import PhotoPublish.Number.Numeral

/-!
# Decimal text of doubles

`Binary64.shortest` finds the fewest decimal digits that read back as the same double and, among
those, the nearest to it. `Binary64.text` lays them out: positional notation for decimal exponents
from -4 to 15, with at least one digit after the point, else one digit before the point and an
exponent of at least two digits. `Binary64.fixed` rounds the exact value to a number of places.
-/

set_option autoImplicit false

namespace PhotoPublish.Binary64

/-- Places by which a magnitude is scaled so that its first digit stands before the point. -/
def headroom : Nat := 400

/-- The exponent of ten of the first decimal digit of a positive number of units. -/
def decimalExponent (magnitude : Nat) : Int :=
  (Nat.toDigits 10 (magnitude * Nat.pow 10 headroom / one)).length - 1 - headroom

/-- A power of ten as a ratio. -/
def powerOfTen (exponent : Int) : Nat × Nat :=
  if 0 ≤ exponent then (Nat.pow 10 exponent.toNat, 1) else (1, Nat.pow 10 (-exponent).toNat)

/-- Whether `num / den` units round to the double of `magnitude` units: the distance is at most half
the gap to the neighbour on that side, and equal to it only if the double is even. -/
def readsBack (magnitude num den : Nat) : Bool :=
  let shift := excess magnitude
  let mantissa := magnitude / Nat.pow 2 shift
  let even := mantissa % 2 == 0
  let above := Nat.pow 2 shift
  let below := if mantissa = leadingBit ∧ 0 < shift then Nat.pow 2 (shift - 1) else above
  let exact := magnitude * den
  if exact ≤ num then
    let distance := 2 * (num - exact)
    distance < above * den || (even && distance == above * den)
  else
    let distance := 2 * (exact - num)
    distance < below * den || (even && distance == below * den)

/-- The digits and exponent of a decimal with `count` digits that reads back, if there is one: of the
two neighbours on that decimal grid the nearer, a tie going to the even one. -/
def shortestOf (magnitude : Nat) (exponent : Int) (count : Nat) : Option (Nat × Int) :=
  let step := exponent - count + 1
  let (num, den) := powerOfTen step
  let grid := num * one
  let lower := magnitude * den / grid
  let upper := lower + 1
  let lowerReads := 0 < lower && readsBack magnitude (lower * grid) den
  let upperReads := readsBack magnitude (upper * grid) den
  let rounded := roundDiv (magnitude * den) grid
  if lowerReads && upperReads then some (rounded, step)
  else if lowerReads then some (lower, step)
  else if upperReads then some (upper, step)
  else none

/-- The fewest digits that read back; seventeen always do. -/
def shortest (magnitude : Nat) : Nat × Int :=
  let exponent := decimalExponent magnitude
  match (List.range 17).findSome? fun i => shortestOf magnitude exponent (i + 1) with
  | some found => found
  | none => (magnitude, 0)

/-- Digits without their trailing zeros. -/
def trimZeros (digits : Text) : Text :=
  (digits.reverse.dropWhile (· == '0')).reverse

/-- A positive value laid out: digits `d₁d₂…` with the first one at `10 ^ exponent`. -/
def layout (digits : Text) (exponent : Int) : Text :=
  if -4 ≤ exponent ∧ exponent < 16 then
    if exponent < 0 then
      '0' :: '.' :: (List.replicate (-exponent - 1).toNat '0' ++ digits)
    else
      let whole := exponent.toNat + 1
      let front := digits.take whole
      let back := digits.drop whole
      front ++ List.replicate (whole - front.length) '0' ++ '.' :: (if back.isEmpty then ['0'] else back)
  else
    let sign := if exponent < 0 then '-' else '+'
    let mantissa := match digits with
      | [] => []
      | d :: [] => [d]
      | d :: rest => d :: '.' :: rest
    mantissa ++ 'e' :: sign :: Numeral.padded 2 exponent.natAbs

/-- The text of a double that reads back as the same double. -/
def text : Binary64 → Text
  | nan => "nan".toList
  | infinite negative => (if negative then "-inf" else "inf").toList
  | negativeZero => "-0.0".toList
  | finite units =>
    if units = 0 then "0.0".toList
    else
      let (number, step) := shortest units.natAbs
      let digits := Numeral.ofNat number
      let body := layout (trimZeros digits) (step + digits.length - 1)
      if units < 0 then '-' :: body else body

/-- A number of units written with a fixed number of places; a tie goes to the even neighbour. -/
def fixedMagnitude (places magnitude : Nat) : Text :=
  let scaled := Numeral.padded (places + 1) (roundDiv (magnitude * Nat.pow 10 places) one)
  let whole := scaled.length - places
  scaled.take whole ++ (if places = 0 then [] else '.' :: scaled.drop whole)

/-- The text of a double with a fixed number of places. -/
def fixed (places : Nat) : Binary64 → Text
  | nan => "nan".toList
  | infinite negative => (if negative then "-inf" else "inf").toList
  | negativeZero => '-' :: fixedMagnitude places 0
  | finite units =>
    let body := fixedMagnitude places units.natAbs
    if units < 0 then '-' :: body else body

end PhotoPublish.Binary64
