import PhotoPublish.Text.CodeRanges

/-!
# Digits

A *decimal digit* is a digit of a positional number system of any script (general category Nd); its
value is its place in its run of ten. A *digit character* may also be a digit outside positional
notation, such as a superscript or a circled digit; those have no place in a numeral.
-/

set_option autoImplicit false

namespace PhotoPublish.Text

/-- The runs of decimal digits, Unicode 14. Each run starts with a zero and is a whole number of
tens long. -/
def decimalRuns : CodeRanges := ⟨#[
  (1632, 1641), (1776, 1785), (1984, 1993), (2406, 2415), (2534, 2543), (2662, 2671),
  (2790, 2799), (2918, 2927), (3046, 3055), (3174, 3183), (3302, 3311), (3430, 3439),
  (3558, 3567), (3664, 3673), (3792, 3801), (3872, 3881), (4160, 4169), (4240, 4249),
  (6112, 6121), (6160, 6169), (6470, 6479), (6608, 6617), (6784, 6793), (6800, 6809),
  (6992, 7001), (7088, 7097), (7232, 7241), (7248, 7257), (42528, 42537), (43216, 43225),
  (43264, 43273), (43472, 43481), (43504, 43513), (43600, 43609), (44016, 44025), (65296, 65305),
  (66720, 66729), (68912, 68921), (69734, 69743), (69872, 69881), (69942, 69951), (70096, 70105),
  (70384, 70393), (70736, 70745), (70864, 70873), (71248, 71257), (71360, 71369), (71472, 71481),
  (71904, 71913), (72016, 72025), (72784, 72793), (73040, 73049), (73120, 73129), (92768, 92777),
  (92864, 92873), (93008, 93017), (120782, 120831), (123200, 123209), (123632, 123641),
  (125264, 125273), (130032, 130041)]⟩

/-- Digits outside positional notation, Unicode 14. -/
def isolatedDigitRanges : CodeRanges := ⟨#[
  (178, 179), (185, 185), (4969, 4977), (6618, 6618), (8304, 8304), (8308, 8313), (8320, 8329),
  (9312, 9320), (9332, 9340), (9352, 9360), (9450, 9450), (9461, 9469), (9471, 9471),
  (10102, 10110), (10112, 10120), (10122, 10130), (68160, 68163), (69216, 69224), (69714, 69722),
  (127232, 127242)]⟩

end PhotoPublish.Text

namespace PhotoPublish

/-- The value of a decimal digit, `none` for any other character. -/
def digitValue? (c : Char) : Option Nat :=
  if c.isDigit then some (c.toNat - 48)
  else if c.toNat ≤ 0x7f then none
  else (Text.decimalRuns.find? c.toNat).map fun run => (c.toNat - run.1) % 10

/-- A decimal digit of any script. -/
def isDecimal (c : Char) : Bool :=
  (digitValue? c).isSome

/-- A decimal digit, or a digit outside positional notation. -/
def isDigitCharacter (c : Char) : Bool :=
  isDecimal c || (0x7f < c.toNat && Text.isolatedDigitRanges.contains c.toNat)

/-- The number that a run of decimal digits denotes; other characters count as zero. -/
def numeralValue (digits : List Char) : Nat :=
  digits.foldl (fun n c => 10 * n + (digitValue? c).getD 0) 0

end PhotoPublish
