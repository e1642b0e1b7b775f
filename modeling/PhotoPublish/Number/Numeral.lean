import PhotoPublish.Text.Basic

/-!
# Numerals

The decimal text of whole numbers, and numerals padded with zeros to a width.
-/

set_option autoImplicit false

namespace PhotoPublish.Numeral

/-- Most digits of a numeral, be it written or read in a base other than a power of two. -/
def longest : Nat := 4300

/-- The decimal digits of a number. -/
def ofNat (n : Nat) : Text :=
  Nat.toDigits 10 n

/-- The decimal digits, after a minus sign for a negative number. -/
def ofInt : Int → Text
  | .ofNat n => ofNat n
  | .negSucc n => '-' :: ofNat (n + 1)

/-- A text filled up on the left to a width. -/
def padLeft (fill : Char) (width : Nat) (text : Text) : Text :=
  List.replicate (width - text.length) fill ++ text

/-- The decimal digits, with leading zeros up to the width. -/
def padded (width n : Nat) : Text :=
  padLeft '0' width (ofNat n)

/-- Lower-case hexadecimal digits, with leading zeros up to the width. -/
def hex (width n : Nat) : Text :=
  padLeft '0' width (Nat.toDigits 16 n)

end PhotoPublish.Numeral
