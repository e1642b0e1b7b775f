import PhotoPublish.Text.Basic

/-!
# Blank characters

`isBlank` is the class of white space of any script: the ASCII blanks, the four information
separators, and the spaces, line and paragraph separators of Unicode. `isAsciiBlank` is the class of
the ASCII blanks alone. `trimLeft`, `trimRight` and
`trim` cut runs of blanks off the ends of a text.
-/

set_option autoImplicit false

namespace PhotoPublish

/-- White space of any script. -/
def isBlank (c : Char) : Bool :=
  let code := c.toNat
  (9 ≤ code && code ≤ 13) || (28 ≤ code && code ≤ 32) || code == 0x85 || code == 0xa0 ||
    code == 0x1680 || (0x2000 ≤ code && code ≤ 0x200a) || code == 0x2028 || code == 0x2029 ||
    code == 0x202f || code == 0x205f || code == 0x3000

/-- A space, or a tab or line break of ASCII. -/
def isAsciiBlank (c : Char) : Bool :=
  c == ' ' || (9 ≤ c.toNat && c.toNat ≤ 13)

namespace Text

/-- The text without its leading blanks. -/
def trimLeft (text : Text) : Text :=
  text.dropWhile isBlank

/-- The text without its trailing blanks. -/
def trimRight (text : Text) : Text :=
  (text.reverse.dropWhile isBlank).reverse

/-- The text without leading and trailing blanks. -/
def trim (text : Text) : Text :=
  text.trimLeft.trimRight

end Text

end PhotoPublish
