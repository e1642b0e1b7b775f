import PhotoPublish.Number.Numeral
import PhotoPublish.Text.Printable

/-!
# Quoted text

`Text.quoted` writes a text between quotes, on one line and in printable characters. The quote is an
apostrophe, unless the text holds an apostrophe and no double quote. The quote itself and the
backslash are escaped by a backslash, an unprintable character is written as the shortest of `\x`,
`\u` and `\U` with two, four or eight hexadecimal digits.
-/

set_option autoImplicit false

namespace PhotoPublish.Text

/-- The quote that a text is written between. -/
def quoteFor (text : Text) : Char :=
  if text.contains '\'' && !text.contains '"' then '"' else '\''

/-- One character as it stands between quotes. -/
def quotedChar (quote c : Char) : Text :=
  if c = quote ∨ c = '\\' then ['\\', c]
  else if c = '\t' then ['\\', 't']
  else if c = '\n' then ['\\', 'n']
  else if c = '\r' then ['\\', 'r']
  else if isPrintable c then [c]
  else if c.toNat ≤ 0xff then '\\' :: 'x' :: Numeral.hex 2 c.toNat
  else if c.toNat ≤ 0xffff then '\\' :: 'u' :: Numeral.hex 4 c.toNat
  else '\\' :: 'U' :: Numeral.hex 8 c.toNat

/-- The text between quotes. -/
def quoted (text : Text) : Text :=
  let quote := quoteFor text
  quote :: text.flatMap (quotedChar quote) ++ [quote]

end PhotoPublish.Text
