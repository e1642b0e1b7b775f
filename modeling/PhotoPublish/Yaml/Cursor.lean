import PhotoPublish.Failure

/-!
# Places in a document

A `Cursor` is a place in the text of a document: what follows, and the index, line and column where
it stands. The end of the text shows as a NUL, which no document holds. This module also has the
classes of characters that the notation is made of.
-/

set_option autoImplicit false

namespace PhotoPublish.Yaml

/-- Why a document has no value. -/
inductive Fault where
  /-- The text breaks a rule of the notation. -/
  | malformed
  /-- Reading fails otherwise, as for a scalar that has no value of its type. -/
  | failure (cause : Failure)

/-- A character that may stand in a document. -/
def isPrintable (c : Char) : Bool :=
  let n := c.toNat
  n == 9 || n == 10 || n == 13 || (0x20 ≤ n && n ≤ 0x7e) || n == 0x85 ||
    (0xa0 ≤ n && n ≤ 0xfffd) || 0x10000 ≤ n

/-- A character that ends a line. -/
def isBreak (c : Char) : Bool :=
  c == '\r' || c == '\n' || c == '\x85' || c == '\u2028' || c == '\u2029'

/-- The end of a line or of the text. -/
def isLineEnd (c : Char) : Bool :=
  c == '\x00' || isBreak c

/-- A space, or the end of a line or of the text. -/
def isSpaceOrEnd (c : Char) : Bool :=
  c == ' ' || isLineEnd c

/-- A space, a tab, or the end of a line or of the text. -/
def isBlankOrEnd (c : Char) : Bool :=
  c == '\t' || isSpaceOrEnd c

/-- A character of a name: an ASCII letter or digit, a hyphen or an underscore. -/
def isNameChar (c : Char) : Bool :=
  c.isAlphanum || c == '-' || c == '_'

/-- A character of a tag. -/
def isTagChar (c : Char) : Bool :=
  c.isAlphanum || "-;/?:@&=+$,_.!~*'()[]%".toList.contains c

/-- A place in a text. -/
structure Cursor where
  rest : List Char
  index : Nat := 0
  line : Nat := 0
  column : Nat := 0

namespace Cursor

/-- The character a number of places ahead; NUL past the end. -/
def peek (cur : Cursor) (ahead : Nat := 0) : Char :=
  (cur.rest[ahead]?).getD '\x00'

/-- The place after the next character. A byte order mark takes no column. -/
def next (cur : Cursor) : Cursor :=
  match cur.rest with
  | [] => cur
  | c :: rest =>
    if c = '\r' ∧ rest.head? = some '\n' then
      { cur with rest := rest, index := cur.index + 1, column := cur.column + 1 }
    else if isBreak c then
      { rest := rest, index := cur.index + 1, line := cur.line + 1, column := 0 }
    else if c = '\ufeff' then { cur with rest := rest, index := cur.index + 1 }
    else { cur with rest := rest, index := cur.index + 1, column := cur.column + 1 }

/-- The place a number of characters ahead. -/
def forward : Nat → Cursor → Cursor
  | 0, cur => cur
  | n + 1, cur => forward n cur.next

/-- The characters of a class that come next, and the place after them. -/
def span (holds : Char → Bool) (cur : Cursor) : Text × Cursor :=
  let run := cur.rest.takeWhile holds
  (run, cur.forward run.length)

/-- The place after the characters of a class that come next. -/
def skip (holds : Char → Bool) (cur : Cursor) : Cursor :=
  (cur.span holds).2

/-- Takes the end of a line, if the line ends here: a carriage return, a line feed, both, or a next
line sign count as a line feed; the other signs stand for themselves. -/
def takeBreak (cur : Cursor) : Text × Cursor :=
  let c := cur.peek
  if c = '\r' ∧ cur.peek 1 = '\n' then (['\n'], cur.forward 2)
  else if c = '\r' ∨ c = '\n' ∨ c = '\x85' then (['\n'], cur.next)
  else if c = '\u2028' ∨ c = '\u2029' then ([c], cur.next)
  else ([], cur)

/-- Whether a line begins with a document sign here: three equal signs and a blank or the end. -/
def startsWithSign (cur : Cursor) (sign : Char) : Bool :=
  cur.peek == sign && cur.peek 1 == sign && cur.peek 2 == sign && isBlankOrEnd (cur.peek 3)

/-- Whether a document starts or ends here. -/
def atDocumentSign (cur : Cursor) : Bool :=
  cur.startsWithSign '-' || cur.startsWithSign '.'

/-- The place after a comment, if one stands here. -/
def skipComment (cur : Cursor) : Cursor :=
  if cur.peek = '#' then cur.skip (fun c => !isLineEnd c) else cur

end Cursor

end PhotoPublish.Yaml
