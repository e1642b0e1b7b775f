import PhotoPublish.Text.Alphanumeric
import PhotoPublish.Text.Blank
import PhotoPublish.Text.Digit

/-!
# Arguments of placeholders

The arguments of a placeholder are a key and perhaps a pattern, with blanks between them.
-/

set_option autoImplicit false

namespace PhotoPublish

/-- What a key is made of. -/
inductive KeyKind where
  /-- Word characters. -/
  | word
  /-- Decimal digits. -/
  | level
deriving DecidableEq, Repr

namespace KeyKind

/-- Whether a key may hold a character. -/
def holds : KeyKind → Char → Bool
  | word => isWord
  | level => isDecimal

end KeyKind

/-- The pattern that follows the blanks between key and pattern. If nothing follows them, the last of two
or more blanks is the pattern. -/
def patternAfter (blanks rest : Text) : Option Text :=
  if !rest.isEmpty && !blanks.isEmpty then some rest
  else if 2 ≤ blanks.length then blanks.getLast?.map fun c => [c]
  else none

/-- The key and the pattern of a placeholder's arguments. Arguments of any other form are a key as they
stand, without the blanks around them. -/
def splitArguments (kind : KeyKind) (args : Text) : Text × Option Text :=
  let body := args.trimLeft
  let key := body.takeWhile kind.holds
  let rest := body.dropWhile kind.holds
  let pattern := patternAfter (rest.takeWhile isBlank) (rest.dropWhile isBlank)
  if key.isEmpty || pattern.isNone then (args.trim, none) else (key, pattern)

end PhotoPublish
