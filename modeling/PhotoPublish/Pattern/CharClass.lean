import PhotoPublish.Text.Alphanumeric
import PhotoPublish.Text.Blank
import PhotoPublish.Text.Case
import PhotoPublish.Text.Digit

/-!
# Classes of single characters

A `CharClass` is the test that a pattern applies to one character: membership in a list of code
points, ranges and categories, possibly negated, and possibly after the character has been folded to
lower case. Members are stored so that `CharClass.accepts` folds the tested character only: a folded
code stands with the codes that have the same upper case, a folded range keeps its bounds.
-/

set_option autoImplicit false

namespace PhotoPublish.Pattern

/-- How characters are folded before they are compared. -/
inductive Fold where
  | none
  | ascii
  | unicode
deriving DecidableEq, Repr, Inhabited

/-- Categories of characters. -/
inductive Category where
  | digit
  | blank
  | word
deriving DecidableEq, Repr

/-- A member of a character class. -/
inductive ClassItem where
  | code (code : Nat)
  | range (first last : Nat)
  /-- The characters that fold to the same as one of the range. -/
  | foldedRange (first last : Nat)
  | category (category : Category) (negated ascii : Bool)
deriving DecidableEq, Repr

/-- A test on one character. -/
structure CharClass where
  fold : Fold
  negated : Bool
  items : List ClassItem
deriving DecidableEq, Repr

/-- Lower-case code points with the other lower-case code points of the same upper case. -/
def sameUpper : List (Nat × List Nat) := [
  (0x69, [0x131]), (0x73, [0x17f]), (0xb5, [0x3bc]), (0x131, [0x69]), (0x17f, [0x73]),
  (0x345, [0x3b9, 0x1fbe]), (0x390, [0x1fd3]), (0x3b0, [0x1fe3]), (0x3b2, [0x3d0]),
  (0x3b5, [0x3f5]), (0x3b8, [0x3d1]), (0x3b9, [0x345, 0x1fbe]), (0x3ba, [0x3f0]),
  (0x3bc, [0xb5]), (0x3c0, [0x3d6]), (0x3c1, [0x3f1]), (0x3c2, [0x3c3]), (0x3c3, [0x3c2]),
  (0x3c6, [0x3d5]), (0x3d0, [0x3b2]), (0x3d1, [0x3b8]), (0x3d5, [0x3c6]), (0x3d6, [0x3c0]),
  (0x3f0, [0x3ba]), (0x3f1, [0x3c1]), (0x3f5, [0x3b5]), (0x432, [0x1c80]), (0x434, [0x1c81]),
  (0x43e, [0x1c82]), (0x441, [0x1c83]), (0x442, [0x1c84, 0x1c85]), (0x44a, [0x1c86]),
  (0x463, [0x1c87]), (0x1c80, [0x432]), (0x1c81, [0x434]), (0x1c82, [0x43e]), (0x1c83, [0x441]),
  (0x1c84, [0x442, 0x1c85]), (0x1c85, [0x442, 0x1c84]), (0x1c86, [0x44a]), (0x1c87, [0x463]),
  (0x1c88, [0xa64b]), (0x1e61, [0x1e9b]), (0x1e9b, [0x1e61]), (0x1fbe, [0x345, 0x3b9]),
  (0x1fd3, [0x390]), (0x1fe3, [0x3b0]), (0xa64b, [0x1c88]), (0xfb05, [0xfb06]),
  (0xfb06, [0xfb05])]

/-- The last code point of the basic plane. -/
def lastBasic : Nat := 0xffff

/-- The code point as a character, if it is one. -/
def charOf? (code : Nat) : Option Char :=
  if code.isValidChar then some (Char.ofNat code) else Option.none

/-- A code point after folding. -/
def Fold.apply (fold : Fold) (code : Nat) : Nat :=
  match fold, charOf? code with
  | .none, _ => code
  | _, Option.none => code
  | .ascii, some c => c.toLower.toNat
  | .unicode, some c => (lowerChar c).toNat

/-- Whether folding makes a difference to a code point. -/
def Fold.isCased (fold : Fold) (code : Nat) : Bool :=
  match fold, charOf? code with
  | .none, _ => false
  | _, Option.none => false
  | .ascii, some c => c.isAlpha
  | .unicode, some c => PhotoPublish.isCased c

/-- A folded code point and those with the same upper case. -/
def Fold.companions (fold : Fold) (folded : Nat) : List Nat :=
  match fold with
  | .unicode => folded :: (sameUpper.lookup folded).getD []
  | _ => [folded]

/-- Whether a code point of the basic plane between the bounds folds to `folded`. -/
def Fold.meetsRange (fold : Fold) (first last folded : Nat) : Bool :=
  let inside (code : Nat) : Bool := first ≤ code && code ≤ last && code ≤ lastBasic
  match fold with
  | .none => inside folded
  | .ascii =>
    (fold.apply folded == folded && inside folded) ||
      (97 ≤ folded && folded ≤ 122 && inside (folded - 32))
  | .unicode =>
    (fold.apply folded == folded && inside folded) ||
      (97 ≤ folded && folded ≤ 122 && inside (folded - 32)) ||
      (folded == 0x69 && inside 0x130) ||
      Text.lowerRuns.any fun (start, stop, step, shift) =>
        let code := ((folded : Int) - shift).toNat
        start ≤ code && code ≤ stop && (code - start) % step == 0 && inside code

/-- Whether a character is in a category. -/
def Category.holds (category : Category) (ascii : Bool) (c : Char) : Bool :=
  match category, ascii with
  | .digit, false => isDecimal c
  | .blank, false => isBlank c
  | .word, false => isWord c
  | .digit, true => c.isDigit
  | .blank, true => isAsciiBlank c
  | .word, true => c.isAlphanum || c == '_'

/-- Whether a folded character is a member. -/
def ClassItem.holds (fold : Fold) (c : Char) : ClassItem → Bool
  | .code n => c.toNat == n
  | .range first last => first ≤ c.toNat && c.toNat ≤ last
  | .foldedRange first last =>
    (fold.companions c.toNat).any (fold.meetsRange first last) ||
      (lastBasic < last && ((first ≤ c.toNat && c.toNat ≤ last) ||
        (first ≤ (upperChar c).toNat && (upperChar c).toNat ≤ last)))
  | .category kind negated ascii => kind.holds ascii c != negated

namespace CharClass

/-- Whether the class accepts a character. -/
def accepts (cls : CharClass) (c : Char) : Bool :=
  let folded := (charOf? (cls.fold.apply c.toNat)).getD c
  cls.items.any (ClassItem.holds cls.fold folded) != cls.negated

/-- The class of one code point, or of all others. -/
def single (fold : Fold) (negated : Bool) (code : Nat) : CharClass :=
  if fold.isCased code then
    ⟨fold, negated, (fold.companions (fold.apply code)).map .code⟩
  else ⟨.none, negated, [.code code]⟩

/-- Whether a member makes folding necessary. -/
def needsFold (fold : Fold) : ClassItem → Bool
  | .code code => fold.isCased code || lastBasic < code
  | .range first last =>
    lastBasic < last || (List.range (last + 1 - first)).any fun i => fold.isCased (first + i)
  | _ => false

/-- A member as it is stored in a folded class. A code beyond the basic plane stays as it is. -/
def foldItem (fold : Fold) : ClassItem → List ClassItem
  | .code code =>
    if lastBasic < code then [.code code]
    else (fold.companions (fold.apply code)).map .code
  | .range first last => [.foldedRange first last]
  | item => [item]

/-- The class of the listed members; it folds only if a member has another case. -/
def ofItems (fold : Fold) (negated : Bool) (items : List ClassItem) : CharClass :=
  if fold ≠ .none ∧ items.any (needsFold fold) then ⟨fold, negated, items.flatMap (foldItem fold)⟩
  else ⟨.none, negated, items⟩

/-- Any character but a line feed. -/
def notLineFeed : CharClass := ⟨.none, true, [.code 10]⟩

/-- Any character. -/
def anything : CharClass := ⟨.none, true, []⟩

end CharClass

end PhotoPublish.Pattern
