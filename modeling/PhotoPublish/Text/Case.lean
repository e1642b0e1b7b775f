import PhotoPublish.Text.Basic
import PhotoPublish.Text.CaseTables

/-!
# Upper and lower case

`Text.lower` and `Text.upper` are the full case mappings of Unicode 14, independent of language: one
character may become several, and a capital sigma at the end of a word becomes a final sigma.
`lowerChar` and `upperChar` are the one-character mappings, which comparisons of single characters
use; each is the first character of the full mapping.
-/

set_option autoImplicit false

namespace PhotoPublish

namespace Text

/-- The run of a case table that maps the code point; `fuel` bounds the halvings. -/
def findRun (runs : Array CaseRun) (code : Nat) : Nat → Nat → Nat → Option Int
  | 0, _, _ => none
  | fuel + 1, low, high =>
    if high ≤ low then none
    else
      let middle := (low + high) / 2
      match runs[middle]? with
      | none => none
      | some (first, last, step, shift) =>
        if code < first then findRun runs code fuel low middle
        else if last < code then findRun runs code fuel (middle + 1) high
        else if (code - first) % step = 0 then some shift else none

/-- The character shifted as a case table says, or itself. -/
def shiftBy (runs : Array CaseRun) (c : Char) : Char :=
  match findRun runs c.toNat (runs.size + 1) 0 runs.size with
  | some shift => Char.ofNat (c.toNat + shift).toNat
  | none => c

/-- The full upper case of one character. -/
def upperOf (c : Char) : Text :=
  if c.toNat ≤ 0x7f then [c.toUpper]
  else match upperExpansions.lookup c.toNat with
    | some codes => codes.map Char.ofNat
    | none => [shiftBy upperRuns c]

end Text

/-- The one-character lower case. -/
def lowerChar (c : Char) : Char :=
  if c.toNat ≤ 0x7f then c.toLower
  else if c = 'İ' then 'i'
  else Text.shiftBy Text.lowerRuns c

/-- The one-character upper case: the first character of the full one. -/
def upperChar (c : Char) : Char :=
  (Text.upperOf c).headD c

/-- Differs from its own lower or upper case. -/
def isCased (c : Char) : Bool :=
  lowerChar c != c || upperChar c != c

namespace Text

/-- Whether the nearest character that is not case-ignorable is a cased one. -/
def meetsCased : Text → Bool
  | [] => false
  | c :: rest =>
    if caseIgnorableRanges.contains c.toNat then meetsCased rest
    else casedRanges.contains c.toNat

/-- Lower case of `text`, where `before` precedes it in reverse. -/
def lowerAfter (before : Text) : Text → Text
  | [] => []
  | c :: rest =>
    let mapped :=
      if c = 'Σ' then [if meetsCased before && !meetsCased rest then 'ς' else 'σ']
      else if c = 'İ' then ['i', '\u0307']
      else [lowerChar c]
    mapped ++ lowerAfter (c :: before) rest

/-- The full lower case of a text. -/
def lower (text : Text) : Text :=
  lowerAfter [] text

/-- The full upper case of a text. -/
def upper (text : Text) : Text :=
  text.flatMap upperOf

end Text

end PhotoPublish
