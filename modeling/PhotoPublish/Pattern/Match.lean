import PhotoPublish.Pattern.Reader

/-!
# Matching patterns

`Node.matchAt` tries a tree at a position of a text and hands every way to match it, best first, to
a continuation, until that one succeeds. Marks of groups travel with the position, so that giving up
a way forgets its marks. A repetition that has matched the empty text does not go on.
`Pattern.search` finds the leftmost match, and `Pattern.extract` is what a placeholder takes from a
value: the first group of the match if the pattern has groups, otherwise the whole match.
-/

set_option autoImplicit false

namespace PhotoPublish.Pattern

/-- A position in the text and the marks of the groups: start and end of group `n` are the marks
`2 n - 2` and `2 n - 1`. -/
structure Place where
  position : Nat
  marks : Array (Option Nat)

namespace Place

/-- The place after one more character. -/
def step (place : Place) : Place :=
  { place with position := place.position + 1 }

/-- Sets a mark to the position. -/
def mark (place : Place) (index : Nat) : Place :=
  { place with marks := place.marks.setIfInBounds index (some place.position) }

/-- The bounds of a group that has matched. -/
def group? (place : Place) (index : Nat) : Option (Nat × Nat) := do
  let first ← (place.marks[2 * index - 2]?).join
  let last ← (place.marks[2 * index - 1]?).join
  if first ≤ last then some (first, last) else none

end Place

/-- What remains to be matched. -/
abbrev Continuation := Place → Option Place

/-- Whether the class accepts the character at a position. -/
def acceptsAt (input : Array Char) (cls : CharClass) (position : Nat) : Bool :=
  match input[position]? with
  | some c => cls.accepts c
  | none => false

/-- Whether a word character stands at a position. -/
def wordAt (input : Array Char) (ascii : Bool) (position : Nat) : Bool :=
  match input[position]? with
  | some c => Category.word.holds ascii c
  | none => false

namespace Anchor

/-- Whether a position passes the test. -/
def holds (input : Array Char) (position : Nat) : Anchor → Bool
  | textStart => position == 0
  | textEnd => position == input.size
  | lineStart => position == 0 || input[position - 1]? == some '\n'
  | lineEnd => position == input.size || input[position]? == some '\n'
  | lastLineEnd =>
    position == input.size || (position + 1 == input.size && input[position]? == some '\n')
  | wordBoundary negated ascii =>
    !input.isEmpty &&
      ((0 < position && wordAt input ascii (position - 1)) != wordAt input ascii position) != negated

end Anchor

/-- How many characters from a position on a class accepts, up to `limit`. -/
def runLength (input : Array Char) (cls : CharClass) : Nat → Nat → Nat
  | 0, _ => 0
  | limit + 1, position =>
    if acceptsAt input cls position then runLength input cls limit (position + 1) + 1 else 0

/-- Tries the continuation after `count + extra` characters for `extra` from the greatest down. -/
def tryDown (place : Place) (next : Continuation) (count : Nat) : Nat → Option Place
  | 0 => next { place with position := place.position + count }
  | extra + 1 =>
    match next { place with position := place.position + count + (extra + 1) } with
    | some found => some found
    | none => tryDown place next count extra

/-- Tries the continuation after `count` characters, then after one more at a time. -/
def tryUp (place : Place) (next : Continuation) (count : Nat) : Nat → Option Place
  | 0 => next { place with position := place.position + count }
  | extra + 1 =>
    match next { place with position := place.position + count } with
    | some found => some found
    | none => tryUp place next (count + 1) extra

/-- Repeats a class. -/
def repeatClass (input : Array Char) (cls : CharClass) (greed : Greed) (least : Nat)
    (most : Option Nat) (place : Place) (next : Continuation) : Option Place :=
  let room := input.size - place.position
  let count := runLength input cls (min room (most.getD room)) place.position
  if count < least then none
  else match greed with
    | .greedy => tryDown place next least (count - least)
    | .lazy => tryUp place next least (count - least)
    | .possessive => next { place with position := place.position + count }

/-- A body matched exactly `count` times. -/
def required (body : Place → Continuation → Option Place) :
    Nat → Place → Continuation → Option Place
  | 0, place, next => next place
  | count + 1, place, next => body place fun after => required body count after next

/-- A body matched as often as possible, `most` times at most. `last` is the position where the
previous optional round began; a round that ends there was empty. Each round but the last moves on,
so `fuel` above the characters left is enough. -/
def greedyRounds (body : Place → Continuation → Option Place) :
    Nat → Option Nat → Option Nat → Place → Continuation → Option Place
  | 0, _, _, place, next => next place
  | fuel + 1, most, last, place, next =>
    if most = some 0 ∨ last = some place.position then next place
    else
      match body place fun after =>
          greedyRounds body fuel (most.map (· - 1)) (some place.position) after next with
      | some found => some found
      | none => next place

/-- A body matched as rarely as possible. -/
def lazyRounds (body : Place → Continuation → Option Place) :
    Nat → Option Nat → Option Nat → Place → Continuation → Option Place
  | 0, _, _, place, next => next place
  | fuel + 1, most, last, place, next =>
    match next place with
    | some found => some found
    | none =>
      if most = some 0 ∨ last = some place.position then none
      else body place fun after =>
        lazyRounds body fuel (most.map (· - 1)) (some place.position) after next

/-- A body matched as often as possible, each round in its first way only. -/
def possessiveRounds (body : Place → Continuation → Option Place) :
    Nat → Option Nat → Option Nat → Place → Place
  | 0, _, _, place => place
  | fuel + 1, most, last, place =>
    if most = some 0 ∨ last = some place.position then place
    else
      match body place some with
      | some after =>
        possessiveRounds body fuel (most.map (· - 1)) (some place.position) after
      | none => place

/-- A body matched exactly `count` times, each round in its first way only. -/
def requiredFirst (body : Place → Continuation → Option Place) : Nat → Place → Option Place
  | 0, place => some place
  | count + 1, place => (body place some).bind (requiredFirst body count)

/-- Repeats a body. -/
def repeatBody (input : Array Char) (body : Place → Continuation → Option Place) (greed : Greed)
    (least : Nat) (most : Option Nat) (place : Place) (next : Continuation) : Option Place :=
  let rest := most.map (· - least)
  let fuel := input.size - place.position + 2
  match greed with
  | .greedy => required body least place fun after => greedyRounds body fuel rest none after next
  | .lazy => required body least place fun after => lazyRounds body fuel rest none after next
  | .possessive =>
    (requiredFirst body least place).bind fun after =>
      next (possessiveRounds body fuel rest none after)

/-- Whether `count` characters from two positions on are the same after folding. -/
def sameRun (input : Array Char) (fold : Fold) : Nat → Nat → Nat → Bool
  | 0, _, _ => true
  | count + 1, first, second =>
    match input[first]?, input[second]? with
    | some a, some b =>
      fold.apply a.toNat == fold.apply b.toNat && sameRun input fold count (first + 1) (second + 1)
    | _, _ => false

namespace Node

mutual

/-- The first way to match the tree at a place after which the continuation succeeds. -/
def matchAt (input : Array Char) : Node → Place → Continuation → Option Place
  | one cls, place, next => if acceptsAt input cls place.position then next place.step else none
  | anchor kind, place, next => if kind.holds input place.position then next place else none
  | seq items, place, next => matchSeq input items place next
  | alt branches, place, next => matchAlt input branches place next
  | group index body, place, next =>
    body.matchAt input (place.mark (2 * index - 2)) fun after => next (after.mark (2 * index - 1))
  | backref index fold _, place, next =>
    match place.group? index with
    | none => none
    | some (first, last) =>
      if sameRun input fold (last - first) first place.position then
        next { place with position := place.position + (last - first) }
      else none
  | repeated greed least most body, place, next =>
    match body.unit? with
    | some cls => repeatClass input cls greed least most place next
    | none => repeatBody input (fun p k => body.matchAt input p k) greed least most place next
  | look negated back body, place, next =>
    let start := { place with position := place.position - back }
    let found := if back ≤ place.position then body.matchAt input start some else none
    match found, negated with
    | some after, false => next { place with marks := after.marks }
    | none, true => next place
    | _, _ => none
  | atomic body, place, next => (body.matchAt input place some).bind next
  | conditional index yes no, place, next =>
    if (place.group? index).isSome then yes.matchAt input place next
    else no.matchAt input place next

/-- Trees one after the other. -/
def matchSeq (input : Array Char) : List Node → Place → Continuation → Option Place
  | [], place, next => next place
  | node :: rest, place, next =>
    node.matchAt input place fun after => matchSeq input rest after next

/-- The first alternative after which the continuation succeeds. -/
def matchAlt (input : Array Char) : List Node → Place → Continuation → Option Place
  | [], _, _ => none
  | node :: rest, place, next =>
    match node.matchAt input place next with
    | some found => some found
    | none => matchAlt input rest place next

end

end Node

/-- A match: where it begins, where it ends and the marks of its groups. -/
structure Found where
  start : Nat
  place : Place

namespace Compiled

/-- The leftmost match that begins at `start` or at one of the `count` positions after it. -/
def searchFrom (pattern : Compiled) (input : Array Char) : Nat → Nat → Option Found
  | count, start =>
    match pattern.root.matchAt input ⟨start, Array.replicate (2 * pattern.groups) none⟩ some with
    | some place => some ⟨start, place⟩
    | none =>
      match count with
      | 0 => none
      | count + 1 => searchFrom pattern input count (start + 1)

/-- The leftmost match in a text. -/
def search (pattern : Compiled) (text : Text) : Option Found :=
  let input := text.toArray
  pattern.searchFrom input input.size 0

end Compiled

variable [CharacterNames]

/-- Whether a pattern matches somewhere in a text. -/
def occursIn (pattern text : Text) : Except Fault Bool := do
  let compiled ← read pattern
  return (compiled.search text).isSome

/-- What a pattern takes from a text: `none` without a match, or if the pattern has groups and the
first one took no part in the match. -/
def extract (text pattern : Text) : Except Fault (Option Text) := do
  let compiled ← read pattern
  match compiled.search text with
  | none => return none
  | some found =>
    if compiled.groups = 0 then return some (text.slice found.start found.place.position)
    else return (found.place.group? 1).map fun (first, last) => text.slice first last

end PhotoPublish.Pattern
