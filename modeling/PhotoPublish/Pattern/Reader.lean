import PhotoPublish.Pattern.Syntax
import PhotoPublish.Number.Reading
import PhotoPublish.Text.Identifier

/-!
# Reading patterns

`Pattern.read` turns the text of a regular expression into a tree. The notation has alternatives,
groups (numbered, named, plain, atomic, with flags of their own), repetitions (greedy, lazy and
possessive), classes, anchors, looks ahead and behind, back references and conditionals. Flags for
the whole pattern stand at its start. The reader descends over a list of tokens, a backslash and the
character after it being one token; its fuel is a multiple of the number of tokens, and every step
that spends fuel either takes a token or is one of a bounded number between two tokens.

A pattern can refer to a character by its name. Which names there are is not said here: the reader
takes any `CharacterNames`.
-/

set_option autoImplicit false

namespace PhotoPublish.Pattern

/-- The names of characters. -/
class CharacterNames where
  /-- The character of a name, if it names one. -/
  named? : Text → Option Char

namespace CharacterNames

/-- No character has a name. -/
@[reducible] def none : CharacterNames :=
  ⟨fun _ => .none⟩

end CharacterNames

/-- Why a text is no pattern. -/
inductive Fault where
  | malformed
  /-- A repetition count that does not fit. -/
  | hugeCount
  /-- Flags for both sets of character classes. -/
  | conflictingFlags
deriving DecidableEq, Repr

/-- A character, or a character after a backslash. -/
inductive Token where
  | plain (c : Char)
  | escaped (c : Char)
deriving DecidableEq, Repr

/-- The tokens of a text, and whether a lone backslash follows them. -/
def tokens : Text → List Token × Bool
  | [] => ([], false)
  | ['\\'] => ([], true)
  | '\\' :: c :: rest =>
    let (more, dangling) := tokens rest
    (.escaped c :: more, dangling)
  | c :: rest =>
    let (more, dangling) := tokens rest
    (.plain c :: more, dangling)

/-- Settings of a part of a pattern. `unicode` records that it was asked for; classes are those of
Unicode unless `ascii` is set. -/
structure Flags where
  ignoreCase : Bool := false
  multiline : Bool := false
  dotAll : Bool := false
  verbose : Bool := false
  ascii : Bool := false
  unicode : Bool := false
  /-- Repetitions are not allowed. -/
  template : Bool := false
deriving DecidableEq, Repr

namespace Flags

/-- How characters are folded under these flags. -/
def fold (flags : Flags) : Fold :=
  if !flags.ignoreCase then .none else if flags.ascii then .ascii else .unicode

/-- The flag of a letter. -/
def ofLetter? : Char → Option Flags
  | 'i' => some { ignoreCase := true }
  | 'm' => some { multiline := true }
  | 's' => some { dotAll := true }
  | 'x' => some { verbose := true }
  | 'a' => some { ascii := true }
  | 'u' => some { unicode := true }
  | 't' => some { template := true }
  | _ => none

/-- All flags of both. -/
def union (a b : Flags) : Flags :=
  ⟨a.ignoreCase || b.ignoreCase, a.multiline || b.multiline, a.dotAll || b.dotAll,
    a.verbose || b.verbose, a.ascii || b.ascii, a.unicode || b.unicode, a.template || b.template⟩

/-- Whether a flag chooses a set of character classes. -/
def choosesClasses (flags : Flags) : Bool :=
  flags.ascii || flags.unicode

/-- The flags of a group that adds and removes some. -/
def changedBy (flags add del : Flags) : Flags :=
  let base := if add.choosesClasses then { flags with ascii := false, unicode := false } else flags
  let all := base.union add
  { all with
    ignoreCase := all.ignoreCase && !del.ignoreCase
    multiline := all.multiline && !del.multiline
    dotAll := all.dotAll && !del.dotAll
    verbose := all.verbose && !del.verbose }

/-- Whether the two have a flag in common. -/
def meets (a b : Flags) : Bool :=
  (a.ignoreCase && b.ignoreCase) || (a.multiline && b.multiline) || (a.dotAll && b.dotAll) ||
    (a.verbose && b.verbose)

end Flags

/-- What the reader knows: the tokens to come, the flags of the whole pattern, the width of each
group that is closed, the group names, the number of groups at the outermost look behind that is
open, and the groups that conditionals mention. -/
structure ReaderState where
  rest : List Token
  dangling : Bool
  flags : Flags := {}
  widths : Array (Option (Nat × Nat)) := #[none]
  names : List (Text × Nat) := []
  behind : Option Nat := none
  mentioned : List Nat := []
  variableBehind : Bool := false
  repeats : Bool := false

/-- A step of the reader. -/
abbrev Reader := StateT ReaderState (Except Fault)

/-- Refuses the pattern. -/
def malformed {α : Type} : Reader α :=
  throw .malformed

/-- The next token. -/
def peek : Reader (Option Token) :=
  return (← get).rest.head?

/-- Makes `rest` the tokens to come; a lone backslash is noticed when it is next. -/
def goOn (rest : List Token) : Reader Unit := do
  if rest.isEmpty && (← get).dangling then malformed
  modify fun s => { s with rest := rest }

/-- Takes the next token. -/
def next : Reader (Option Token) := do
  match (← get).rest with
  | [] => return none
  | token :: rest =>
    goOn rest
    return some token

/-- Takes the next token if it is this character. -/
def accept (c : Char) : Reader Bool := do
  if (← peek) = some (.plain c) then
    discard next
    return true
  else return false

/-- Takes up to a number of characters of a class. -/
def takeUpTo (holds : Char → Bool) : Nat → Reader Text
  | 0 => return []
  | n + 1 => do
    match ← peek with
    | some (.plain c) =>
      if holds c then
        discard next
        return c :: (← takeUpTo holds n)
      else return []
    | _ => return []

/-- Takes characters of a class as long as there are any. -/
def takeAll (holds : Char → Bool) : Reader Text := do
  takeUpTo holds (← get).rest.length

/-- What stands before the closing character, and the tokens after it. -/
def splitAtToken (closing : Char) : List Token → Option (Text × List Token)
  | [] => none
  | .plain c :: rest =>
    if c = closing then some ([], rest)
    else (splitAtToken closing rest).map fun (name, more) => (c :: name, more)
  | .escaped c :: rest =>
    (splitAtToken closing rest).map fun (name, more) => ('\\' :: c :: name, more)

/-- A name that is not empty, up to its closing character. -/
def takeName (closing : Char) : Reader Text := do
  match splitAtToken closing (← get).rest with
  | some (c :: name, rest) =>
    goOn rest
    return c :: name
  | _ => malformed

/-- A hexadecimal digit. -/
def isHexDigit (c : Char) : Bool :=
  (Numeral.digitOf? 16 c).isSome

/-- An octal digit. -/
def isOctalDigit (c : Char) : Bool :=
  '0' ≤ c && c ≤ '7'

/-- The number that digits denote in a base. -/
def valueOf (base : Nat) (digits : Text) : Nat :=
  digits.foldl (fun n c => base * n + (Numeral.digitOf? base c).getD 0) 0

/-- Exactly `count` hexadecimal digits. -/
def takeHex (count : Nat) : Reader Nat := do
  let digits ← takeUpTo isHexDigit count
  if digits.length = count then return valueOf 16 digits else malformed

/-- The control character of an escape. -/
def controlEscape? : Char → Option Nat
  | 'a' => some 7
  | 'b' => some 8
  | 'f' => some 12
  | 'n' => some 10
  | 'r' => some 13
  | 't' => some 9
  | 'v' => some 11
  | '\\' => some 92
  | _ => none

/-- The category of an escape. -/
def categoryEscape? (ascii : Bool) : Char → Option ClassItem
  | 'd' => some (.category .digit false ascii)
  | 'D' => some (.category .digit true ascii)
  | 's' => some (.category .blank false ascii)
  | 'S' => some (.category .blank true ascii)
  | 'w' => some (.category .word false ascii)
  | 'W' => some (.category .word true ascii)
  | _ => none

/-- The anchor of an escape. -/
def anchorEscape? (ascii : Bool) : Char → Option Anchor
  | 'A' => some .textStart
  | 'Z' => some .textEnd
  | 'b' => some (.wordBoundary false ascii)
  | 'B' => some (.wordBoundary true ascii)
  | _ => none

variable [CharacterNames]

/-- The code point of an escape by number or by name, if the letter starts one. -/
def takeCodeEscape (c : Char) : Reader (Option Nat) := do
  if c = 'x' then return some (← takeHex 2)
  else if c = 'u' then return some (← takeHex 4)
  else if c = 'U' then
    let code ← takeHex 8
    if code < 0x110000 then return some code else malformed
  else if c = 'N' then
    if ← accept '\x7b' then
      match CharacterNames.named? (← takeName '\x7d') with
      | some c => return some c.toNat
      | none => malformed
    else malformed
  else return none

/-- The escape of a character that stands for itself; letters and digits do not. -/
def literalEscape (c : Char) : Reader Nat :=
  if c.isAlphanum then malformed else return c.toNat

/-- A member of a class after a backslash. -/
def takeClassEscape (ascii : Bool) (c : Char) : Reader ClassItem := do
  match controlEscape? c with
  | some code => return .code code
  | none =>
    match categoryEscape? ascii c with
    | some item => return item
    | none =>
      match ← takeCodeEscape c with
      | some code => return .code code
      | none =>
        if isOctalDigit c then
          let code := valueOf 8 (c :: (← takeUpTo isOctalDigit 2))
          if code ≤ 255 then return .code code else malformed
        else return .code (← literalEscape c)

/-- A member of a class that starts with this token. -/
def takeClassMember (ascii : Bool) : Token → Reader ClassItem
  | .plain c => return .code c.toNat
  | .escaped c => takeClassEscape ascii c

/-- The members of a class up to its closing bracket. A bracket in the first place is a member. -/
def takeClassItems (ascii : Bool) : Nat → List ClassItem → Reader (List ClassItem)
  | 0, _ => malformed
  | fuel + 1, items => do
    match ← next with
    | none => malformed
    | some token =>
      if token = .plain ']' ∧ !items.isEmpty then return items
      let first ← takeClassMember ascii token
      if ← accept '-' then
        match ← next with
        | none => malformed
        | some token' =>
          if token' = .plain ']' then return items ++ [first, .code 45]
          match first, ← takeClassMember ascii token' with
          | .code low, .code high =>
            if high < low then malformed
            takeClassItems ascii fuel (items ++ [.range low high])
          | _, _ => malformed
      else takeClassItems ascii fuel (items ++ [first])

/-- The class after an opening bracket. -/
def takeClass (flags : Flags) : Reader CharClass := do
  let negated ← accept '^'
  let items ← takeClassItems flags.ascii ((← get).rest.length + 1) []
  match items.eraseDups with
  | [.code code] => return .single flags.fold negated code
  | items => return .ofItems flags.fold negated items

/-! ## Groups and references -/

/-- The width of a closed group. -/
def closedWidth? (s : ReaderState) (index : Nat) : Option (Nat × Nat) :=
  (s.widths[index]?).join

/-- Refuses a group that is open, or that was opened in the look behind that is open. -/
def checkBehind (index : Nat) : Reader Unit := do
  let s ← get
  match s.behind with
  | none => return
  | some groups =>
    if (closedWidth? s index).isNone || groups ≤ index then malformed

/-- A reference to a closed group. -/
def backReference (flags : Flags) (index : Nat) : Reader Node := do
  match closedWidth? (← get) index with
  | none => malformed
  | some width =>
    checkBehind index
    return .backref index flags.fold width

/-- Opens the next group. -/
def openGroup (name : Option Text) : Reader Nat := do
  let s ← get
  let index := s.widths.size
  match name with
  | none => set { s with widths := s.widths.push none }
  | some name =>
    if (s.names.lookup name).isSome then malformed
    set { s with widths := s.widths.push none, names := (name, index) :: s.names }
  return index

/-- Closes a group. -/
def closeGroup (index : Nat) (body : Node) : Reader Unit :=
  modify fun s => { s with widths := s.widths.setIfInBounds index (some body.width) }

/-- The node of an escape. A number refers to a group, unless it has three octal digits or starts
with a zero. -/
def takeEscape (flags : Flags) (c : Char) : Reader Node := do
  let literal (code : Nat) : Node := .one (.single flags.fold false code)
  match anchorEscape? flags.ascii c with
  | some kind => return .anchor kind
  | none =>
    match categoryEscape? flags.ascii c with
    | some item => return .one (.ofItems flags.fold false [item])
    | none =>
      match controlEscape? c with
      | some code => return literal code
      | none =>
        match ← takeCodeEscape c with
        | some code => return literal code
        | none =>
          if c = '0' then return literal (valueOf 8 (c :: (← takeUpTo isOctalDigit 2)))
          else if c.isDigit then
            match ← takeUpTo Char.isDigit 1 with
            | [] => backReference flags (valueOf 10 [c])
            | d :: _ =>
              if isOctalDigit c && isOctalDigit d then
                match ← takeUpTo isOctalDigit 1 with
                | [] => backReference flags (valueOf 10 [c, d])
                | e :: _ =>
                  let code := valueOf 8 [c, d, e]
                  if code ≤ 255 then return literal code else malformed
              else backReference flags (valueOf 10 [c, d])
          else return literal (← literalEscape c)

/-- The number of a group that a conditional tests. -/
def takeCondition : Reader Nat := do
  let name ← takeName ')'
  if Text.isIdentifier name then
    match (← get).names.lookup name with
    | some index => return index
    | none => malformed
  else
    match Numeral.read 10 name with
    | .ok (.ofNat (index + 1)) =>
      modify fun s => { s with mentioned := (index + 1) :: s.mentioned }
      return index + 1
    | _ => malformed

/-- Flag letters from `letter` on, and the token that ends them. -/
def takeFlags (allowed : Flags → Flags → Bool) : Nat → Flags → Token → Reader (Flags × Char)
  | 0, _, _ => malformed
  | fuel + 1, flags, letter => do
    match letter with
    | .escaped _ => malformed
    | .plain c =>
      match Flags.ofLetter? c with
      | none => malformed
      | some flag =>
        if !allowed flags flag then malformed
        let flags := flags.union flag
        match ← next with
        | none => malformed
        | some (.escaped _) => malformed
        | some (.plain c) =>
          if c = ')' ∨ c = ':' ∨ c = '-' then return (flags, c)
          takeFlags allowed fuel flags (.plain c)

/-- A flag may be added unless both sets of classes would be chosen. -/
def mayAdd (flags flag : Flags) : Bool :=
  !((flags.union flag).ascii && (flags.union flag).unicode)

/-- A flag may be removed unless it chooses a set of classes. -/
def mayRemove (_ flag : Flags) : Bool :=
  !flag.choosesClasses

/-- Flags after an opening bracket and question mark: those of the whole pattern (`none`), or those
that the group adds and removes. -/
def takeGroupFlags (letter : Token) : Reader (Option (Flags × Flags)) := do
  let fuel := (← get).rest.length + 1
  let (add, closing) ←
    if letter = .plain '-' then pure (({} : Flags), '-') else takeFlags mayAdd fuel {} letter
  if closing = ')' then
    modify fun s => { s with flags := s.flags.union add }
    return none
  if add.template then malformed
  if closing = ':' then return some (add, {})
  match ← next with
  | none => malformed
  | some letter =>
    let (del, closing) ← takeFlags mayRemove fuel {} letter
    if closing ≠ ':' ∨ del.template ∨ add.meets del then malformed
    return some (add, del)

/-! ## Repetitions -/

/-- The least and the greatest count of a repetition sign; `none` if a brace is no such sign. -/
def takeCounts (sign : Char) : Reader (Option (Nat × Option Nat)) := do
  if sign = '?' then return some (0, some 1)
  else if sign = '*' then return some (0, none)
  else if sign = '+' then return some (1, none)
  else
    let before := (← get).rest
    if (← peek) = some (.plain '\x7d') then return none
    let low ← takeAll Char.isDigit
    let high ← if ← accept ',' then takeAll Char.isDigit else pure low
    if ← accept '\x7d' then
      let least := valueOf 10 low
      let most := valueOf 10 high
      if widthCap ≤ least then throw .hugeCount
      if high.isEmpty then return some (least, none)
      if widthCap ≤ most then throw .hugeCount
      if most < least then malformed
      return some (least, some most)
    else
      modify fun s => { s with rest := before }
      return none

/-- The sign behind a repetition that says how greedy it is. -/
def takeGreed : Reader Greed := do
  if ← accept '?' then return .lazy
  else if ← accept '+' then return .possessive
  else return .greedy

/-- The last node repeated; an anchor or a repetition cannot be. -/
def repeatLast (least : Nat) (most : Option Nat) (items : List Node) : Reader (List Node) := do
  match items with
  | [] => malformed
  | .anchor _ :: _ => malformed
  | .repeated _ _ _ _ :: _ => malformed
  | last :: before =>
    modify fun s => { s with repeats := true }
    let greed ← takeGreed
    return .repeated greed least most last :: before

/-- Whether a look asks for a match or for none. -/
def takeNegation : Reader Bool := do
  if ← accept '=' then return false
  else if ← accept '!' then return true
  else malformed

/-! ## Descent -/

/-- Where the reader is: the flags of the group around it, or none in the outermost sequence, whose
flags are those of the whole pattern. -/
structure Scope where
  inner : Option Flags

/-- The flags that hold in a scope. -/
def Scope.flags (scope : Scope) : Reader Flags := do
  match scope.inner with
  | some flags => return flags
  | none => return (← get).flags

/-- Drops tokens up to and including the first one of this character. -/
def dropThrough (c : Char) : List Token → Option (List Token)
  | [] => none
  | token :: rest => if token = .plain c then some rest else dropThrough c rest

/-- Skips a comment that runs to the end of the line. -/
def skipLine : Reader Unit := do
  goOn ((dropThrough '\n' (← get).rest).getD [])

mutual

/-- Alternatives up to the end or a closing bracket. -/
def takeAlternatives : Nat → Scope → Reader Node
  | 0, _ => malformed
  | fuel + 1, scope => do
    match ← takeBranches fuel scope scope.inner.isNone with
    | [branch] => return branch
    | branches => return .alt branches

/-- The branches of an alternative; `first` where flags for the whole pattern may stand. -/
def takeBranches : Nat → Scope → Bool → Reader (List Node)
  | 0, _, _ => malformed
  | fuel + 1, scope, first => do
    let items ← takeSequence fuel scope first []
    if ← accept '|' then return .seq items :: (← takeBranches fuel scope false)
    else return [.seq items]

/-- Nodes up to the end, a bar or a closing bracket; `items` are those before, last first. -/
def takeSequence : Nat → Scope → Bool → List Node → Reader (List Node)
  | 0, _, _, _ => malformed
  | fuel + 1, scope, first, items => do
    match ← peek with
    | none => return items.reverse
    | some (.plain '|') => return items.reverse
    | some (.plain ')') => return items.reverse
    | some token =>
      discard next
      let flags ← scope.flags
      match token with
      | .escaped c => takeSequence fuel scope first ((← takeEscape flags c) :: items)
      | .plain c =>
        if flags.verbose && isAsciiBlank c then takeSequence fuel scope first items
        else if flags.verbose && c == '#' then
          skipLine
          takeSequence fuel scope first items
        else if c = '[' then
          takeSequence fuel scope first (.one (← takeClass flags) :: items)
        else if c = '.' then
          let cls := if flags.dotAll then CharClass.anything else CharClass.notLineFeed
          takeSequence fuel scope first (.one cls :: items)
        else if c = '^' then
          let kind := if flags.multiline then Anchor.lineStart else Anchor.textStart
          takeSequence fuel scope first (.anchor kind :: items)
        else if c = '$' then
          let kind := if flags.multiline then Anchor.lineEnd else Anchor.lastLineEnd
          takeSequence fuel scope first (.anchor kind :: items)
        else if c = '(' then
          match ← takeGroup fuel scope flags (first && items.isEmpty) with
          | some node => takeSequence fuel scope first (node :: items)
          | none => takeSequence fuel scope first items
        else if c = '*' ∨ c = '+' ∨ c = '?' ∨ c = '\x7b' then
          match ← takeCounts c with
          | some (least, most) =>
            takeSequence fuel scope first (← repeatLast least most items)
          | none =>
            takeSequence fuel scope first (.one (.single flags.fold false c.toNat) :: items)
        else takeSequence fuel scope first (.one (.single flags.fold false c.toNat) :: items)

/-- What follows an opening bracket; comments and flags of the whole pattern leave no node. -/
def takeGroup : Nat → Scope → Flags → Bool → Reader (Option Node)
  | 0, _, _, _ => malformed
  | fuel + 1, scope, flags, atStart => do
    let inner : Scope := ⟨some flags⟩
    if !(← accept '?') then return some (← takeNumbered fuel none flags)
    match ← next with
    | none => malformed
    | some (.escaped _) => malformed
    | some (.plain 'P') =>
      if ← accept '<' then
        let name ← takeName '>'
        if !Text.isIdentifier name then malformed
        return some (← takeNumbered fuel (some name) flags)
      else if ← accept '=' then
        let name ← takeName ')'
        if !Text.isIdentifier name then malformed
        match (← get).names.lookup name with
        | some index => return some (← backReference flags index)
        | none => malformed
      else malformed
    | some (.plain ':') => return some (← takeClosed fuel inner)
    | some (.plain '>') => return some (.atomic (← takeClosed fuel inner))
    | some (.plain '#') =>
      match dropThrough ')' (← get).rest with
      | some rest =>
        goOn rest
        return none
      | none => malformed
    | some (.plain '=') => return some (.look false 0 (← takeClosed fuel inner))
    | some (.plain '!') => return some (.look true 0 (← takeClosed fuel inner))
    | some (.plain '<') =>
      let negated ← takeNegation
      let outer := (← get).behind
      modify fun s => { s with behind := some (outer.getD s.widths.size) }
      let body ← takeAlternatives fuel inner
      modify fun s => { s with behind := outer }
      if !(← accept ')') then malformed
      let (low, high) := body.width
      if low ≠ high then modify fun s => { s with variableBehind := true }
      return some (.look negated low body)
    | some (.plain '(') =>
      let index ← takeCondition
      checkBehind index
      let yes ← takeSequence fuel inner false []
      let no ←
        if ← accept '|' then
          let items ← takeSequence fuel inner false []
          if (← peek) = some (.plain '|') then malformed
          pure items
        else pure []
      if !(← accept ')') then malformed
      return some (.conditional index (.seq yes) (.seq no))
    | some letter =>
      match ← takeGroupFlags letter with
      | none => if atStart ∧ scope.inner.isNone then return none else malformed
      | some (add, del) => return some (← takeClosed fuel ⟨some (flags.changedBy add del)⟩)

/-- A numbered group up to its closing bracket. -/
def takeNumbered : Nat → Option Text → Flags → Reader Node
  | 0, _, _ => malformed
  | fuel + 1, name, flags => do
    let index ← openGroup name
    let body ← takeClosed fuel ⟨some flags⟩
    closeGroup index body
    return .group index body

/-- Alternatives and their closing bracket. -/
def takeClosed : Nat → Scope → Reader Node
  | 0, _ => malformed
  | fuel + 1, scope => do
    let body ← takeAlternatives fuel scope
    if ← accept ')' then return body else malformed

end

/-- A pattern: its tree and the number of its groups. -/
structure Compiled where
  root : Node
  groups : Nat

/-- The whole pattern. -/
def takePattern (fuel : Nat) : Reader Compiled := do
  goOn (← get).rest
  let root ← takeAlternatives fuel ⟨none⟩
  let s ← get
  if s.flags.ascii && s.flags.unicode then throw .conflictingFlags
  if !s.rest.isEmpty then malformed
  if s.mentioned.any (s.widths.size ≤ ·) then malformed
  if s.variableBehind || (s.flags.template && s.repeats) then malformed
  return ⟨root, s.widths.size - 1⟩

/-- The pattern that a text denotes. -/
def read (text : Text) : Except Fault Compiled :=
  let (rest, dangling) := tokens text
  match (takePattern (8 * (rest.length + 2))).run { rest := rest, dangling := dangling } with
  | .ok (compiled, _) => .ok compiled
  | .error fault => .error fault

end PhotoPublish.Pattern
