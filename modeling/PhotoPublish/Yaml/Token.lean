import PhotoPublish.Number.Reading
import PhotoPublish.Yaml.Cursor

/-!
# Tokens of a document

`scan` cuts the text of a document into tokens, up to the first fault. Block structure shows in the tokens: a collection
starts where the indentation grows and ends where it shrinks. Whether a node is a key is known only
at the colon after it, so every node that could be a *simple key* is remembered with the number of
its token, and its key token is inserted there when the colon comes. A simple key stays on one line
and within `keyLength` characters.
-/

set_option autoImplicit false

namespace PhotoPublish.Yaml

/-- A directive line in front of a document. -/
inductive Directive where
  | version (major : Nat)
  | tagHandle (handle stem : Text)
  | other
deriving DecidableEq, Repr

/-- A token. -/
inductive Token where
  | directive (d : Directive)
  | documentStart
  | documentEnd
  | streamEnd
  | blockSequenceStart
  | blockMappingStart
  | blockEnd
  | flowSequenceStart
  | flowSequenceEnd
  | flowMappingStart
  | flowMappingEnd
  | blockEntry
  | flowEntry
  | key
  | value
  | alias (name : Text)
  | anchor (name : Text)
  /-- A tag: its handle, if it has one, and the rest. -/
  | tag (handle : Option Text) (suffix : Text)
  | scalar (text : Text) (plain : Bool)
deriving DecidableEq, Repr

/-- A place where a simple key may have begun. -/
structure KeyPlace where
  token : Nat
  required : Bool
  index : Nat
  line : Nat
  column : Nat

/-- Greatest length of a simple key. -/
def keyLength : Nat := 1024

/-- The state of the lexer. `indent` is the column of the innermost block collection, `indents` those
around it; `keys` has at most one candidate for each depth of flow collections. -/
structure Lexer where
  cur : Cursor
  tokens : Array Token := #[]
  flow : Nat := 0
  indent : Int := -1
  indents : List Int := []
  keyAllowed : Bool := true
  keys : List (Nat × KeyPlace) := []
  done : Bool := false

/-- Why a text has no tokens. -/
inductive LexFault where
  | malformed
  /-- A number of a version has too many digits. -/
  | longVersion (digits : Nat)
  /-- An escape has the number of no character. -/
  | noCharacter (code : Nat)

/-- The tokens of a text, up to a fault if there is one. -/
structure Scan where
  tokens : List Token
  fault : Option LexFault

/-- A step of the lexer. -/
abbrev Lex := StateT Lexer (Except LexFault)

/-- Refuses the text. -/
def refuse {α : Type} : Lex α :=
  throw .malformed

namespace Lex

/-- Refuses the text unless the condition holds. -/
def ensure (condition : Bool) : Lex Unit :=
  if condition then return else refuse

/-- The current place. -/
def cursor : Lex Cursor :=
  return (← get).cur

/-- Moves to another place. -/
def moveTo (cur : Cursor) : Lex Unit :=
  modify fun s => { s with cur := cur }

/-- The character a number of places ahead. -/
def peek (ahead : Nat := 0) : Lex Char :=
  return (← get).cur.peek ahead

/-- Moves a number of characters ahead. -/
def forward (count : Nat := 1) : Lex Unit :=
  modify fun s => { s with cur := s.cur.forward count }

/-- Takes the characters of a class that come next. -/
def span (holds : Char → Bool) : Lex Text := do
  let (text, cur) := (← cursor).span holds
  moveTo cur
  return text

/-- Takes the end of a line, if the line ends here. -/
def takeBreak : Lex Text := do
  let (text, cur) := (← cursor).takeBreak
  moveTo cur
  return text

/-- Adds a token. -/
def emit (token : Token) : Lex Unit :=
  modify fun s => { s with tokens := s.tokens.push token }

/-- Says whether a simple key may begin at the next token. -/
def allowKey (allowed : Bool) : Lex Unit :=
  modify fun s => { s with keyAllowed := allowed }

/-! ## Simple keys and indentation -/

/-- Drops the candidates that can be keys no more; one that had to be a key is an error. -/
def dropStaleKeys : Lex Unit := do
  let s ← get
  let isStale (key : KeyPlace) : Bool :=
    key.line != s.cur.line || keyLength < s.cur.index - key.index
  if s.keys.any fun (_, key) => isStale key && key.required then refuse
  set { s with keys := s.keys.filter fun (_, key) => !isStale key }

/-- Drops the candidate of this depth; one that had to be a key is an error. -/
def dropKey : Lex Unit := do
  let s ← get
  match s.keys.lookup s.flow with
  | some key => if key.required then refuse
  | none => return
  set { s with keys := s.keys.filter fun (level, _) => level != s.flow }

/-- Remembers that a simple key may begin here. -/
def noteKey : Lex Unit := do
  let s ← get
  if s.keyAllowed then
    dropKey
    let key : KeyPlace :=
      { token := s.tokens.size, required := s.flow == 0 && s.indent == s.cur.column,
        index := s.cur.index, line := s.cur.line, column := s.cur.column }
    modify fun s => { s with keys := (s.flow, key) :: s.keys }

/-- Ends the block collections that are indented more than a column. -/
def unwind (column : Int) : Lex Unit :=
  modify fun s =>
    if s.flow = 0 then
      let ended := (s.indent :: s.indents).takeWhile (column < ·)
      let left := (s.indent :: s.indents).dropWhile (column < ·)
      { s with
        indent := left.head?.getD (-1)
        indents := left.tail
        tokens := s.tokens ++ Array.replicate ended.length Token.blockEnd }
    else s

/-- Starts a block collection at a column that is indented more than the one around it. -/
def indentTo (column : Nat) : Lex Bool := do
  let s ← get
  if s.indent < column then
    set { s with indent := (column : Int), indents := s.indent :: s.indents }
    return true
  else return false

/-! ## Scalars -/

/-- Breaks and the blanks at the start of the lines after them, in a quoted scalar. -/
def takeQuotedBreaks : Nat → Lex Text
  | 0 => refuse
  | fuel + 1 => do
    if (← cursor).atDocumentSign then refuse
    discard <| span fun c => c == ' ' || c == '\t'
    if isBreak (← peek) then
      let first ← takeBreak
      return first ++ (← takeQuotedBreaks fuel)
    else return []

/-- Blanks in a quoted scalar; a line end among them folds to a space. -/
def takeQuotedSpaces (fuel : Nat) : Lex Text := do
  let blanks ← span fun c => c == ' ' || c == '\t'
  let c ← peek
  if c = '\x00' then refuse
  if isBreak c then
    let first ← takeBreak
    let more ← takeQuotedBreaks fuel
    if first ≠ ['\n'] then return first ++ more
    else if more.isEmpty then return [' ']
    else return more
  else return blanks

/-- The character of a one-letter escape. -/
def escaped? : Char → Option Char
  | '0' => some '\x00'
  | 'a' => some '\x07'
  | 'b' => some '\x08'
  | 't' | '\t' => some '\t'
  | 'n' => some '\n'
  | 'v' => some '\x0b'
  | 'f' => some '\x0c'
  | 'r' => some '\r'
  | 'e' => some '\x1b'
  | ' ' => some ' '
  | '"' => some '"'
  | '\\' => some '\\'
  | '/' => some '/'
  | 'N' => some '\x85'
  | '_' => some '\xa0'
  | 'L' => some '\u2028'
  | 'P' => some '\u2029'
  | _ => none

/-- The number of hexadecimal digits of an escape by number. -/
def escapeDigits? : Char → Option Nat
  | 'x' => some 2
  | 'u' => some 4
  | 'U' => some 8
  | _ => none

/-- The number that the next characters denote in base sixteen. -/
def takeHex (count : Nat) : Lex Nat := do
  let digits := (← cursor).rest.take count
  ensure (digits.length == count && digits.all fun c => (Numeral.digitOf? 16 c).isSome)
  forward count
  return digits.foldl (fun n c => 16 * n + (Numeral.digitOf? 16 c).getD 0) 0

/-- Characters of a quoted scalar up to a blank, a line end or the closing quote. -/
def takeQuotedRun (double : Bool) : Nat → Lex Text
  | 0 => refuse
  | fuel + 1 => do
    let run ← span fun c => !(c == '\'' || c == '"' || c == '\\' || isBlankOrEnd c)
    let c ← peek
    if !double && c == '\'' && (← peek 1) == '\'' then
      forward 2
      return run ++ '\'' :: (← takeQuotedRun double fuel)
    else if (double && c == '\'') || (!double && (c == '"' || c == '\\')) then
      forward
      return run ++ c :: (← takeQuotedRun double fuel)
    else if double && c == '\\' then
      forward
      let c ← peek
      match escaped? c with
      | some e =>
        forward
        return run ++ e :: (← takeQuotedRun double fuel)
      | none =>
        match escapeDigits? c with
        | some count =>
          forward
          let code ← takeHex count
          if 0x110000 ≤ code then throw (.noCharacter code)
          return run ++ Char.ofNat code :: (← takeQuotedRun double fuel)
        | none =>
          ensure (isBreak c)
          discard takeBreak
          let more ← takeQuotedBreaks fuel
          return run ++ more ++ (← takeQuotedRun double fuel)
    else return run

/-- The rest of a quoted scalar with its closing quote. -/
def takeQuotedRest (double : Bool) (quote : Char) : Nat → Lex Text
  | 0 => refuse
  | fuel + 1 => do
    if (← peek) = quote then
      forward
      return []
    let spaces ← takeQuotedSpaces (fuel + 1)
    let run ← takeQuotedRun double (fuel + 1)
    return spaces ++ run ++ (← takeQuotedRest double quote fuel)

/-- A quoted scalar. -/
def takeQuoted (double : Bool) : Lex Token := do
  let fuel := (← cursor).rest.length + 2
  let quote ← peek
  forward
  let run ← takeQuotedRun double fuel
  return .scalar (run ++ (← takeQuotedRest double quote fuel)) false

/-- Further breaks between the lines of a plain scalar, with the spaces after them; `none` at a
document sign. -/
def takePlainBreaks : Nat → Lex (Option Text)
  | 0 => refuse
  | fuel + 1 => do
    let c ← peek
    if c = ' ' then
      forward
      takePlainBreaks fuel
    else if isBreak c then
      let first ← takeBreak
      if (← cursor).atDocumentSign then return none
      return (← takePlainBreaks fuel).map (first ++ ·)
    else return some []

/-- What separates two runs of a plain scalar; empty where the scalar ends. -/
def takePlainSpaces (fuel : Nat) : Lex Text := do
  let spaces ← span (· == ' ')
  if isBreak (← peek) then
    let first ← takeBreak
    allowKey true
    if (← cursor).atDocumentSign then return []
    match ← takePlainBreaks fuel with
    | none => return []
    | some more =>
      if first ≠ ['\n'] then return first ++ more
      else if more.isEmpty then return [' ']
      else return more
  else return spaces

/-- The number of characters of a plain run. -/
def plainRun (inFlow : Bool) : List Char → Nat
  | [] => 0
  | c :: rest =>
    let ahead := rest.head?.getD '\x00'
    if isBlankOrEnd c then 0
    else if c == ':' && (isBlankOrEnd ahead || (inFlow && ",[]\x7b\x7d".toList.contains ahead)) then 0
    else if inFlow && ",?[]\x7b\x7d".toList.contains c then 0
    else plainRun inFlow rest + 1

/-- The runs of a plain scalar after `spaces`. -/
def takePlainRuns (indent : Int) : Nat → Text → Lex Text
  | 0, _ => refuse
  | fuel + 1, spaces => do
    let cur ← cursor
    if cur.peek = '#' then return []
    let inFlow := (← get).flow != 0
    let length := plainRun inFlow cur.rest
    if length = 0 then return []
    allowKey false
    let run := cur.rest.take length
    forward length
    let more ← takePlainSpaces (fuel + 1)
    let after ← cursor
    if more.isEmpty || after.peek == '#' || (!inFlow && (after.column : Int) < indent) then
      return spaces ++ run
    else return spaces ++ run ++ (← takePlainRuns indent fuel more)

/-- A plain scalar. -/
def takePlain : Lex Token := do
  let s ← get
  return .scalar (← takePlainRuns (s.indent + 1) (s.cur.rest.length + 2) []) true

/-! ## Block scalars -/

/-- What happens to the line ends at the end of a block scalar. -/
inductive Chomping where
  | clip
  | strip
  | keep
deriving DecidableEq

/-- The chomping sign of a character. -/
def chomping? : Char → Option Chomping
  | '+' => some .keep
  | '-' => some .strip
  | _ => none

/-- The indentation that a block scalar announces; zero is no indentation. -/
def takeIncrement : Lex (Option Nat) := do
  let c ← peek
  if c.isDigit then
    ensure (c != '0')
    forward
    return some (c.toNat - 48)
  else return none

/-- Chomping and indentation of a block scalar, in either order. -/
def takeBlockHeader : Lex (Chomping × Option Nat) := do
  let header ← match chomping? (← peek) with
    | some chomping => do
      forward
      pure (chomping, ← takeIncrement)
    | none =>
      match ← takeIncrement with
      | none => pure (Chomping.clip, none)
      | some increment =>
        match chomping? (← peek) with
        | some chomping => do
          forward
          pure (chomping, some increment)
        | none => pure (Chomping.clip, some increment)
  ensure (isSpaceOrEnd (← peek))
  return header

/-- The rest of a line, which may hold a comment only. -/
def takeIgnoredLine : Lex Unit := do
  discard <| span (· == ' ')
  moveTo (← cursor).skipComment
  ensure (isLineEnd (← peek))
  discard takeBreak

/-- The line ends before the first line of a block scalar, and the greatest indentation there. -/
def takeBlockStart : Nat → Nat → Lex (Text × Nat)
  | 0, _ => refuse
  | fuel + 1, deepest => do
    let c ← peek
    if c = ' ' then
      forward
      takeBlockStart fuel (max deepest (← cursor).column)
    else if isBreak c then
      let first ← takeBreak
      let (more, deepest) ← takeBlockStart fuel deepest
      return (first ++ more, deepest)
    else return ([], deepest)

/-- Moves over spaces up to a column. -/
def indentUpTo (column : Nat) : Lex Unit := do
  let cur ← cursor
  let spaces := cur.rest.takeWhile (· == ' ')
  forward (min spaces.length (column - cur.column))

/-- The line ends before the next line of a block scalar. -/
def takeBlockBreaks (column : Nat) : Nat → Lex Text
  | 0 => refuse
  | fuel + 1 => do
    indentUpTo column
    if isBreak (← peek) then
      let first ← takeBreak
      return first ++ (← takeBlockBreaks column fuel)
    else return []

/-- The lines of a block scalar from here on: their text, the end of the last line and the empty lines
after it. `breaks` are the empty lines before. -/
def takeBlockLines (folded : Bool) (column : Nat) : Nat → Text → Lex (Text × Text × Text)
  | 0, _ => refuse
  | fuel + 1, breaks => do
    let cur ← cursor
    if cur.column = column ∧ cur.peek ≠ '\x00' then
      let startsBlank := cur.peek == ' ' || cur.peek == '\t'
      let line ← span fun c => !isLineEnd c
      let lineEnd ← takeBreak
      let after ← takeBlockBreaks column (fuel + 1)
      let cur ← cursor
      let text := breaks ++ line
      if cur.column = column ∧ cur.peek ≠ '\x00' then
        let joint :=
          if folded && lineEnd == ['\n'] && !startsBlank && !(cur.peek == ' ' || cur.peek == '\t')
          then if after.isEmpty then [' '] else []
          else lineEnd
        let (more, lastEnd, trailing) ← takeBlockLines folded column fuel after
        return (text ++ joint ++ more, lastEnd, trailing)
      else return (text, lineEnd, after)
    else return ([], [], breaks)

/-- A block scalar. -/
def takeBlock (folded : Bool) : Lex Token := do
  forward
  let (chomping, increment) ← takeBlockHeader
  takeIgnoredLine
  let s ← get
  let fuel := s.cur.rest.length + 2
  let least := max (s.indent + 1) 1
  let (breaks, column) ← match increment with
    | none => do
      let (breaks, deepest) ← takeBlockStart fuel 0
      pure (breaks, max least.toNat deepest)
    | some increment => do
      let column := (least + increment - 1).toNat
      pure (← takeBlockBreaks column fuel, column)
  let (text, lastEnd, trailing) ← takeBlockLines folded column fuel breaks
  return .scalar (text ++ (if chomping = .strip then [] else lastEnd) ++
    (if chomping = .keep then trailing else [])) false

/-! ## Tags, anchors and directives -/

/-- A name after an indicator. -/
def takeName : Lex Text := do
  forward
  let name ← span isNameChar
  ensure !name.isEmpty
  let c ← peek
  ensure (isBlankOrEnd c || "?:,]\x7d%@`".toList.contains c)
  return name

/-- Bytes written as escapes in a tag. -/
def takeTagBytes : Nat → Lex (List UInt8)
  | 0 => refuse
  | fuel + 1 => do
    if (← peek) = '%' then
      forward
      let b ← takeHex 2
      return b.toUInt8 :: (← takeTagBytes fuel)
    else return []

/-- The characters of a tag. -/
def takeTagText : Nat → Lex Text
  | 0 => refuse
  | fuel + 1 => do
    let run ← span fun c => isTagChar c && c != '%'
    if (← peek) = '%' then
      let bytes ← takeTagBytes (fuel + 1)
      match String.fromUTF8? (ByteArray.mk bytes.toArray) with
      | some text => return run ++ text.toList ++ (← takeTagText fuel)
      | none => refuse
    else return run

/-- The characters of a tag; there is at least one. -/
def takeTagUri : Lex Text := do
  let text ← takeTagText ((← cursor).rest.length + 1)
  ensure !text.isEmpty
  return text

/-- A handle: an exclamation mark, or a name between two. -/
def takeTagHandle : Lex Text := do
  ensure ((← peek) == '!')
  forward
  if (← peek) = ' ' then return ['!']
  let name ← span isNameChar
  if (← peek) = '!' then
    forward
    return '!' :: name ++ ['!']
  else refuse

/-- Whether an exclamation mark stands before the end of the tag. -/
def tagHasHandle : List Char → Bool
  | [] => false
  | c :: rest => if isSpaceOrEnd c then false else c == '!' || tagHasHandle rest

/-- A tag. -/
def takeTag : Lex Token := do
  let ahead ← peek 1
  let token ←
    if ahead = '<' then do
      forward 2
      let suffix ← takeTagUri
      ensure ((← peek) == '>')
      forward
      pure (Token.tag none suffix)
    else if isBlankOrEnd ahead then do
      forward
      pure (Token.tag none ['!'])
    else if tagHasHandle ((← cursor).rest.drop 1) then do
      let handle ← takeTagHandle
      pure (Token.tag (some handle) (← takeTagUri))
    else do
      forward
      pure (Token.tag (some ['!']) (← takeTagUri))
  ensure (isSpaceOrEnd (← peek))
  return token

/-- A number of a version. -/
def takeVersionNumber : Lex Nat := do
  let digits ← span Char.isDigit
  ensure !digits.isEmpty
  if Numeral.longest < digits.length then throw (.longVersion digits.length)
  return digits.foldl (fun n c => 10 * n + (c.toNat - 48)) 0

/-- A directive line. -/
def takeDirective : Lex Token := do
  forward
  let name ← span isNameChar
  ensure !name.isEmpty
  ensure (isSpaceOrEnd (← peek))
  let directive ←
    if name = "YAML".toList then do
      discard <| span (· == ' ')
      let major ← takeVersionNumber
      ensure ((← peek) == '.')
      forward
      discard takeVersionNumber
      ensure (isSpaceOrEnd (← peek))
      pure (Directive.version major)
    else if name = "TAG".toList then do
      discard <| span (· == ' ')
      let handle ← takeTagHandle
      ensure ((← peek) == ' ')
      discard <| span (· == ' ')
      let stem ← takeTagUri
      ensure (isSpaceOrEnd (← peek))
      pure (Directive.tagHandle handle stem)
    else do
      discard <| span fun c => !isLineEnd c
      pure Directive.other
  takeIgnoredLine
  return .directive directive

/-! ## The next token -/

/-- Moves over spaces, comments and line ends. A new line outside flow collections may begin with a
simple key. -/
def skipToToken : Nat → Lex Unit
  | 0 => return
  | fuel + 1 => do
    discard <| span (· == ' ')
    moveTo (← cursor).skipComment
    if isBreak (← peek) then
      discard takeBreak
      if (← get).flow = 0 then allowKey true
      skipToToken fuel

/-- Ends all block collections in front of a directive or document sign. -/
def endBlocks : Lex Unit := do
  unwind (-1)
  dropKey
  allowKey false

/-- Starts a flow collection. -/
def startFlow (token : Token) : Lex Unit := do
  noteKey
  modify fun s => { s with flow := s.flow + 1, keyAllowed := true }
  forward
  emit token

/-- Ends a flow collection. -/
def endFlow (token : Token) : Lex Unit := do
  dropKey
  ensure ((← get).flow != 0)
  modify fun s => { s with flow := s.flow - 1, keyAllowed := false }
  forward
  emit token

/-- In a block, opens a collection where its first indicator stands. -/
def openBlock (token : Token) : Lex Unit := do
  let s ← get
  if s.flow = 0 then
    ensure s.keyAllowed
    if ← indentTo s.cur.column then emit token

/-- The colon after a key. The key token goes in front of the token where the key began. -/
def takeValue : Lex Unit := do
  let s ← get
  match s.keys.lookup s.flow with
  | some key =>
    set { s with
      keys := s.keys.filter fun (level, _) => level != s.flow
      tokens := s.tokens.insertIdxIfInBounds key.token Token.key }
    if s.flow = 0 then
      if ← indentTo key.column then
        modify fun s =>
          { s with tokens := s.tokens.insertIdxIfInBounds key.token Token.blockMappingStart }
    allowKey false
  | none =>
    openBlock .blockMappingStart
    allowKey (s.flow == 0)
    dropKey
  forward
  emit .value

/-- Whether a plain scalar can begin here. -/
def plainBegins (inFlow : Bool) (c ahead : Char) : Bool :=
  !(isBlankOrEnd c || "-?:,[]\x7b\x7d#&*!|>'\"%@`".toList.contains c) ||
    (!isBlankOrEnd ahead && (c == '-' || (!inFlow && (c == '?' || c == ':'))))

/-- A node that may be a simple key. -/
def takeNode (take : Lex Token) : Lex Unit := do
  noteKey
  allowKey false
  emit (← take)

/-- Takes the next token and the block starts and ends in front of it. -/
def takeToken : Lex Unit := do
  skipToToken ((← cursor).rest.length + 1)
  dropStaleKeys
  unwind (← cursor).column
  let s ← get
  let cur := s.cur
  let c := cur.peek
  let ahead := cur.peek 1
  let inFlow := s.flow != 0
  if c = '\x00' then
    endBlocks
    modify fun s => { s with keys := [], done := true }
    emit .streamEnd
  else if c = '%' ∧ cur.column = 0 then
    endBlocks
    emit (← takeDirective)
  else if cur.column = 0 ∧ cur.startsWithSign '-' then
    endBlocks
    forward 3
    emit .documentStart
  else if cur.column = 0 ∧ cur.startsWithSign '.' then
    endBlocks
    forward 3
    emit .documentEnd
  else if c = '[' then startFlow .flowSequenceStart
  else if c = '\x7b' then startFlow .flowMappingStart
  else if c = ']' then endFlow .flowSequenceEnd
  else if c = '\x7d' then endFlow .flowMappingEnd
  else if c = ',' then
    allowKey true
    dropKey
    forward
    emit .flowEntry
  else if c = '-' ∧ isBlankOrEnd ahead then
    openBlock .blockSequenceStart
    allowKey true
    dropKey
    forward
    emit .blockEntry
  else if c = '?' ∧ (inFlow ∨ isBlankOrEnd ahead) then
    openBlock .blockMappingStart
    allowKey !inFlow
    dropKey
    forward
    emit .key
  else if c = ':' ∧ (inFlow ∨ isBlankOrEnd ahead) then takeValue
  else if c = '*' then takeNode (return .alias (← takeName))
  else if c = '&' then takeNode (return .anchor (← takeName))
  else if c = '!' then takeNode takeTag
  else if (c = '|' ∨ c = '>') ∧ !inFlow then
    allowKey true
    dropKey
    emit (← takeBlock (c == '>'))
  else if c = '\'' then takeNode (takeQuoted false)
  else if c = '"' then takeNode (takeQuoted true)
  else if plainBegins inFlow c ahead then takeNode takePlain
  else refuse

/-- The tokens that can be no keys any more; in front of the others a key token may still come. -/
def settled (s : Lexer) : List Token :=
  let open? (key : KeyPlace) : Bool :=
    key.line == s.cur.line && s.cur.index - key.index ≤ keyLength
  let first := (s.keys.filter fun (_, key) => open? key).foldl
    (fun first (_, key) => min first key.token) s.tokens.size
  s.tokens.toList.take first

/-- All tokens up to the end of the text, or those that are settled where a fault ends them. -/
def takeTokens : Nat → Lexer → Scan
  | 0, _ => ⟨[], some .malformed⟩
  | fuel + 1, s =>
    match takeToken.run s with
    | .error fault => ⟨settled s, some fault⟩
    | .ok (_, s) => if s.done then ⟨s.tokens.toList, none⟩ else takeTokens fuel s

end Lex

/-- The tokens of a text. A byte order mark at its start is skipped. Each token but the last takes a
character, so there are no more of them than characters. -/
def scan (text : Text) : Scan :=
  if text.all isPrintable then
    let cur : Cursor := { rest := text }
    let cur := if cur.peek = '\ufeff' then cur.next else cur
    Lex.takeTokens (text.length + 2) { cur := cur }
  else ⟨[], some .malformed⟩

end PhotoPublish.Yaml
