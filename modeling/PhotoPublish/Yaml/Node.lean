import PhotoPublish.Yaml.Tag
import PhotoPublish.Yaml.Token

/-!
# Nodes of a document

`Graph.ofScan?` reads the tokens of a text as one document, or as none at all in an empty text. A node is a
scalar or a collection, which is a sequence or a mapping. Collections have numbers and their contents stand in
a table, so that an alias can repeat a collection, also inside itself. A fault that ends the tokens counts only
where they have been in order so far.
-/

set_option autoImplicit false

namespace PhotoPublish.Yaml

/-- A node of a document: a scalar, or a collection by its number. -/
inductive Node where
  | scalar (tag : Tag) (text : Text)
  | collection (number : Nat)
deriving DecidableEq

instance : Inhabited Node :=
  ⟨.scalar .null []⟩

/-- What a collection holds. -/
inductive Content where
  | sequence (tag : Tag) (items : List Node)
  | mapping (tag : Tag) (entries : List (Node × Node))

/-- The contents of collections by their numbers. -/
abbrev Contents := List (Nat × Content)

/-- The tag of a collection. -/
def Content.tag : Content → Tag
  | sequence tag _ => tag
  | mapping tag _ => tag

/-- The nodes of a document. -/
structure Graph where
  root : Node
  contents : Contents

/-- The place of a node: in a flow collection, in a block, or in a block mapping, where a sequence
need not be indented. -/
inductive Surroundings where
  | flow
  | block
  | blockMapping
deriving DecidableEq

/-- The state of reading: the tokens left and the fault behind them, the tag handles, the named nodes, the
number of the next collection, and the contents of those that have been read. -/
structure Composer where
  tokens : List Token
  fault : Option LexFault
  handles : List (Text × Text) := []
  anchors : List (Text × Node) := []
  next : Nat := 0
  contents : Contents := []

/-- Why tokens denote no node. -/
inductive ComposeFault where
  | malformed
  /-- The text cannot be cut into tokens. -/
  | lexical (fault : LexFault)

/-- A step of reading. -/
abbrev Compose := StateT Composer (Except ComposeFault)

namespace Compose

/-- Refuses the text. -/
def refuse {α : Type} : Compose α :=
  throw .malformed

/-- The next token. -/
def peek : Compose Token := do
  match (← get).tokens, (← get).fault with
  | token :: _, _ => return token
  | [], some fault => throw (.lexical fault)
  | [], none => return .streamEnd

/-- Moves to the token after the next. -/
def advance : Compose Unit :=
  modify fun s => { s with tokens := s.tokens.tail }

/-- Takes the next token if it is the given one. -/
def takeIf (token : Token) : Compose Bool := do
  if (← peek) = token then
    advance
    return true
  else return false

/-- Takes the given token, which has to come next. -/
def expect (token : Token) : Compose Unit := do
  if !(← takeIf token) then refuse

/-- The node that stands where nothing is written. -/
def empty : Node :=
  .scalar .null []

/-! ## Tags and anchors -/

/-- The full name of a tag with a handle, if it has one. -/
def tagName : Option Text × Text → Compose Text
  | (none, suffix) => return suffix
  | (some handle, suffix) => do
    match (← get).handles.lookup handle with
    | some stem => return stem ++ suffix
    | none => refuse

/-- The name of an anchor, if one comes next. -/
def takeAnchor : Compose (Option Text) := do
  match ← peek with
  | .anchor name => do
    advance
    return some name
  | _ => return none

/-- The handle and the suffix of a tag, if one comes next. -/
def takeTag : Compose (Option (Option Text × Text)) := do
  match ← peek with
  | .tag handle suffix => do
    advance
    return some (handle, suffix)
  | _ => return none

/-- Anchor and tag of a node, in either order. -/
def takeProperties : Compose (Option Text × Option Text) := do
  let early ← takeAnchor
  let tag ← takeTag
  let late ← if early.isNone && tag.isSome then takeAnchor else pure none
  return (early <|> late, ← tag.mapM tagName)

/-- Whether a tag leaves the type to the node itself: there is none, or only an exclamation mark. -/
def isOpen (tag : Option Text) : Bool :=
  tag = none || tag = some ['!']

/-- The tag of a scalar. -/
def scalarTag (tag : Option Text) (text : Text) (plain : Bool) : Tag :=
  match tag with
  | none => if plain then Tag.ofPlain text else .text
  | some name => if isOpen tag then Tag.ofPlain text else Tag.ofName name

/-- The tag of a collection. -/
def collectionTag (tag : Option Text) (usual : Tag) : Tag :=
  match tag with
  | none => usual
  | some name => if isOpen tag then usual else Tag.ofName name

/-- Names a node. -/
def setAnchor (anchor : Option Text) (node : Node) : Compose Unit := do
  match anchor with
  | none => return
  | some name => modify fun s => { s with anchors := (name, node) :: s.anchors }

/-- The node that an alias stands for. -/
def named (name : Text) : Compose Node := do
  match (← get).anchors.lookup name with
  | some node => return node
  | none => refuse

/-- Refuses a name that has been given. -/
def expectNew (anchor : Option Text) : Compose Unit := do
  match anchor with
  | none => return
  | some name => if ((← get).anchors.lookup name).isSome then refuse

/-- A collection that is about to be read. It has its name at once, so that it may be inside itself. -/
def openCollection (anchor : Option Text) : Compose Nat := do
  let number := (← get).next
  modify fun s => { s with next := number + 1 }
  setAnchor anchor (.collection number)
  return number

/-- A collection that has been read. -/
def closeCollection (number : Nat) (content : Content) : Compose Node := do
  modify fun s => { s with contents := (number, content) :: s.contents }
  return .collection number

/-! ## Nodes -/

mutual

/-- Reads a node. -/
def node (place : Surroundings) : Nat → Compose Node
  | 0 => refuse
  | fuel + 1 => do
    match ← peek with
    | .alias name => do
      advance
      named name
    | _ => do
      let (anchor, tag) ← takeProperties
      discard peek
      expectNew anchor
      content place anchor tag fuel

/-- Reads what follows the properties of a node; only a node with properties may be empty. -/
def content (place : Surroundings) (anchor tag : Option Text) : Nat → Compose Node
  | 0 => refuse
  | fuel + 1 => do
    match ← peek, place with
    | .blockEntry, .blockMapping => do
      let number ← openCollection anchor
      closeCollection number (.sequence (collectionTag tag .sequence) (← indentlessItems fuel))
    | .scalar text plain, _ => do
      advance
      let node := Node.scalar (scalarTag tag text plain) text
      setAnchor anchor node
      return node
    | .flowSequenceStart, _ => do
      advance
      let number ← openCollection anchor
      closeCollection number (.sequence (collectionTag tag .sequence) (← flowItems true fuel))
    | .flowMappingStart, _ => do
      advance
      let number ← openCollection anchor
      closeCollection number (.mapping (collectionTag tag .mapping) (← flowEntries true fuel))
    | .blockSequenceStart, .block | .blockSequenceStart, .blockMapping => do
      advance
      let number ← openCollection anchor
      closeCollection number (.sequence (collectionTag tag .sequence) (← blockItems fuel))
    | .blockMappingStart, .block | .blockMappingStart, .blockMapping => do
      advance
      let number ← openCollection anchor
      closeCollection number (.mapping (collectionTag tag .mapping) (← blockEntries fuel))
    | _, _ => do
      if anchor.isNone && tag.isNone then refuse
      let node := Node.scalar (scalarTag tag [] true) []
      setAnchor anchor node
      return node

/-- Reads a node unless one of the given tokens comes next, where an empty one stands. -/
def nodeUnless (stops : List Token) (place : Surroundings) : Nat → Compose Node
  | 0 => refuse
  | fuel + 1 => do
    if stops.contains (← peek) then return empty else node place fuel

/-- The items of a block sequence. -/
def blockItems : Nat → Compose (List Node)
  | 0 => refuse
  | fuel + 1 => do
    if ← takeIf .blockEntry then
      let item ← nodeUnless [.blockEntry, .blockEnd] .block fuel
      return item :: (← blockItems fuel)
    else
      expect .blockEnd
      return []

/-- The items of a sequence at the indentation of the mapping around it. -/
def indentlessItems : Nat → Compose (List Node)
  | 0 => refuse
  | fuel + 1 => do
    if ← takeIf .blockEntry then
      let item ← nodeUnless [.blockEntry, .key, .value, .blockEnd] .block fuel
      return item :: (← indentlessItems fuel)
    else return []

/-- The entries of a block mapping. -/
def blockEntries : Nat → Compose (List (Node × Node))
  | 0 => refuse
  | fuel + 1 => do
    match ← peek with
    | .key => do
      advance
      let key ← nodeUnless [.key, .value, .blockEnd] .blockMapping fuel
      blockValue key fuel
    | _ => do
      expect .blockEnd
      return []

/-- The value of a key in a block mapping, and the entries after it. -/
def blockValue (key : Node) : Nat → Compose (List (Node × Node))
  | 0 => refuse
  | fuel + 1 => do
    let value ←
      if ← takeIf .value then nodeUnless [.key, .value, .blockEnd] .blockMapping fuel
      else pure empty
    return (key, value) :: (← blockEntries fuel)

/-- The items of a flow sequence; a key among them makes a mapping of one entry. -/
def flowItems (first : Bool) : Nat → Compose (List Node)
  | 0 => refuse
  | fuel + 1 => do
    if ← takeIf .flowSequenceEnd then return []
    if !first then expect .flowEntry
    if ← takeIf .key then
      let key ← nodeUnless [.value, .flowEntry, .flowSequenceEnd] .flow fuel
      let value ←
        if ← takeIf .value then nodeUnless [.flowEntry, .flowSequenceEnd] .flow fuel
        else pure empty
      let item ← closeCollection (← openCollection none) (.mapping .mapping [(key, value)])
      return item :: (← flowItems false fuel)
    else if ← takeIf .flowSequenceEnd then return []
    else
      let item ← node .flow fuel
      return item :: (← flowItems false fuel)

/-- The entries of a flow mapping. -/
def flowEntries (first : Bool) : Nat → Compose (List (Node × Node))
  | 0 => refuse
  | fuel + 1 => do
    if ← takeIf .flowMappingEnd then return []
    if !first then expect .flowEntry
    if ← takeIf .key then
      let key ← nodeUnless [.value, .flowEntry, .flowMappingEnd] .flow fuel
      let value ←
        if ← takeIf .value then nodeUnless [.flowEntry, .flowMappingEnd] .flow fuel
        else pure empty
      return (key, value) :: (← flowEntries false fuel)
    else if ← takeIf .flowMappingEnd then return []
    else
      let key ← node .flow fuel
      return (key, empty) :: (← flowEntries false fuel)

end

/-! ## Documents -/

/-- The handles that every document has. -/
def usualHandles : List (Text × Text) :=
  [(['!'], ['!']), (['!', '!'], Tag.stem)]

/-- The directives in front of a document. The version is given once at most and has the major
number one, and each handle is declared once at most. -/
def directives (versionSeen : Bool) : Nat → Compose Unit
  | 0 => refuse
  | fuel + 1 => do
    match ← peek with
    | .directive (.version major) =>
      if versionSeen || major != 1 then refuse
      advance
      directives true fuel
    | .directive (.tagHandle handle stem) =>
      if ((← get).handles.lookup handle).isSome then refuse
      modify fun s => { s with handles := (handle, stem) :: s.handles }
      advance
      directives versionSeen fuel
    | .directive .other => do
      advance
      directives versionSeen fuel
    | _ => return

/-- The node of a document, after its directives and its start sign. -/
def document (fuel : Nat) : Compose Node := do
  let s ← get
  match ← peek with
  | .directive _ | .documentStart =>
    directives false s.tokens.length
    expect .documentStart
    modify fun s => { s with handles := s.handles ++ usualHandles }
    match ← peek with
    | .directive _ | .documentStart | .documentEnd | .streamEnd => return empty
    | _ => node .block fuel
  | _ =>
    set { s with handles := usualHandles }
    node .block fuel

/-- The only document of a text, if it has one. The directives of a second one are read, too. -/
def onlyDocument (fuel : Nat) : Compose (Option Node) := do
  if (← peek) = .streamEnd then return none
  let root ← document fuel
  modify fun s => { s with tokens := s.tokens.dropWhile (· = .documentEnd), handles := [] }
  if (← peek) = .streamEnd then return some root
  directives false fuel
  refuse

end Compose

/-- The document that the tokens of a text denote. A token is passed in at most four nested steps. -/
def Graph.ofScan? (scan : Scan) : Except ComposeFault (Option Graph) :=
  match (Compose.onlyDocument (4 * scan.tokens.length + 8)).run
      { tokens := scan.tokens, fault := scan.fault } with
  | .ok (root, s) => .ok (root.map fun root => { root, contents := s.contents })
  | .error fault => .error fault

end PhotoPublish.Yaml
