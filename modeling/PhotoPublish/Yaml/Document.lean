import PhotoPublish.Yaml.Node
import PhotoPublish.Yaml.Scalar

/-!
# Values of documents

`Yaml.read` is the value that the text of a document denotes; an empty text denotes null. Keys are
scalars. A key that comes again replaces the value of the first, whose place it keeps. The entries of a
merged mapping stand in front of those of the mapping that merges it, so they give way to them.

Scalars get their values where they stand, but what a collection holds is built only after all that was begun
before it: of several faults in the values the one on the highest level is found, and on one level the first.
-/

set_option autoImplicit false

namespace PhotoPublish.Yaml

/-! ## Keys -/

/-- The whole number that a key stands for. -/
def wholeOfKey? : Value → Option Int
  | .bool b => some (if b then 1 else 0)
  | .whole n => some n
  | .real x =>
    match x.units? with
    | some units => if units % Binary64.one = 0 then some (units / Binary64.one) else none
    | none => none
  | _ => none

/-- Whether two keys are the same. Numbers are compared by value, moments in fixed zones by the instant
they denote. -/
def sameKey (a b : Value) : Bool :=
  match wholeOfKey? a, wholeOfKey? b with
  | some m, some n => m == n
  | _, _ =>
    match a, b with
    | .null, .null => true
    | .real x, .real y => x == y && x != .nan
    | .text s, .text t => s == t
    | .bytes s, .bytes t => s == t
    | .date d, .date e => d == e
    | .moment s, .moment t =>
      s.offset.isSome == t.offset.isSome && s.microsecondCount == t.microsecondCount
    | _, _ => false

/-- The entries with a key set to a value. -/
def setEntry {α : Type} (key : Value) (value : α) : List (Value × α) → List (Value × α)
  | [] => [(key, value)]
  | (k, v) :: rest =>
    if sameKey k key then (k, value) :: rest else (k, v) :: setEntry key value rest

/-! ## Scalars -/

namespace Contents

/-- The tag of a node. -/
def tagOf (contents : Contents) : Node → Tag
  | .scalar tag _ => tag
  | .collection number => ((contents.lookup number).map Content.tag).getD .other

/-- The text of a scalar. A mapping with a default key stands for the scalar under that key; one that stands
for itself has no end. -/
def scalarText (contents : Contents) : Nat → Node → Except Fault Text
  | _, .scalar _ text => .ok text
  | 0, .collection _ => .error (.failure .exhausted)
  | fuel + 1, .collection number =>
    match contents.lookup number with
    | some (.mapping _ entries) =>
      match entries.find? fun (key, _) => contents.tagOf key = .default with
      | some (_, value) => contents.scalarText fuel value
      | none => .error .malformed
    | _ => .error .malformed

/-- The value of a scalar. -/
def scalarValue (contents : Contents) (node : Node) : Except Fault Value := do
  let text ← contents.scalarText contents.length node
  match (contents.tagOf node).readScalar text, contents.tagOf node, node with
  | none, _, _ => .error .malformed
  | some _, .timestamp, .collection _ => .error (.failure .wrongType)
  | some result, _, _ => result

/-- The value of a key; a collection is no key. -/
def keyValue (contents : Contents) (node : Node) : Except Fault Value :=
  match contents.tagOf node with
  | .sequence | .mapping | .set | .orderedMap | .pairs => .error .malformed
  | .merge | .default | .other => .error .malformed
  | _ => contents.scalarValue node

/-! ## Merged mappings -/

/-- The contents with other entries in a mapping. -/
def setEntries (contents : Contents) (number : Nat) (entries : List (Node × Node)) : Contents :=
  contents.map fun (n, content) =>
    if n = number then (n, .mapping content.tag entries) else (n, content)

end Contents

/-- A key of a mapping; the default key is read as text there. -/
def Node.asKey : Node → Node
  | scalar .default text => scalar .text text
  | node => node

/-- The content of a key of a mapping. -/
def Content.asKey : Content → Content
  | sequence .default items => sequence .text items
  | mapping .default entries => mapping .text entries
  | content => content

/-- A step that puts merged entries in their places; it fails if anything but mappings is merged. -/
abbrev Merge := StateT Contents Option

namespace Merge

/-- The entries of a mapping before its first merge key, the value of that, and the entries behind it. -/
def cut? (contents : Contents) : List (Node × Node) →
    Option (List (Node × Node) × Node × List (Node × Node))
  | [] => none
  | (key, value) :: rest =>
    if contents.tagOf key = .merge then some ([], value, rest)
    else (cut? contents rest).map fun (before, merged, after) => ((key, value) :: before, merged, after)

/-- Puts the entries that a mapping merges in front of its own, behind those that it has merged before. The
first of several mappings that are merged at once comes last. Each merge key is taken out before the mappings
under it are looked at, so that a mapping may merge itself. -/
def entries : Nat → List (Node × Node) → Nat → Merge (List (Node × Node))
  | 0, _, _ => failure
  | fuel + 1, merged, number => do
    let contents ← get
    let some (.mapping _ own) := contents.lookup number | failure
    match cut? contents own with
    | none =>
      let all := merged ++ own.map fun (key, value) => (key.asKey, value)
      set <| (contents.setEntries number all).map fun (n, content) =>
        (n, if (own.map Prod.fst).contains (.collection n) then content.asKey else content)
      return all
    | some (before, value, after) =>
      set (contents.setEntries number (before ++ after))
      let .collection target := value | failure
      match contents.lookup target with
      | some (.sequence _ items) =>
        let parts ← items.mapM fun item =>
          match item with
          | .collection n => entries fuel [] n
          | .scalar _ _ => failure
        entries fuel (merged ++ parts.reverse.flatten) number
      | _ =>
        let part ← entries fuel [] target
        entries fuel (merged ++ part) number

end Merge

/-- The number of entries of all mappings. -/
def Contents.entryCount : Contents → Nat
  | [] => 0
  | (_, .mapping _ entries) :: rest => entries.length + entryCount rest
  | (_, .sequence _ _) :: rest => entryCount rest

/-! ## Objects -/

/-- What is built of a node: a value, or an object by its number. -/
inductive Item where
  | value (value : Value)
  | object (number : Nat)

/-- What is built of a collection. -/
inductive Object where
  | list (items : List Item)
  | map (entries : List (Value × Item))
  | pairs (entries : List (Item × Item))

/-- The state of building: the contents of the collections, the numbers of the objects that have been begun,
the nodes whose parts are still to be built, in order, and the objects that have been built. -/
structure Builder where
  contents : Contents
  begun : List Nat := []
  waiting : List Node := []
  objects : List (Nat × Object) := []

/-- A step of building. -/
abbrev Build := StateT Builder (Except Fault)

namespace Build

/-- Begins a node with the tag of a collection, unless that has been done. What it holds is built later. -/
def start (node : Node) : Build Item := do
  let s ← get
  match node with
  | .scalar _ _ =>
    set { s with waiting := s.waiting ++ [node] }
    return .value .null
  | .collection number =>
    if !s.begun.contains number then
      set { s with begun := number :: s.begun, waiting := s.waiting ++ [node] }
    return .object number

/-- Builds a scalar or begins a collection. -/
def item (node : Node) : Build Item := do
  let contents := (← get).contents
  match contents.tagOf node with
  | .sequence | .mapping | .set | .orderedMap | .pairs => start node
  | .merge | .default | .other => throw .malformed
  | _ => return .value (← contents.scalarValue node)

/-- Builds an entry of a mapping. -/
def entry : Node × Node → Build (Value × Item)
  | (key, value) => do
    let builtKey ← (← get).contents.keyValue key
    return (builtKey, ← item value)

/-- Builds the entries of a mapping. -/
def entries (number : Nat) : Build (List (Value × Item)) := do
  let s ← get
  match (Merge.entries (s.contents.entryCount + 1) [] number).run s.contents with
  | none => throw .malformed
  | some (all, contents) =>
    set { s with contents }
    let built ← all.mapM entry
    return built.foldl (fun result (key, value) => setEntry key value result) []

/-- Builds a pair, which is a mapping with one entry. -/
def pair (node : Node) : Build (Item × Item) := do
  let .collection number := node | throw .malformed
  match (← get).contents.lookup number with
  | some (.mapping _ [(key, value)]) => return (← item key, ← item value)
  | _ => throw .malformed

/-- Builds what a collection holds. -/
def object (number : Nat) : Build Object := do
  match (← get).contents.lookup number with
  | some (.sequence .sequence items) => return .list (← items.mapM item)
  | some (.sequence .orderedMap items) | some (.sequence .pairs items) =>
    return .pairs (← items.mapM pair)
  | some (.mapping .mapping _) => return .map (← entries number)
  | some (.mapping .set _) => return .list ((← entries number).map fun (key, _) => .value key)
  | _ => throw .malformed

/-- Builds what the collections hold that have been begun, and so on; a scalar holds nothing. -/
def all : Nat → Build Unit
  | 0 => return
  | fuel + 1 => do
    let s ← get
    match s.waiting with
    | [] => return
    | .scalar _ _ :: _ => throw .malformed
    | .collection number :: rest =>
      set { s with waiting := rest }
      let built ← object number
      modify fun s => { s with objects := (number, built) :: s.objects }
      all fuel

end Build

/-! ## Values -/

namespace Object

/-- Whether an object is a mapping. -/
def isMap : Object → Bool
  | map _ => true
  | list _ | pairs _ => false

/-- The value of an object by those of its parts. -/
def value (ofItem : Item → Value) : Object → Value
  | list items => .list (items.map ofItem)
  | map entries => .map (entries.map fun (key, item) => (key, ofItem item))
  | pairs entries => .list (entries.map fun (first, second) => .list [ofItem first, ofItem second])

end Object

/-- The value of an item inside the objects on a path. An object inside itself is not shown again. -/
def itemValue (objects : List (Nat × Object)) : Nat → List Nat → Item → Value
  | _, _, .value value => value
  | 0, _, .object _ => .null
  | fuel + 1, path, .object number =>
    match objects.lookup number with
    | none => .null
    | some object =>
      if path.contains number then .enclosing object.isMap
      else object.value (itemValue objects fuel (number :: path))

/-- The value of a document. Its parts are values of their own, which may show the whole. -/
def Graph.value (graph : Graph) : Except Fault Value := do
  let build : Build Item := do
    let root ← Build.item graph.root
    Build.all (graph.contents.length + 1)
    return root
  let (root, s) ← build.run { contents := graph.contents }
  match root with
  | .value value => return value
  | .object number =>
    let ofItem := itemValue s.objects (s.objects.length + 1) []
    return ((s.objects.lookup number).map (·.value ofItem)).getD .null

/-! ## Texts -/

/-- The fault of a text that cannot be cut into tokens. -/
def LexFault.fault : LexFault → Fault
  | malformed => .malformed
  | longVersion digits => .failure (.longNumeral digits)
  | noCharacter code => .failure (if code < 0x80000000 then .codePoint else .hugeCodePoint)

/-- The fault of tokens without a node. -/
def ComposeFault.fault : ComposeFault → Fault
  | malformed => .malformed
  | lexical fault => fault.fault

/-- The nodes of the document in a text; an empty text has none. -/
def graph? (text : Text) : Except Fault (Option Graph) :=
  (Graph.ofScan? (scan text)).mapError ComposeFault.fault

/-- The value that the text of a document denotes. -/
def read (text : Text) : Except Fault Value := do
  match ← graph? text with
  | none => return .null
  | some graph => graph.value

/-! ## Bytes -/

/-- The text with a line feed for every carriage return, and one for both together. -/
def unifyLines : Text → Text
  | '\r' :: '\n' :: rest => '\n' :: unifyLines rest
  | '\r' :: rest => '\n' :: unifyLines rest
  | c :: rest => c :: unifyLines rest
  | [] => []

/-- The text that bytes denote in UTF-8. -/
def decode? (bytes : ByteArray) : Option Text :=
  (String.fromUTF8? bytes).map String.toList

/-- The value that the bytes of a document denote. Line ends of any kind count as line feeds. -/
def readBytes (bytes : ByteArray) : Except Fault Value :=
  match decode? bytes with
  | none => .error (.failure .undecodable)
  | some text => read (unifyLines text)

end PhotoPublish.Yaml
