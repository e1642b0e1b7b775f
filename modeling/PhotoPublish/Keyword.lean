import PhotoPublish.Log
import PhotoPublish.Transaction

/-!
# Keywords

Keywords form a forest in the catalog: a `Keyword` has a name and perhaps a parent, which is given by its
place in the catalog. A hierarchy such as `animals|birds|owl` names a keyword by the path to it.
`Tagging.addNames` puts keywords on a photo, creating those that are missing, `Tagging.removeAll` takes
keywords off it, and `Tagging.exported` are those of its keywords that have one of the given names.
A `Tag`ging step keeps what it has changed when it fails.
-/

set_option autoImplicit false

namespace PhotoPublish

/-- A keyword: its name, the place of its parent in the catalog, and whether photos are exported with
it. -/
structure Keyword where
  name : Text
  parent : Option Nat := none
  isExported : Bool := true
deriving DecidableEq, Repr

/-- The state while the keywords of one photo are changed. A photo may have no list of keywords. -/
structure Tagging where
  catalog : List Keyword := []
  photo : Option (List Nat) := none
  /-- The path of the photo. -/
  path : Value := .null
  access : WriteAccess := {}
  /-- How many keywords the host has been asked for. -/
  asked : Nat := 0
  /-- The kind of failure by which the host refuses a keyword, by the number of the request and the name
  of the keyword. -/
  refusals : Nat → Text → Option Family := fun _ _ => none
  log : List LogRecord := []

/-- A step of changing keywords. -/
abbrev Tag := ExceptT Failure (StateM Tagging)

namespace Tagging

/-- What separates the names in a hierarchy. -/
def separator : Char := '|'

/-- The keywords of the photo. -/
def keywords (state : Tagging) : List Nat :=
  state.photo.getD []

/-- Whether a keyword of the catalog is exported and has one of the names. -/
def isNamed (state : Tagging) (names : List Text) (place : Nat) : Bool :=
  match state.catalog[place]? with
  | some keyword => keyword.isExported && names.contains keyword.name
  | none => false

/-- The keywords of the photo that are exported and have one of the names. -/
def exported (state : Tagging) (names : List Text) : List Nat :=
  state.keywords.filter (state.isNamed names)

/-- The place of the first keyword with a name and a parent. -/
def find? (state : Tagging) (name : Text) (parent : Option Nat) : Option Nat :=
  state.catalog.findIdx? fun keyword => keyword.name = name && keyword.parent = parent

/-- Requests write access. -/
def request (transaction : Transaction) : Tag Unit := do
  let state ← get
  set { state with access := state.access.requested transaction }
  match state.access.refused? transaction with
  | some failure => throw failure
  | none => return

/-- Gets the keyword with a name and a parent; it is created if it is missing. -/
def create (name : Text) (parent : Option Nat) : Tag Nat := do
  let state ← get
  set { state with asked := state.asked + 1 }
  match state.refusals state.asked name with
  | some family => throw (.host family ("cannot create ".toList ++ name))
  | none =>
    match state.find? name parent with
    | some place => return place
    | none =>
      let keyword : Keyword := { name := name, parent := parent }
      modify fun state => { state with catalog := state.catalog ++ [keyword] }
      return state.catalog.length

/-- Gets the keyword that a list of names leads to from a parent. -/
def createAll (parent : Option Nat) : List Text → Tag (Option Nat)
  | [] => return parent
  | name :: rest => do
    let place ← create name parent
    createAll (some place) rest

/-- Puts a keyword on the photo unless it is there. -/
def put (place : Nat) : Tag Unit :=
  modify fun state =>
    if state.keywords.contains place then state
    else { state with photo := some (state.keywords ++ [place]) }

/-- Takes a keyword off the photo, where it has to be. -/
def take (place : Nat) : Tag Unit := do
  let state ← get
  if state.keywords.contains place then
    set { state with photo := some (state.keywords.erase place) }
  else throw (.host .general "keyword not on photo".toList)

/-- Puts the keyword of a hierarchy on the photo. -/
def addHierarchy (hierarchy : Text) : Tag Unit := do
  match ← createAll none (Text.splitOn separator hierarchy) with
  | some place => put place
  | none => return

/-- Writes a warning. -/
def warn (text : Text) : Tag Unit :=
  modify fun state => { state with log := state.log ++ [⟨.warning, text⟩] }

/-- Whether a change inside a transaction was made. A transaction that could not be completed is only
logged. -/
def change (transaction : Transaction) (intent : Text) (body : Tag Unit) : Tag Bool := do
  try
    request transaction
    body
    pure true
  catch failure =>
    if failure.family.isWriteAccess then
      warn (intent ++ " failed: ".toList ++ failure.message)
      pure false
    else throw failure

/-- Puts the keywords of hierarchies on the photo. -/
def addNames (hierarchies : List Text) : Tag Bool := do
  let state ← get
  let intent := "add_photo_keyword_names(".toList ++ state.path.display ++ ", '".toList ++
    Text.join [','] hierarchies ++ "')".toList
  change (.named "Add keywords") intent (hierarchies.forM addHierarchy)

/-- Takes keywords off the photo. -/
def removeAll (places : List Nat) : Tag Bool := do
  let state ← get
  let intent := "remove_photo_keywords(".toList ++ state.path.display ++ [')']
  change (.named "Remove keywords") intent (places.forM take)

end Tagging

end PhotoPublish
