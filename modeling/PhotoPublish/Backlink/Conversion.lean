import PhotoPublish.Backlink.Basic
import PhotoPublish.Backlink.Summary
import PhotoPublish.Calendar.Display
import PhotoPublish.Collection.Folder
import PhotoPublish.Log
import PhotoPublish.Photo.Basic
import PhotoPublish.Transaction

/-!
# Converting backlinks

`Conversion.convertCollection` gives the photos of a collection backlinks to it, unless they have them. A
photo that fails with a failure of the program's own kinds is counted and the run goes on; any other
failure ends it. `Conversion.convertAll` converts the collections of several services, one after the
other. Each collection, and the whole run, has a progress scope that may be cancelled and is finished in
any case. A step keeps what it has changed when it fails.
-/

set_option autoImplicit false

namespace PhotoPublish

/-- A photo as it is published in a collection. -/
structure PublishedPhoto where
  identifier : Value := .null
  url : Option Text := none
  /-- The raw metadata of its last edit. -/
  lastEdit : Value := .null
  /-- The kind of failure by which the host refuses another URL. -/
  refusal : Option Family := none

instance : Inhabited PublishedPhoto :=
  ⟨{}⟩

/-- A collection with its published photos. -/
structure PublishedCollection where
  name : Value := .null
  identifier : Value := .null
  photos : List PublishedPhoto := []

instance : Inhabited PublishedCollection :=
  ⟨{}⟩

/-- A progress scope of a run with the reports that it got: photos or collections done, and their
total. -/
structure ScopeRecord where
  scope : ProgressScope
  reports : List (Nat × Nat) := []

instance : Inhabited ScopeRecord :=
  ⟨⟨{}, []⟩⟩

/-- The state of a run. Collections are known by their place in the catalog. -/
structure Conversion where
  catalog : List PublishedCollection
  clock : Clock
  zone : Zone := Zone.utc
  access : WriteAccess := {}
  scopes : List ScopeRecord := []
  /-- The number of reports after which a scope is cancelled, by the number of the scope. -/
  cancelAfter : Nat → Option Nat := fun _ => none
  log : List LogRecord := []

/-- A step of a run. -/
abbrev Convert := ExceptT Failure (StateM Conversion)

namespace Conversion

/-! ## Steps -/

/-- Passes a result on. -/
def ofExcept {α : Type} (result : Except Failure α) : Convert α :=
  ExceptT.mk (pure result)

/-- Writes a log record. -/
def write (level : Level) (text : Text) : Convert Unit :=
  modify fun state => { state with log := state.log ++ [⟨level, text⟩] }

/-- Reads the clock. -/
def readClock : Convert Binary64 := do
  let state ← get
  set { state with clock := state.clock.tick }
  return state.clock.now

/-- Requests write access. -/
def request (transaction : Transaction) : Convert Unit := do
  let state ← get
  set { state with access := state.access.requested transaction }
  match state.access.refused? transaction with
  | some failure => throw failure
  | none => return

/-- Runs a step and gives its result, also if it fails. -/
def observe {α : Type} (step : Convert α) : Convert (Except Failure α) :=
  ExceptT.mk (Except.ok <$> step.run)

/-! ## Progress -/

/-- Changes a scope. -/
def changeScope (number : Nat) (change : ScopeRecord → ScopeRecord) : Convert Unit :=
  modify fun state => { state with scopes := state.scopes.modify number change }

/-- Runs a step inside a new scope, which is finished afterwards in any case. -/
def withScope {α : Type} (title : Text) (body : Nat → Convert α) : Convert α := do
  let number := (← get).scopes.length
  modify fun state =>
    { state with scopes := state.scopes ++ [⟨{ title := .text title }, []⟩] }
  let result ← observe (body number)
  changeScope number fun record => { record with scope := record.scope.finish }
  ofExcept result

/-- Whether a scope has been cancelled. -/
def isCancelled (number : Nat) : Convert Bool := do
  let state ← get
  match state.cancelAfter number, state.scopes[number]? with
  | some bound, some record => return bound ≤ record.reports.length
  | _, _ => return false

/-- Reports how much is done. -/
def report (number done total : Nat) : Convert Unit := do
  let portion ← ofExcept (ProgressScope.portionOf (.whole done) (.whole total))
  changeScope number fun record =>
    { scope := { record.scope with portion := portion }, reports := record.reports ++ [(done, total)] }

/-! ## Photos -/

/-- Sets the URL of a photo. -/
def setUrl (collection photo : Nat) (url : Text) : Convert Unit :=
  modify fun state =>
    { state with
      catalog := state.catalog.modify collection fun entry =>
        { entry with photos := entry.photos.modify photo fun p => { p with url := some url } } }

/-- The text of a date in messages. -/
def dateText (zone : Zone) (instant : Option Binary64) : Except Failure Text :=
  match instant with
  | some x => Timestamp.format zone (.real x) Timestamp.messageFormat
  | none => .ok ['-']

/-- What a message says of a photo. -/
def about (collection : PublishedCollection) (photo : PublishedPhoto) : Text :=
  "Convert(".toList ++ collection.name.display ++ " - ".toList ++ photo.identifier.display ++
    "): ".toList

/-- The message about a photo that has a backlink to the collection. -/
def keptMessage (zone : Zone) (collection : PublishedCollection) (photo : PublishedPhoto) :
    Except Failure Text := do
  let edited ← toTimestamp zone photo.lastEdit
  let published ← match Backlink.time? (photo.url.getD []) with
    | some digits => some <$> Binary64.read digits
    | none => pure none
  let editedText ← dateText zone edited
  let publishedText ← dateText zone published
  return about collection photo ++ "already converted, lastEdited ".toList ++ editedText ++
    ", lastPublished ".toList ++ publishedText ++ ['.']

/-- The transaction in which a photo gets its backlink. -/
def backlinkTransaction : Transaction :=
  .named "Update Backlink"

/-- Gives a photo a backlink to the collection. -/
def relink (place index : Nat) (collection : PublishedCollection) (photo : PublishedPhoto) :
    Convert Unit := do
  request backlinkTransaction
  let now ← readClock
  let url ← ofExcept (Backlink.make collection.identifier (.real now))
  match photo.refusal with
  | some family => throw (.host family "remote url rejected".toList)
  | none => setUrl place index url

/-- What became of a photo. -/
inductive Fate where
  /-- It has a backlink to the collection already. -/
  | kept
  | converted
  | failed
deriving DecidableEq, Repr

/-- The result with one more photo processed. -/
def countFate (result : ConversionResult) (fate : Fate) : ConversionResult :=
  { result with
    processed := result.processed + 1
    converted := result.converted + (if fate = .converted then 1 else 0)
    failed := result.failed + (if fate = .failed then 1 else 0) }

/-- Converts a photo. -/
def convertPhoto (place index : Nat) (collection : PublishedCollection) (photo : PublishedPhoto) :
    Convert Fate := do
  if ← ofExcept (Backlink.check collection.identifier photo.url) then
    let message ← ofExcept (keptMessage (← get).zone collection photo)
    write .info message
    return .kept
  else
    match ← observe (relink place index collection photo) with
    | .ok () => do
      write .info (about collection photo ++ "converted to new format.".toList)
      return .converted
    | .error failure =>
      if failure.family.isOwn then
        write .warning (about collection photo ++ "failed: ".toList ++ failure.message)
        return .failed
      else throw failure

/-- Converts the rest of the photos of a collection, of which `index` are processed. -/
def convertPhotos (place scope : Nat) (collection : PublishedCollection) :
    Nat → List PublishedPhoto → ConversionResult → Convert ConversionResult
  | _, [], result => return result
  | index, photo :: rest, result => do
    if ← isCancelled scope then
      write .info ("Convert(".toList ++ collection.name.display ++ "): canceled after ".toList ++
        Numeral.ofInt result.processed ++ " photos".toList)
      return result
    else
      let fate ← convertPhoto place index collection photo
      report scope (index + 1) collection.photos.length
      convertPhotos place scope collection (index + 1) rest (countFate result fate)

/-- Converts the photos of the collection at a place of the catalog. -/
def convertCollection (place : Nat) : Convert ConversionResult := do
  let collection := (← get).catalog.getD place default
  let title := "Converting collection '".toList ++ collection.name.display ++ ['\'']
  withScope title fun scope =>
    convertPhotos place scope collection 0 collection.photos
      { photos := collection.photos.length }

/-! ## Runs -/

/-- Converts the rest of the collections, of which `done` are done. -/
def convertCollections (scope total : Nat) :
    Nat → List Nat → ConversionSummary → Convert ConversionSummary
  | _, [], summary => return summary
  | done, place :: rest, summary => do
    if ← isCancelled scope then return summary
    else
      let result ← convertCollection place
      report scope (done + 1) total
      convertCollections scope total (done + 1) rest (summary.add result)

/-- Converts all collections of the services. -/
def convertAll (services : List (Folder Nat)) : Convert ConversionSummary := do
  write .info "ConvertAllPhotos: starting".toList
  if services.isEmpty then
    write .info "ConvertAllPhotos: No publish services found, done.".toList
    return {}
  let places := services.flatMap Folder.collections
  let summary : ConversionSummary := { collections := places.length }
  write .info ("ConvertAllPhotos: Found ".toList ++ Numeral.ofNat places.length ++
    " published collections in ".toList ++ Numeral.ofNat services.length ++
    " publish services".toList)
  if places.isEmpty then return summary
  let start ← readClock
  let summary ← withScope "Photo StatLr: Converting all collections".toList fun scope =>
    convertCollections scope places.length 0 places summary
  let stop ← readClock
  let summary := { summary with elapsed := .real (stop.sub start) }
  let message ← ofExcept summary.message
  write .info ("ConvertAllPhotos: done. ".toList ++ message)
  return summary

end Conversion

end PhotoPublish
