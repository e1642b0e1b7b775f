import PhotoPublish.Photo.CaptureDate
import PhotoPublish.Path.Segments

/-!
# Metadata of one evaluation

While a template is evaluated, a `Snapshot` keeps what has been read of the photo, so that no source is
read twice. `Evaluate.captureTime`, `Evaluate.formatted`, `Evaluate.segments` and
`Evaluate.collectionPaths` read a source when it is first needed; a source that fails is not kept.
-/

set_option autoImplicit false

namespace PhotoPublish

/-- What has been read of a photo. -/
structure Snapshot where
  captureTime : Option Binary64 := none
  formatted : Option Fields := none
  segments : Option (List Text) := none
  collectionPaths : Option (List Text) := none
deriving Inhabited

/-- The state of an evaluation. -/
structure Evaluation where
  visit : Visit
  snapshot : Snapshot := {}
deriving Inhabited

/-- A step of an evaluation. -/
abbrev Evaluate := ExceptT Failure (StateM Evaluation)

namespace Evaluate

/-- Reads from the photo. -/
def fetch {α : Type} (step : Fetch α) : Evaluate α :=
  ExceptT.mk fun state =>
    let (result, visit) := step.run.run state.visit
    (result, { state with visit := visit })

/-- What is kept of a source; if nothing is, it is read and kept. -/
def cached {α : Type} (kept : Snapshot → Option α) (keep : α → Snapshot → Snapshot) (read : Fetch α) :
    Evaluate α := do
  match kept (← get).snapshot with
  | some value => return value
  | none =>
    let value ← fetch read
    modify fun state => { state with snapshot := keep value state.snapshot }
    return value

/-- The capture time. -/
def captureTime (surroundings : Surroundings) (photo : Photo) : Evaluate Binary64 :=
  cached (·.captureTime) (fun time snapshot => { snapshot with captureTime := some time })
    (Prod.fst <$> photo.captureDate surroundings)

/-- The formatted metadata. -/
def formatted (photo : Photo) : Evaluate Fields :=
  cached (·.formatted) (fun fields snapshot => { snapshot with formatted := some fields })
    photo.fetchAllFormatted

/-- The segments of the photo's path; a photo without a path has none. -/
def segments (photo : Photo) : Evaluate (List Text) :=
  cached (·.segments) (fun segments snapshot => { snapshot with segments := some segments }) do
    let path ← photo.fetchRaw Photo.pathKey
    match path with
    | .null => return []
    | .text path => return Path.segments path
    | .moment _ => throw .wrongType
    | _ => throw .noOperation

/-- The paths of the collections that hold the photo. -/
def collectionPaths (photo : Photo) : Evaluate (List Text) :=
  cached (·.collectionPaths)
    (fun paths snapshot => { snapshot with collectionPaths := some paths }) do
      let lineages ← photo.fetchCollections
      .ofExcept (lineages.mapM Lineage.path)

end Evaluate

end PhotoPublish
