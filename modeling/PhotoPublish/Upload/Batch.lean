import PhotoPublish.Albums.CheckList
import PhotoPublish.Config.Basic
import PhotoPublish.Template.Basic
import PhotoPublish.Upload.Destination

/-!
# Batches of uploads

An `UploadBatch` gives the photos of one export their destinations and collects the albums to check for
emptiness afterwards. The album is the value of the destination template. Files keep their rendered names
unless they are renamed by the file name template, which has to make a name.
-/

set_option autoImplicit false

namespace PhotoPublish

/-- A batch of uploads. -/
structure UploadBatch where
  config : Config
  albums : CheckList := []

namespace UploadBatch

/-- A batch with the config that the given entries make. -/
def ofEntries (entries : Entries) : Except Failure UploadBatch := do
  return { config := ← Config.validate entries }

/-- A template whose pattern may be of any type. -/
structure PatternSource where
  kind : TemplateKind
  pattern : Value

namespace PatternSource

/-- The template, if the pattern is a text or null. -/
def template? (source : PatternSource) : Except Failure Template :=
  match source.pattern with
  | .text pattern => .ok ⟨source.kind, some pattern⟩
  | .null => .ok ⟨source.kind, none⟩
  | .list _ | .map _ | .enclosing _ => .error .noOperation
  | _ => .error .wrongType

/-- The text that shows a template. -/
def shown (source : PatternSource) : Text :=
  let name := match source.kind with
    | .path => "Template"
    | .filename => "NameTemplate"
  Value.quotedCall name [source.pattern.quoted]

end PatternSource

/-- The pattern of the destination album. -/
def albumPattern (batch : UploadBatch) : PatternSource :=
  let pattern := batch.config.value .destination
  ⟨.path, if pattern.isSet then pattern else .text []⟩

/-- The pattern of file names, if files are renamed. -/
def filenamePattern (batch : UploadBatch) : Option PatternSource :=
  if (batch.config.value .rename).isSet then some ⟨.filename, batch.config.value .filename⟩ else none

/-- The text that shows a batch. -/
def shown (batch : UploadBatch) : Text :=
  let filename := match batch.filenamePattern with
    | some source => source.shown
    | none => "None".toList
  Value.quotedCall "PublishPathResolver"
    ["album=".toList ++ batch.albumPattern.shown, "filename=".toList ++ filename]

/-- How the upload paths of the batch are made. -/
def mode (batch : UploadBatch) : UploadMode :=
  { keepsExtension := (batch.config.value .rawAndOthers).isSet
    copiesTree := (batch.config.value .copyTree).isSet
    sourceRoot := batch.config.value .sourceRoot }

/-- Whether a template made a file name. -/
def isFilename (name : Text) : Bool :=
  !name.isEmpty && name != Template.missing

/-- A file name with the extension of the rendered file. -/
def withExtension (name rendered : Text) : Text :=
  let extension := Path.extension rendered
  if extension.isEmpty then name else name ++ '.' :: extension

section Values

variable [Pattern.CharacterNames]

/-- The value of a template for a photo. -/
def valueOf (source : PatternSource) (surroundings : Surroundings) (photo : Photo) :
    Fetch (Option Text) := do
  let template ← Fetch.ofExcept source.template?
  template.evaluate surroundings photo

/-- The album of a photo. -/
def album (batch : UploadBatch) (surroundings : Surroundings) (photo : Photo) : Fetch Text :=
  (·.getD []) <$> valueOf batch.albumPattern surroundings photo

/-- The file name of a photo. -/
def filename (batch : UploadBatch) (surroundings : Surroundings) (photo : Photo) (rendered : Text) :
    Fetch Text := do
  match batch.filenamePattern with
  | none => return rendered
  | some source =>
    let name := (← valueOf source surroundings photo).getD []
    if isFilename name then return withExtension name rendered
    else
      let path ← photo.fetchRaw Photo.pathKey
      throw (.badFilename (.text name) source.pattern path)

/-- Where a photo goes. -/
def resolve (batch : UploadBatch) (surroundings : Surroundings) (photo : Photo) (rendered : Text) :
    Fetch Destination := do
  let album ← batch.album surroundings photo
  let filename ← batch.filename surroundings photo rendered
  photo.destination batch.mode filename album

end Values

/-- Notes the album of a photo that was removed or moved. -/
def noteRemoved (batch : UploadBatch) (remotePath : Text) : UploadBatch :=
  { batch with albums := batch.albums.noteAlbum remotePath }

end UploadBatch

end PhotoPublish
