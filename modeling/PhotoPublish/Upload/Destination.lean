import PhotoPublish.Path.Relative
import PhotoPublish.Photo.Basic

/-!
# Upload destinations

`Photo.destination` is the path of a rendered photo below the source folders, and the path it is uploaded
to. A virtual copy has its copy name in the file name. A photo whose rendered file has another extension
may get the extension of its source into the file name. The path is either the file name alone or, if the
source tree is copied, the way from the root of the source folders.
-/

set_option autoImplicit false

namespace PhotoPublish

/-- How upload paths are made. -/
structure UploadMode where
  /-- Whether the source's extension goes into the names of files with another one. -/
  keepsExtension : Bool
  /-- Whether the tree of source folders is copied. -/
  copiesTree : Bool
  /-- The root of the source folders. -/
  sourceRoot : Value

/-- Where a photo goes: its path relative to the source folders, and the path it is uploaded to. -/
structure Destination where
  localPath : Text
  remotePath : Text
deriving DecidableEq, Repr

namespace Destination

/-- A path with slashes only; it has to be a text. -/
def slashedPath : Value → Except Failure Text
  | .text path => .ok (Path.slashed path)
  | .moment _ => .error .wrongType
  | _ => .error .noOperation

/-- A text, an empty one for a value that is not set. -/
def copyName (value : Value) : Except Failure Text :=
  match value with
  | .text name => .ok name
  | value => if value.isSet then .error .wrongType else .ok []

/-- The path with the copy name in the file name. -/
def withCopyName (path name extension : Text) : Text :=
  Path.addSuffix path ('-' :: name) extension

/-- The path with the source's extension in the file name. -/
def withSourceExtension (path source extension : Text) : Text :=
  Path.addSuffix path ('_' :: source) extension

/-- The path below an album; the album may be the root. -/
def inAlbum (album path : Text) : Text :=
  if album.isEmpty then path else album ++ '/' :: path

end Destination

namespace UploadMode

/-- The way to a rendered file, by its name alone or from the root of the source folders. -/
def localPath (mode : UploadMode) (rendered : Text) : Except Failure Text :=
  if mode.copiesTree then do
    let root ← if mode.sourceRoot.isSet then Destination.slashedPath mode.sourceRoot else .ok []
    Path.relative rendered root
  else .ok (Path.fileName rendered)

end UploadMode

namespace Photo

/-- The raw metadata of virtual copies. -/
def virtualCopyKey : Text := "isVirtualCopy".toList

/-- The raw metadata of videos. -/
def videoKey : Text := "isVideo".toList

/-- The formatted metadata that holds the copy name. -/
def copyNameKey : Text := "copyName".toList

/-- Where a photo goes whose rendered file has the given name. -/
def destination (photo : Photo) (mode : UploadMode) (filename album : Text) : Fetch Destination := do
  let source ← Fetch.ofExcept (Destination.slashedPath (← photo.fetchRaw pathKey))
  let sourceExtension := Path.extension source
  let extension := Path.extension filename
  let plain := Path.inside (Path.directory source) filename
  let named ←
    if (← photo.fetchRaw virtualCopyKey).isSet then do
      let name ← Fetch.ofExcept (Destination.copyName (← photo.fetchFormatted copyNameKey))
      pure (Destination.withCopyName plain name extension)
    else pure plain
  let isVideo := (← photo.fetchRaw videoKey).isSet
  let rendered :=
    if !isVideo && mode.keepsExtension && sourceExtension.lower != extension.lower then
      Destination.withSourceExtension named sourceExtension extension
    else named
  let path ← Fetch.ofExcept (mode.localPath rendered)
  return { localPath := path, remotePath := Destination.inAlbum album path }

end Photo

end PhotoPublish
