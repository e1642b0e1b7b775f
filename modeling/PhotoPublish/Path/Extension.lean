import PhotoPublish.Path.Segments
import PhotoPublish.Text.Case

/-!
# Extensions

The extension of a path is what follows the last point of its last segment, unless only points stand in
front of that point. `Path.stem` is the path without its extension.
-/

set_option autoImplicit false

namespace PhotoPublish.Path

/-- The path up to its last slash, and what follows. -/
def cutName (path : Text) : Text × Text :=
  match Text.cutLast? '/' path with
  | some (directory, name) => (directory ++ ['/'], name)
  | none => ([], path)

/-- The parts of a name around the point of its extension. -/
def cutExtension? (name : Text) : Option (Text × Text) :=
  match Text.cutLast? '.' name with
  | some (before, after) => if before.all (· = '.') then none else some (before, after)
  | none => none

/-- The path without its extension and the point in front of it. -/
def stem (path : Text) : Text :=
  let (directory, name) := cutName path
  match cutExtension? name with
  | some (before, _) => directory ++ before
  | none => path

/-- The extension of a path, without the point. -/
def extension (path : Text) : Text :=
  match cutExtension? (cutName (slashed path)).2 with
  | some (_, after) => after
  | none => []

/-- The path with a suffix between its stem and a new extension. -/
def addSuffix (path suffix newExtension : Text) : Text :=
  stem path ++ suffix ++ '.' :: newExtension

/-- The extensions of raw images. -/
def rawExtensions : List Text :=
  ["3fr", "arw", "cr2", "dng", "dcr", "erf", "mef", "mrw", "nef", "orf", "pef", "raf", "raw", "rw2",
    "srw", "x3f"].map String.toList

/-- The extensions of videos. -/
def videoExtensions : List Text :=
  ["3gp", "3gpp", "avchd", "avi", "m2t", "m2ts", "m4v", "mov", "mp4", "mpe", "mpg",
    "mts"].map String.toList

/-- Whether a path has the extension of a raw image, in any case. -/
def isRaw (path : Text) : Bool :=
  rawExtensions.contains (extension path).lower

/-- Whether a path has the extension of a video, in any case. -/
def isVideo (path : Text) : Bool :=
  videoExtensions.contains (extension path).lower

end PhotoPublish.Path
