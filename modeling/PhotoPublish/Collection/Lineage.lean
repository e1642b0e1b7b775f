import PhotoPublish.Failure
import PhotoPublish.Path.Segments

/-!
# Collections and the sets around them

A `Lineage` is a collection with the sets that it lies in, the nearest first. `Lineage.path` is its place
by names and `Lineage.uploadPath` the album it is uploaded to: every set adds its base directory in front,
and the collection its own destination.
-/

set_option autoImplicit false

namespace PhotoPublish

/-- A mapping from names to values, as the host hands it over. -/
abbrev Fields := List (Text × Value)

namespace Fields

/-- The value of a name; null if there is none. -/
def get (fields : Fields) (name : Text) : Value :=
  (fields.lookup name).getD .null

end Fields

/-- A collection of photos, or a set of collections. -/
structure Collection where
  name : Option Text
  isSet : Bool := false
  settings : Option Fields := none
  isDefault : Bool := false
deriving Inhabited

namespace Collection

/-- The setting for the directory that a set adds. -/
def baseDirectory : Text := "baseDir".toList

/-- The setting for the destination of a collection. -/
def destination : Text := "dstRoot".toList

/-- The value of a setting; null if there is none. -/
def setting (collection : Collection) (key : Text) : Value :=
  (collection.settings.getD []).get key

/-- The setting of its own part of the upload path. -/
def ownDirectory (collection : Collection) : Value :=
  collection.setting (if collection.isSet then baseDirectory else destination)

end Collection

/-- A collection and the sets around it, the nearest first. -/
structure Lineage where
  self : Collection
  ancestors : List Collection := []
deriving Inhabited

/-- The normal form of a path of any type; null has none. -/
def normalizeValue : Value → Except Failure (Option Text)
  | .null => .ok none
  | .text path => .ok (some (normalizePath path))
  | .moment _ => .error .wrongType
  | _ => .error .noOperation

namespace Lineage

/-- A name that the host gives. -/
def givenName (collection : Collection) : Except Failure Text :=
  match collection.name with
  | some name => .ok name
  | none => .error .wrongType

/-- The names from the root down, those of the sets made legal. -/
def levels (lineage : Lineage) : Except Failure (List Text) := do
  let own ← givenName lineage.self
  let names ← lineage.ancestors.mapM givenName
  return (names.map legalName).reverse ++ [own]

/-- The place of a collection by names. -/
def path (lineage : Lineage) : Except Failure Text := do
  return normalizePath (Text.join ['/'] (← lineage.levels))

/-- A path, as far as it is known, with the base directories of the sets around it in front. -/
def withBases : Value → List Collection → Except Failure Value
  | path, [] => .ok path
  | path, set :: outer => do
    match ← normalizeValue (set.setting Collection.baseDirectory), path with
    | none, _ | some [], _ => withBases path outer
    | some base, .text path => withBases (.text (base ++ '/' :: path)) outer
    | some _, _ => throw .wrongType

/-- The album that a collection is uploaded to; placeholders in it are kept. -/
def uploadPath (lineage : Lineage) : Except Failure Text := do
  let own := lineage.self.ownDirectory
  let path ← withBases (if own.isSet then own else .text []) lineage.ancestors
  return (← normalizeValue path).getD []

end Lineage

end PhotoPublish
