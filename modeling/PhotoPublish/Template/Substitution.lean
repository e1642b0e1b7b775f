import PhotoPublish.Pattern.Match
import PhotoPublish.Template.Arguments
import PhotoPublish.Template.Placeholder
import PhotoPublish.Template.Snapshot

/-!
# Values of placeholders

`Placeholder.value` is the text that stands for a placeholder when a template is evaluated for a photo.
A placeholder whose arguments make no sense stands for itself, one without a value for its default.
Values of metadata are made legal names.
-/

set_option autoImplicit false

namespace PhotoPublish

namespace Pattern.Fault

/-- The failure that a fault in a pattern is; a pattern that breaks the notation is none. -/
def failure? : Fault → Option Failure
  | malformed => none
  | hugeCount => some .hugeCount
  | conflictingFlags => some .conflictingFlags

end Pattern.Fault

namespace Placeholder

variable [Pattern.CharacterNames]

/-- A result that depends on a pattern; a placeholder with a malformed pattern stands for itself. -/
def orSelf (p : Placeholder) (result : Except Pattern.Fault Text) : Except Failure Text :=
  match result with
  | .ok text => .ok text
  | .error fault =>
    match fault.failure? with
    | none => .ok p.text
    | some failure => .error failure

/-- What a pattern takes from a value, as a legal name. -/
def extracted (p : Placeholder) (value : Text) (pattern : Option Text) : Except Failure Text :=
  if value.isEmpty then .ok p.fallback
  else match pattern with
    | none => .ok (legalName value)
    | some pattern =>
      p.orSelf <| (Pattern.extract value pattern).map fun
        | some part => legalName part
        | none => p.fallback

/-- The capture date by the format. -/
def dateValue (surroundings : Surroundings) (photo : Photo) (p : Placeholder) : Evaluate Text :=
  if p.args.trim.isEmpty then return p.fallback
  else
    tryCatch
      (do
        let time ← Evaluate.captureTime surroundings photo
        let text ← Evaluate.fetch <| .ofExcept <|
          Timestamp.format surroundings.zone (.real time) p.args
        return if text.isEmpty then p.fallback else text)
      fun failure => if failure.family = .invalidValue then return p.text else throw failure

/-- The text of a metadata value; null has the empty one. -/
def metadataText : Value → Except Failure Text
  | .null => .ok []
  | value => if value.hasLongWhole then .error .longWhole else .ok value.display

/-- A formatted metadata value. -/
def formattedValue (photo : Photo) (p : Placeholder) : Evaluate Text := do
  let (key, pattern) := splitArguments .word p.args
  let fields ← Evaluate.formatted photo
  let value ← .fetch (.ofExcept (metadataText (fields.get key)))
  .fetch (.ofExcept (p.extracted value pattern))

/-- The directory at a level of the photo's path. The last segment is the file and no directory. -/
def directoryAt (segments : List Text) (level : Int) : Text :=
  if 0 < level ∧ level < segments.length then segments.getD (level.toNat - 1) [] else []

/-- A directory of the photo's path. -/
def pathValue (photo : Photo) (p : Placeholder) : Evaluate Text := do
  let (key, pattern) := splitArguments .level p.args
  if key.isEmpty || !key.all isDigitCharacter then return p.text
  let level ← Evaluate.fetch (.ofExcept (Numeral.read 10 key))
  let segments ← Evaluate.segments photo
  .fetch (.ofExcept (p.extracted (directoryAt segments level) pattern))

/-- What a placeholder shows of a collection. -/
inductive CollectionPart where
  | name
  | path
deriving DecidableEq, Repr

/-- The part of a word. -/
def CollectionPart.ofName? (name : Text) : Option CollectionPart :=
  if name = "name".toList then some .name
  else if name = "path".toList then some .path
  else none

/-- The part of a collection's path. -/
def CollectionPart.of (part : CollectionPart) (path : Text) : Text :=
  match part with
  | name => Text.afterLast '/' path
  | CollectionPart.path => path

/-- The first value that a pattern matches. -/
def firstMatch (pattern : Option Text) : List Text → Except Pattern.Fault (Option Text)
  | [] => .ok none
  | value :: rest => do
    let matched ← match pattern with
      | none => pure true
      | some pattern => Pattern.occursIn pattern value
    if matched then return some value else firstMatch pattern rest

/-- The first collection of the photo that the filter lets through. -/
def collectionValue (photo : Photo) (p : Placeholder) : Evaluate Text := do
  let (key, filter) := splitArguments .word p.args
  match CollectionPart.ofName? key with
  | none => return p.text
  | some part =>
    let paths ← Evaluate.collectionPaths photo
    let found := firstMatch filter (paths.map part.of)
    .fetch (.ofExcept (p.orSelf (found.map (·.getD p.fallback))))

/-- The text that stands for a placeholder. -/
def value (surroundings : Surroundings) (photo : Photo) (p : Placeholder) : Evaluate Text :=
  match p.category with
  | .date => p.dateValue surroundings photo
  | .formatted => p.formattedValue photo
  | .path => p.pathValue photo
  | .collection => p.collectionValue photo

end Placeholder

end PhotoPublish
