import PhotoPublish.Photo.Basic

/-!
# The capture date of a photo

`Photo.captureDate` is the instant of the first source that gives one: the date on which the photo was
taken, the date of digitizing, the date created, the file's own date, and if there is none the time of
the clock. Only the first of these says when the photo was taken; all others stand in for it. No source is
read after the one that decides.
-/

set_option autoImplicit false

namespace PhotoPublish

/-- A source of a capture date. -/
inductive DateSource where
  /-- Raw metadata, which may say when the photo was taken. -/
  | raw (key : Text) (taken : Bool)
  /-- The formatted date created. -/
  | created
  /-- The date of the file. -/
  | file
deriving DecidableEq, Repr

namespace DateSource

/-- The formatted metadata that holds the date created. -/
def createdKey : Text := "dateCreated".toList

/-- All sources, those that count most first. -/
def all : List DateSource :=
  [raw "dateTimeOriginal".toList true, raw "dateTimeOriginalISO8601".toList true,
    raw "dateTimeDigitized".toList false, raw "dateTimeDigitizedISO8601".toList false,
    created, file]

/-- Whether a source says when the photo was taken. -/
def isTaken : DateSource → Bool
  | raw _ taken => taken
  | created | file => false

/-- The instant that a created date denotes; it has to be a text. -/
def ofCreated (zone : Zone) (value : Value) : Except Failure (Option Binary64) :=
  if value.isSet then
    match value with
    | .text text => parseIsoDate zone text
    | _ => .error .wrongType
  else .ok none

/-- The date of the file at a path; a path that is not set is the empty one, and no file has a path
with a NUL. -/
def ofFile (surroundings : Surroundings) (path : Value) : Option Binary64 :=
  match path with
  | .text text => if text.contains '\x00' then none else surroundings.fileTime text
  | value => if value.isSet then none else surroundings.fileTime []

/-- The instant that a source gives. -/
def read (surroundings : Surroundings) (photo : Photo) : DateSource → Fetch (Option Binary64)
  | raw key _ => do
    let value ← photo.fetchRaw key
    .ofExcept (toTimestamp surroundings.zone value)
  | created => do
    let value ← photo.fetchFormatted createdKey
    .ofExcept (ofCreated surroundings.zone value)
  | file => do
    let path ← photo.fetchRaw Photo.pathKey
    return ofFile surroundings path

end DateSource

namespace Photo

/-- An instant that can be shown. -/
def showable (surroundings : Surroundings) (instant : Binary64) : Fetch Binary64 := do
  discard <| Fetch.ofExcept <|
    Timestamp.format surroundings.zone (.real instant) Timestamp.messageFormat
  return instant

/-- The first instant that the given sources give, and whether the photo was taken then. -/
def firstDate (surroundings : Surroundings) (photo : Photo) :
    List DateSource → Fetch (Option (Binary64 × Bool))
  | [] => return none
  | source :: rest => do
    match ← source.read surroundings photo with
    | some instant => return some (← showable surroundings instant, source.isTaken)
    | none => firstDate surroundings photo rest

/-- The capture date of a photo, and whether it is known when the photo was taken. -/
def captureDate (surroundings : Surroundings) (photo : Photo) : Fetch (Binary64 × Bool) := do
  match ← firstDate surroundings photo DateSource.all with
  | some found => return found
  | none =>
    let now ← Fetch.readClock
    return (← showable surroundings now, false)

end Photo

end PhotoPublish
