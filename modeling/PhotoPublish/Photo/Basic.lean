import PhotoPublish.Calendar.Display
import PhotoPublish.Collection.Lineage

/-!
# Photos

A `Photo` has raw metadata, metadata formatted by the host, and collections it lies in. Reading any of
them is a `Call` to the host, which a `Visit` records, and the clock is read in the same way. A step of
reading is a `Fetch`; what it recorded stays when it fails.
-/

set_option autoImplicit false

namespace PhotoPublish

/-- A photo of the host. -/
structure Photo where
  raw : Fields := []
  formatted : Option Fields := some []
  collections : Option (List Lineage) := some []
deriving Inhabited

/-- A call to the host about a photo. -/
inductive Call where
  | raw (key : Text)
  /-- All formatted metadata. -/
  | allFormatted
  | formatted (key : Text)
  | collections
deriving DecidableEq, Repr

/-- A clock: its next reading, the readings after that, and the number of readings so far. The last
reading is repeated. -/
structure Clock where
  now : Binary64
  later : List Binary64 := []
  readings : Nat := 0
deriving Inhabited

namespace Clock

/-- The clock after its next reading. -/
def tick (clock : Clock) : Clock :=
  { now := clock.later.headD clock.now, later := clock.later.tail, readings := clock.readings + 1 }

end Clock

/-- Where photos are looked at: the local time zone, and the times at which files were made. -/
structure Surroundings where
  zone : Zone := Zone.utc
  fileTime : Text → Option Binary64 := fun _ => none

/-- What has been asked of the host so far, in order, and the clock. -/
structure Visit where
  calls : List Call := []
  clock : Clock
deriving Inhabited

/-- A step of reading. -/
abbrev Fetch := ExceptT Failure (StateM Visit)

namespace Fetch

/-- Records a call. -/
def record (call : Call) : Fetch Unit :=
  modify fun visit => { visit with calls := visit.calls ++ [call] }

/-- Reads the clock. -/
def readClock : Fetch Binary64 := do
  let visit ← get
  set { visit with clock := visit.clock.tick }
  return visit.clock.now

/-- Passes a result on. -/
def ofExcept {α : Type} (result : Except Failure α) : Fetch α :=
  ExceptT.mk (pure result)

end Fetch

namespace Photo

/-- Asks for raw metadata. -/
def fetchRaw (photo : Photo) (key : Text) : Fetch Value := do
  .record (.raw key)
  return photo.raw.get key

/-- Asks for one formatted value. -/
def fetchFormatted (photo : Photo) (key : Text) : Fetch Value := do
  .record (.formatted key)
  return (photo.formatted.getD []).get key

/-- Asks for all formatted metadata. -/
def fetchAllFormatted (photo : Photo) : Fetch Fields := do
  .record .allFormatted
  return photo.formatted.getD []

/-- Asks for the collections the photo lies in. -/
def fetchCollections (photo : Photo) : Fetch (List Lineage) := do
  .record .collections
  return photo.collections.getD []

/-- The raw metadata that holds the path of the file. -/
def pathKey : Text := "path".toList

end Photo

end PhotoPublish
