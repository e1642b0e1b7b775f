import PhotoPublish.Text.Basic

/-!
# Albums to check for emptiness

When photos are deleted or moved, their albums may become empty. A `CheckList` holds the albums to check,
the longest first, so that an album comes before the one it lies in. `CheckList.add` leaves out an album
that begins an album of the list, `CheckList.noteAlbum` adds the album of a photo and
`CheckList.takeFirst?` takes the first album off. A `CheckList.Event` is one such change.
-/

set_option autoImplicit false

namespace PhotoPublish

/-- Albums to check, the longest first. -/
abbrev CheckList := List Text

namespace CheckList

/-- The list after an album was offered, `none` if it did not get in. It goes in front of the first album
that is not longer. An album on the way there that begins with the new one keeps it out. -/
def insert? (album : Text) : CheckList → Option CheckList
  | [] => some [album]
  | first :: rest =>
    if album.isPrefixOf first then none
    else if first.length ≤ album.length then some (album :: first :: rest)
    else (insert? album rest).map (first :: ·)

/-- The list after an album was offered, and whether it got in. -/
def add (list : CheckList) (album : Text) : CheckList × Bool :=
  match insert? album list with
  | some longer => (longer, true)
  | none => (list, false)

/-- Whether a file name follows a slash at the start of a text. -/
def startsFile : Text → Bool
  | '/' :: c :: _ => c != '/'
  | _ => false

/-- The longest part of a path on its first line, not empty, after which a slash and the start of a name
follow. -/
def albumOf? : Text → Option Text
  | [] => none
  | c :: rest =>
    if c = '\n' then none
    else match albumOf? rest with
      | some album => some (c :: album)
      | none => if startsFile rest then some [c] else none

/-- The list after the album of a photo was offered; photos outside albums change nothing. -/
def noteAlbum (list : CheckList) (photoPath : Text) : CheckList :=
  match albumOf? photoPath with
  | some album => (list.add album).1
  | none => list

/-- The first album, and the list without it. -/
def takeFirst? : CheckList → Option (Text × CheckList)
  | [] => none
  | first :: rest => some (first, rest)

/-! ## Changes -/

/-- A change of a list. Any number of drains may be under way; each of their steps takes the first
album. -/
inductive Event where
  | add (album : Text)
  | note (photoPath : Text)
  | drain
deriving DecidableEq, Repr

namespace Event

/-- The list after a change. -/
def apply (event : Event) (list : CheckList) : CheckList :=
  match event with
  | add album => (list.add album).1
  | note photoPath => list.noteAlbum photoPath
  | drain => list.tail

end Event

/-- The list after changes, one after the other. -/
def run (list : CheckList) (events : List Event) : CheckList :=
  events.foldl (fun list event => event.apply list) list

end CheckList

end PhotoPublish
