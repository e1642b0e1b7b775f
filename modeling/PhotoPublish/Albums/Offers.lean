import PhotoPublish.Albums.CheckList
import PhotoPublish.Failure

/-!
# Offers to a check list

The host may offer things that are no albums. An `OfferedList` is a check list, or holds one such thing:
only an empty list takes it in, and no album can be compared with it afterwards. On albums,
`OfferedList.add` is `CheckList.add`.
-/

set_option autoImplicit false

namespace PhotoPublish

/-- A check list, or one thing that is no album. -/
inductive OfferedList where
  | albums (list : CheckList)
  | lone (entry : Value)

namespace OfferedList

/-- The entries in their order. -/
def entries : OfferedList → List Value
  | albums list => list.map Value.text
  | lone entry => [entry]

/-- The list after something was offered, and whether it got in. -/
def add (offer : Value) : OfferedList → Except Failure (OfferedList × Bool)
  | lone _ => .error .noOperation
  | albums list =>
    match offer, list with
    | .text album, list => .ok (albums (list.add album).1, (list.add album).2)
    | offer, [] => .ok (lone offer, true)
    | _, _ :: _ => .error .wrongType

/-- The list after the album of a photo was offered. -/
def noteAlbum (photoPath : Value) (list : OfferedList) : Except Failure OfferedList :=
  match photoPath with
  | .text path =>
    match CheckList.albumOf? path with
    | some album => (add (.text album) list).map Prod.fst
    | none => .ok list
  | _ => .error .wrongType

/-- The first entries, up to a number of them, and the list without them. -/
def drain (count : Nat) : OfferedList → List Value × OfferedList
  | albums list => ((list.take count).map Value.text, albums (list.drop count))
  | lone entry => if count = 0 then ([], lone entry) else ([entry], albums [])

/-- The entries of a drain to the end, when after each of them one more thing is offered, as long as there
are any. -/
def drainAdding : OfferedList → List Value → Except Failure (List Value)
  | list, [] => .ok list.entries
  | list, offer :: more =>
    match list.drain 1 with
    | ([], _) => .ok []
    | (first :: _, rest) => do
      let (longer, _) ← add offer rest
      return first :: (← drainAdding longer more)

/-- The list after for each of its entries the album was offered whose path goes on with a suffix. -/
def addBelow (suffix : Text) : OfferedList → Except Failure OfferedList
  | albums list =>
    .ok (albums (list.foldl (fun longer album => (longer.add (album ++ suffix)).1) list))
  | lone _ => .error .wrongType

/-- Whether an entry is shown as the given thing is. -/
def contains (entry : Value) (list : OfferedList) : Bool :=
  list.entries.any fun other => other.quoted == entry.quoted

/-- The text that shows a list. -/
def shown (list : OfferedList) : Text :=
  Value.quotedCall "AlbumCheckList" [(Value.list list.entries).quoted]

/-- On albums, an offer is an addition. -/
theorem add_text (list : CheckList) (album : Text) :
    add (.text album) (albums list) = .ok (albums (list.add album).1, (list.add album).2) := by
  cases list <;> rfl

end OfferedList

end PhotoPublish
