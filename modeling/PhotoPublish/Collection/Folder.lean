import PhotoPublish.Text.Basic

/-!
# Trees of collections

A `Folder` is a publish service or a set of collections: the collections in it, then the sets in it.
`Folder.collections` walks the tree with a list of folders still to visit; `Folder.inOrder` is the same
order by recursion, the collections of a set before those of the sets in it.
-/

set_option autoImplicit false

namespace PhotoPublish

/-- A tree of collections. -/
inductive Folder (α : Type) where
  | node (collections : List α) (sets : List (Folder α))
deriving Inhabited

namespace Folder

variable {α : Type}

/-- The collections right in a folder. -/
def own : Folder α → List α
  | node collections _ => collections

/-- The sets right in a folder. -/
def sets : Folder α → List (Folder α)
  | node _ sets => sets

mutual

/-- The number of folders in a tree. -/
def size : Folder α → Nat
  | node _ sets => sizeOfAll sets + 1

/-- The number of folders in several trees. -/
def sizeOfAll : List (Folder α) → Nat
  | [] => 0
  | folder :: rest => size folder + sizeOfAll rest

end

theorem sizeOfAll_append (a b : List (Folder α)) :
    sizeOfAll (a ++ b) = sizeOfAll a + sizeOfAll b := by
  induction a with
  | nil => simp [sizeOfAll]
  | cons folder rest ih => simp [sizeOfAll, ih, Nat.add_assoc]

theorem sizeOfAll_sets_lt (folder : Folder α) : sizeOfAll folder.sets < folder.size := by
  cases folder
  simp [sets, size]

/-- The collections of the folders to visit, each folder's own before those of its sets. -/
def visit : List (Folder α) → List α
  | [] => []
  | folder :: rest => folder.own ++ visit (folder.sets ++ rest)
termination_by folders => sizeOfAll folders
decreasing_by
  have := sizeOfAll_sets_lt folder
  simp only [sizeOfAll, sizeOfAll_append]
  omega

/-- All collections in a tree. -/
def collections (root : Folder α) : List α :=
  visit [root]

/-- The first collection with a property in the folders to visit. -/
def search (holds : α → Bool) : List (Folder α) → Option α
  | [] => none
  | folder :: rest =>
    match folder.own.find? holds with
    | some found => some found
    | none => search holds (folder.sets ++ rest)
termination_by folders => sizeOfAll folders
decreasing_by
  have := sizeOfAll_sets_lt folder
  simp only [sizeOfAll, sizeOfAll_append]
  omega

/-- The first collection with a property in a tree. -/
def find? (holds : α → Bool) (root : Folder α) : Option α :=
  search holds [root]

mutual

/-- All collections in a tree, by recursion. -/
def inOrder : Folder α → List α
  | node collections sets => collections ++ inOrderAll sets

/-- All collections in several trees, by recursion. -/
def inOrderAll : List (Folder α) → List α
  | [] => []
  | folder :: rest => inOrder folder ++ inOrderAll rest

end

end Folder

end PhotoPublish
