import PhotoPublish.Failure
import PhotoPublish.Path.Extension

/-!
# Relative paths

Here only the slash separates. `Path.absolute` is the list of directories that lead from the root to a
path, the current directory being the root; `.` stays where it is and `..` goes back, at the root nowhere.
`Path.relative` is the way from one directory to a path.
-/

set_option autoImplicit false

namespace PhotoPublish.Path

/-- What stands before the last slash, without trailing slashes unless it holds nothing else. -/
def directory (path : Text) : Text :=
  let (head, _) := cutName path
  if head.all (· = '/') then head else (head.reverse.dropWhile (· = '/')).reverse

/-- What stands after the last slash. -/
def fileName (path : Text) : Text :=
  (cutName path).2

/-- A path inside a directory; an absolute path stands for itself. -/
def inside (directory path : Text) : Text :=
  if path.head? = some '/' then path
  else if directory.isEmpty ∨ directory.getLast? = some '/' then directory ++ path
  else directory ++ '/' :: path

/-- The sign for the directory itself. -/
def here : Text := ['.']

/-- The sign for the directory above. -/
def above : Text := ['.', '.']

/-- Goes one step from a place, which is given by the directories above it, the nearest first. -/
def step (place : List Text) (name : Text) : List Text :=
  if name = [] ∨ name = here then place
  else if name = above then place.tail
  else name :: place

/-- The directories from the root to a path. -/
def absolute (path : Text) : List Text :=
  ((Text.splitOn '/' path).foldl step []).reverse

/-- The number of directories that two paths share from the root on. -/
def sharedDepth : List Text → List Text → Nat
  | a :: as, b :: bs => if a = b then sharedDepth as bs + 1 else 0
  | _, _ => 0

/-- The way from a directory to a path: up to the directory they share, then down. -/
def way (start target : List Text) : List Text :=
  let shared := sharedDepth start target
  List.replicate (start.length - shared) above ++ target.drop shared

/-- The way from a directory to a path that is not empty, as text. -/
def relative (path start : Text) : Except Failure Text :=
  if path.isEmpty then .error .noPath
  else match way (absolute start) (absolute path) with
    | [] => .ok here
    | steps => .ok (Text.join ['/'] steps)

end PhotoPublish.Path
