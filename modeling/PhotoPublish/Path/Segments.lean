import PhotoPublish.Text.Basic

/-!
# Segments of a path

A path is read as its *segments*, the longest runs of characters other than the two separators `/` and
`\`. `normalizePath` writes a path with single slashes between its segments; it works on the text itself.
`legalName` takes from a name all that no file or directory name may hold.
-/

set_option autoImplicit false

namespace PhotoPublish

/-- The two separators of paths. -/
def isSeparator (c : Char) : Bool :=
  c == '/' || c == '\\'

namespace Path

/-! ## Segments -/

/-- The run of characters at the start of a path, and the segments after it. -/
def runs : Text → Text × List Text
  | [] => ([], [])
  | c :: rest =>
    let (first, later) := runs rest
    if isSeparator c then ([], if first.isEmpty then later else first :: later)
    else (c :: first, later)

/-- The segments of a path. -/
def segments (path : Text) : List Text :=
  let (first, later) := runs path
  if first.isEmpty then later else first :: later

/-! ## Normal form -/

/-- The path with slashes for backslashes. -/
def slashed (path : Text) : Text :=
  path.map fun c => if c = '\\' then '/' else c

/-- The path with one slash for each run of slashes. -/
def squeezed : Text → Text
  | '/' :: '/' :: rest => squeezed ('/' :: rest)
  | c :: rest => c :: squeezed rest
  | [] => []

/-- The path without slashes at its ends. -/
def stripped (path : Text) : Text :=
  ((path.dropWhile (· = '/')).reverse.dropWhile (· = '/')).reverse

end Path

/-- The path with single slashes between its segments and nothing else. -/
def normalizePath (path : Text) : Text :=
  Path.stripped (Path.squeezed (Path.slashed path))

/-! ## Legal names -/

/-- The characters that no file or directory name may hold. -/
def illegalCharacters : List Char :=
  ['\\', '/', ':', '?', '*', '"', '<', '>', '|']

/-- What stands for an illegal character. -/
def replacement : Char := '-'

/-- The name with its illegal characters replaced. -/
def legalName (name : Text) : Text :=
  name.map fun c => if illegalCharacters.contains c then replacement else c

end PhotoPublish
