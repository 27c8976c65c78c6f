import ComponentDocs.Glob

/-!
# Source files

The source files are the files that a list of patterns selects: pattern by pattern, the paths of one
pattern in order, and each path only where it is selected first.
-/

set_option autoImplicit false

namespace ComponentDocs.Sources

/-- A list of paths with a path at its end, unless it is there already. -/
def addNew (found : List Path) (p : Path) : List Path :=
  if found.contains p then found else found ++ [p]

/-- The paths of one pattern in order. -/
def sorted (paths : List Path) : List Path :=
  paths.mergeSort fun p q => !q.before p

/-- The files among the paths that several patterns select, each at its first place. -/
def union (isFile : Path → Bool) (selections : List (List Path)) : List Path :=
  (selections.flatMap fun paths => (sorted paths).filter isFile).foldl addNew []

/-- The files below a directory that a list of patterns selects. -/
def select (fs : FileSystem) (directory : Path) (patterns : List Text) :
    Except Glob.Error (List Path) := do
  let selections ← patterns.mapM (Glob.glob fs directory)
  return union fs.isFile selections

end ComponentDocs.Sources
