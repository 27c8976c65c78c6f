import ComponentDocs.Text.Basic

/-!
# Paths

A path is a list of names, counted from the root of the file system or from the working directory.
Empty names and single dots are dropped when a path is read; double dots are kept, and are taken back
only when a path is made absolute. Two slashes in front are kept apart from one, although they lead
to the same root.
-/

set_option autoImplicit false

namespace ComponentDocs

/-- Where a path starts. -/
inductive Path.Start where
  | workingDirectory
  | root
  | doubleRoot
deriving DecidableEq

/-- A path to a file or a directory. -/
structure Path where
  start : Path.Start
  parts : List Text
deriving DecidableEq

namespace Path

/-- The slashes that a path begins with. -/
def Start.render : Start → Text
  | workingDirectory => []
  | root => ['/']
  | doubleRoot => ['/', '/']

/-- The start of a path by the slashes in front of it; more than two count as one. -/
def Start.ofText : Text → Start
  | '/' :: '/' :: '/' :: _ => root
  | '/' :: '/' :: _ => doubleRoot
  | '/' :: _ => root
  | _ => workingDirectory

/-- Whether a path is counted from the root. -/
def isAbsolute (p : Path) : Bool :=
  p.start != .workingDirectory

/-- The name of the parent of a directory. -/
def up : Text := ".."

/-- The names between the slashes of a text, without empty names and single dots. -/
def names (t : Text) : List Text :=
  (t.pieces (· == '/')).filter fun p => !p.isEmpty && p != "."

/-- The path that a text spells. -/
def parse (t : Text) : Path :=
  ⟨Start.ofText t, names t⟩

/-- The text of a path; the path without names is a single dot. -/
def render (p : Path) : Text :=
  if !p.isAbsolute && p.parts.isEmpty then ['.']
  else p.start.render ++ Text.join ['/'] p.parts

/-- The last name of a path; it is empty when there is none. -/
def name (p : Path) : Text :=
  p.parts.getLast?.getD []

/-- The path with one more name. -/
def child (p : Path) (name : Text) : Path :=
  { p with parts := p.parts ++ [name] }

/-- The path without its last name. -/
def parent (p : Path) : Path :=
  { p with parts := p.parts.dropLast }

/-- The last name from its last dot on. A dot at either end of the name does not count. -/
def suffix (p : Path) : Text :=
  let tail := (p.name.reverse.takeWhile fun (c : CodePoint) => c != '.').reverse
  if tail.isEmpty || p.name.length ≤ tail.length + 1 then [] else '.' :: tail

/-- A list of names with each double dot taken back together with the name before it. -/
def collapse (parts : List Text) : List Text :=
  parts.foldl (fun done p => if p = up then done.dropLast else done ++ [p]) []

/-- A path counted from the root, when the relative one starts at the given directory. -/
def resolve (workingDirectory : List Text) (p : Path) : Path :=
  ⟨.root, collapse (if p.isAbsolute then p.parts else workingDirectory ++ p.parts)⟩

/-- The slashes that a path begins with as one more name, if there are any. -/
def Start.marks : Start → List Text
  | workingDirectory => []
  | start => [start.render]

/-- What the order of paths compares: the slashes in front and the names. -/
def components (p : Path) : List Text :=
  p.start.marks ++ p.parts

/-- The order of paths: by slashes and names, one after the other. Names without slashes leave no two
paths alike in this; among others that are, the one with fewer names comes first. -/
def before (p q : Path) : Bool :=
  if p.components = q.components then p.parts.length < q.parts.length
  else p.components.lex q.components Text.before

end Path

end ComponentDocs
