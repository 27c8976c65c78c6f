import ComponentDocs.FileName
import ComponentDocs.Path
import ComponentDocs.Text.Utf8

/-!
# File trees

The files that the program can see, as a value: a tree of directories with the octets of each file.
Looking up a path follows its names one by one, so a name behind a file leads nowhere, and a name
that is too long is an error only where it is reached.
-/

set_option autoImplicit false

namespace ComponentDocs

/-- A file or a directory. -/
inductive FileTree where
  | file (octets : List UInt8)
  | directory (entries : List (Text × FileTree))
deriving Inhabited

namespace FileTree

/-- The entries of a directory; a file has none. -/
def entries : FileTree → List (Text × FileTree)
  | file _ => []
  | directory es => es

/-- Whether a tree is a directory. -/
def isDirectory : FileTree → Bool
  | file _ => false
  | directory _ => true

/-- The tree under a list of names without double dots. -/
def get? (t : FileTree) : List Text → Option FileTree
  | [] => some t
  | name :: rest =>
      match t.entries.lookup name with
      | none => none
      | some sub => sub.get? rest

/-- Why it cannot be told what a path leads to. -/
inductive LookupError where
  | nameTooLong
deriving DecidableEq

/-- The place where a list of names leads from a place, if every step on the way exists. -/
def follow (t : FileTree) (place : List Text) :
    List Text → Except LookupError (Option (List Text))
  | [] => .ok (some place)
  | name :: rest =>
      match t.get? place with
      | some (directory es) =>
          if name = Path.up then t.follow place.dropLast rest
          else if FileName.isTooLong name then .error .nameTooLong
          else if (es.lookup name).isSome then t.follow (place ++ [name]) rest
          else .ok none
      | _ => .ok none

/-- The entries of a directory with something under a name, in the place of what was there. -/
def setEntry (name : Text) (new : FileTree) : List (Text × FileTree) → List (Text × FileTree)
  | [] => [(name, new)]
  | (k, t) :: rest => if k = name then (k, new) :: rest else (k, t) :: setEntry name new rest

/-- The tree with something put under a list of names, directories on the way being made. -/
def put : FileTree → List Text → FileTree → FileTree
  | _, [], new => new
  | t, name :: rest, new =>
      let below := (t.entries.lookup name).getD (directory [])
      directory (setEntry name (below.put rest new) t.entries)

end FileTree

/-- A file system: the tree below its root, the working directory, the home directory, and the home
directories of users by name. -/
structure FileSystem where
  root : FileTree := .directory []
  workingDirectory : List Text := []
  home : List Text := []
  homes : List (Text × List Text) := []

namespace FileSystem

/-- The number of octets from which on a path is too long as a whole. -/
def pathLimit : Nat := 4096

/-- What a path leads to, if it leads anywhere. A name that cannot be stored leads nowhere. -/
def find (fs : FileSystem) (p : Path) : Except FileTree.LookupError (Option FileTree) :=
  if p.parts.any fun name => (FileName.fault? name).isSome then .ok none
  else if pathLimit ≤ (FileName.size? p.render).getD 0 then .error .nameTooLong
  else
    let start := if p.isAbsolute then [] else fs.workingDirectory
    (fs.root.follow start p.parts).map fun place => place.bind fs.root.get?

/-- What a path leads to; a path that is too long leads nowhere. -/
def find? (fs : FileSystem) (p : Path) : Option FileTree :=
  (fs.find p).toOption.join

/-- Whether a path leads to a directory. -/
def isDirectory (fs : FileSystem) (p : Path) : Bool :=
  match fs.find? p with
  | some (.directory _) => true
  | _ => false

/-- Whether a path leads to a file. -/
def isFile (fs : FileSystem) (p : Path) : Bool :=
  match fs.find? p with
  | some (.file _) => true
  | _ => false

/-- The text in a list of octets, read line by line, unless the octets encode none. -/
def decode (octets : List UInt8) : Option Text :=
  (Text.ofUtf8? octets).map Text.universalNewlines

end FileSystem

end ComponentDocs
