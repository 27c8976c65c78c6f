import ComponentDocs.FileTree

/-!
# Glob patterns

A pattern is a path whose names may hold wildcards: an asterisk for any characters, a question mark
for one, brackets for one of a class of characters. A double asterisk, which stands alone, is any
chain of directories.
-/

set_option autoImplicit false

namespace ComponentDocs.Glob

/-- Why a pattern cannot be used. -/
inductive Error where
  /-- The pattern is empty, or a double asterisk is part of a longer name. -/
  | unacceptable
  /-- The pattern starts at the root of the file system. -/
  | notRelative
  /-- The pattern has no names. -/
  | noNames
  /-- The pattern has no names and ends in a slash. -/
  | onlySlash
  /-- The pattern leads to a name that is too long. -/
  | nameTooLong
deriving DecidableEq

/-! ## Names -/

/-- One piece of a pattern for a name. -/
inductive Piece where
  | literal (c : CodePoint)
  | any
  | many
  /-- One of the characters, or one within a range; the flag turns the choice round. -/
  | oneOf (negated : Bool) (singles : List CodePoint) (ranges : List (CodePoint × CodePoint))
deriving DecidableEq

/-- Whether a piece that stands for one character admits it. -/
def Piece.admits : Piece → CodePoint → Bool
  | literal c, d => c == d
  | any, _ => true
  | many, _ => false
  | oneOf negated singles ranges, d =>
      (singles.contains d || ranges.any fun r => r.1 ≤ d && d ≤ r.2) != negated

/-- Whether a name matches a list of pieces. -/
def nameMatches : List Piece → Text → Bool
  | [], t => t.isEmpty
  | .many :: rest, [] => nameMatches rest []
  | .many :: rest, c :: t => nameMatches rest (c :: t) || nameMatches (.many :: rest) t
  | p :: rest, c :: t => p.admits c && nameMatches rest t
  | _ :: _, [] => false
termination_by ps t => (ps.length, t.length)

/-- The content of brackets and the text behind them, if they are closed. A closing bracket that
comes first, also behind an exclamation mark, belongs to the content. -/
def cutBrackets? (t : Text) : Option (Text × Text) :=
  let mark : Text := (t.take 1).filter (· == '!')
  let afterMark := t.drop mark.length
  let first : Text := (afterMark.take 1).filter (· == ']')
  match Text.cutAt ']' (afterMark.drop first.length) with
  | (_, none) => none
  | (inner, some rest) => some (mark ++ first ++ inner, rest)

/-- The chunks of a class between the hyphens that make ranges: a hyphen does so when at least one
character stands before it and two behind the last such hyphen. The second argument counts the
characters that may not be such a hyphen. -/
def chunksFrom (chunk : Text) : Nat → Text → List Text
  | _, [] => [chunk]
  | 0, '-' :: rest => chunk :: chunksFrom [] 2 rest
  | n, c :: rest => chunksFrom (chunk ++ [c]) (n - 1) rest

/-- A chunk list whose last chunk is not empty: a hyphen at the end belongs to the chunk before. -/
def closeChunks : List Text → List Text
  | [a, []] => [a ++ "-"]
  | a :: rest => a :: closeChunks rest
  | [] => []

/-- Chunks without the ranges that run backwards, whose ends are dropped. -/
def dropBackward : List Text → List Text
  | [] => []
  | a :: rest =>
      match dropBackward rest with
      | [] => [a]
      | b :: others =>
          match a.getLast?, b.head? with
          | some x, some y => if y < x then (a.dropLast ++ b.drop 1) :: others else a :: b :: others
          | _, _ => a :: b :: others

/-- The ranges between neighbouring chunks. -/
def rangesOf : List Text → List (CodePoint × CodePoint)
  | a :: b :: rest =>
      (match a.getLast?, b.head? with
        | some x, some y => [(x, y)]
        | _, _ => []) ++ rangesOf (b :: rest)
  | _ => []

/-- The piece that the content of brackets stands for. -/
def classOf (content : Text) : Piece :=
  let guarded := if content.head? = some '!' then 2 else 1
  let chunks := dropBackward (closeChunks (chunksFrom [] guarded content))
  match chunks with
  | ('!' :: first) :: rest =>
      if first.isEmpty && rest.isEmpty then .any
      else .oneOf true (first ++ rest.flatten) (rangesOf (('!' :: first) :: rest))
  | _ => .oneOf false chunks.flatten (rangesOf chunks)

/-- The pieces of a pattern for a name. -/
def piecesFrom : Nat → Text → List Piece
  | 0, _ => []
  | _ + 1, [] => []
  | fuel + 1, '*' :: rest => .many :: piecesFrom fuel rest
  | fuel + 1, '?' :: rest => .any :: piecesFrom fuel rest
  | fuel + 1, '[' :: rest =>
      match cutBrackets? rest with
      | none => .literal '[' :: piecesFrom fuel rest
      | some (content, rest) => classOf content :: piecesFrom fuel rest
  | fuel + 1, c :: rest => .literal c :: piecesFrom fuel rest

/-! ## Patterns -/

/-- One step of a pattern. -/
inductive Step where
  | name (n : Text)
  | wild (pieces : List Piece)
  | anyDepth
  /-- The end of a pattern with a slash behind its last name. -/
  | stop
deriving DecidableEq

/-- Whether a name holds a wildcard. -/
def isWild (n : Text) : Bool :=
  n.any fun c => c == '*' || c == '?' || c == '['

/-- The step that a name of a pattern stands for. -/
def stepOf (n : Text) : Except Error Step :=
  if n = "**" then .ok .anyDepth
  else if Text.holds "**" n then .error .unacceptable
  else if isWild n then .ok (.wild (piecesFrom (n.length + 1) n))
  else .ok (.name n)

/-- The steps of a pattern. -/
def parse (pattern : Text) : Except Error (List Step) := do
  if pattern.isEmpty then throw .unacceptable
  let p := Path.parse pattern
  if p.isAbsolute then throw .notRelative
  let slash := pattern.getLast? == some '/'
  if p.parts.isEmpty then throw (if slash then .onlySlash else .noNames)
  let steps ← p.parts.mapM stepOf
  return steps ++ if slash then [.stop] else []

/-! ## Matching -/

mutual

/-- The directories of a tree, itself first if it is one, as the names that lead there. -/
def directoriesBelow : FileTree → List (List Text)
  | .file _ => []
  | .directory entries => [] :: directoriesAmong entries

/-- The directories of several trees. -/
def directoriesAmong : List (Text × FileTree) → List (List Text)
  | [] => []
  | (name, t) :: rest => (directoriesBelow t).map (name :: ·) ++ directoriesAmong rest

end

/-- The places that one step of a pattern leads to from a path; the flag says whether it is the last
one, which may lead to a file. -/
def places (fs : FileSystem) (isLast : Bool) (p : Path) : Step → Except Error (List Path)
  | .stop => .ok [p]
  | .name n =>
      match fs.find (p.child n) with
      | .error .nameTooLong => .error .nameTooLong
      | .ok none => .ok []
      | .ok (some t) => .ok (if isLast || t.isDirectory then [p.child n] else [])
  | .wild pieces =>
      let entries := ((fs.find? p).map FileTree.entries).getD []
      .ok ((entries.filter fun e =>
        nameMatches pieces e.1 && (isLast || e.2.isDirectory)).map fun e => p.child e.1)
  | .anyDepth =>
      let below := ((fs.find? p).map directoriesBelow).getD []
      .ok (below.map fun names => { p with parts := p.parts ++ names })

/-- The paths that the steps of a pattern lead to from several paths, in order. -/
def select (fs : FileSystem) : List Step → List Path → Except Error (List Path)
  | [], ps => .ok ps
  | step :: rest, ps => do
      let found ← ps.mapM fun p => places fs rest.isEmpty p step
      select fs rest found.flatten

/-- The paths below a directory that match a pattern. -/
def glob (fs : FileSystem) (directory : Path) (pattern : Text) : Except Error (List Path) := do
  let steps ← parse pattern
  if fs.isDirectory directory then select fs steps [directory] else return []

end ComponentDocs.Glob
