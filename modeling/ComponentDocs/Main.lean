import ComponentDocs.CommandLine.Run

/-!
# The program

The outer layer of the command line: it shows the disk to `CommandLine.run` as a file system, and
prints what the run tells it to. The names below the directory of the project are read first, and the
content of a file only when the run will look at it.
-/

set_option autoImplicit false

namespace ComponentDocs.Main

/-- The entry of the disk under a list of names. -/
def entryAt (names : List Text) : IO.FS.DirEntry :=
  ⟨"/", (Text.join "/" names).toString⟩

/-- The names below an entry of the disk, down to a depth, without the content of files. -/
def outline : Nat → IO.FS.DirEntry → IO FileTree
  | 0, _ => return .directory []
  | depth + 1, entry => do
      if ← entry.path.isDir then
        let entries ← try entry.path.readDir catch _ => pure #[]
        let below ← entries.toList.mapM fun e => do
          return (Text.ofString e.fileName, ← outline depth e)
        return .directory below
      else return .file []

/-- The file system with what stands on the disk under a list of names, read down to a depth. -/
def addOutline (depth : Nat) (fs : FileSystem) (names : List Text) : IO FileSystem := do
  let entry := entryAt names
  if ← entry.path.pathExists then
    return { fs with root := fs.root.put names (← outline depth entry) }
  else return fs

/-- The file system with the content of a file. -/
def addContent (fs : FileSystem) (file : Path) : IO FileSystem := do
  if fs.isFile file then
    let octets ← IO.FS.readBinFile (entryAt file.parts).path
    return { fs with root := fs.root.put file.parts (.file octets.toList) }
  else return fs

/-- The directories and files that a run may look at, as far as the command line tells. -/
def addPlaces (fs : FileSystem) (places : CommandLine.Places) : IO FileSystem := do
  let fs ←
    match places.project with
    | none => pure fs
    | some p => do
        let directory := if ← (entryAt p.parts).path.isDir then p else p.parent
        addOutline 32 fs directory.parts
  places.files.foldlM
    (fun fs p => if (fs.find? p).isSome then pure fs else addOutline 1 fs p.parts) fs

/-- The part of the disk that a run looks at. -/
def diskFor (words : List Text) : IO FileSystem := do
  let here := Path.names (← IO.currentDir).toString
  let home := Path.names ((← IO.getEnv "HOME").getD "/")
  let bare : FileSystem := { workingDirectory := here, home }
  let fs ← addPlaces { bare with root := bare.root.put here (.directory []) }
    (CommandLine.places bare words)
  let fs ← (CommandLine.settingsFiles fs words).foldlM addContent fs
  (CommandLine.inputFiles .own fs words).foldlM addContent fs

end ComponentDocs.Main

/-- Carries out a command line. Requests cannot be answered by this program. -/
def main (arguments : List String) : IO UInt32 := do
  let words := arguments.map ComponentDocs.Text.ofString
  let fs ← ComponentDocs.Main.diskFor words
  let run := ComponentDocs.CommandLine.run .own fs false words
  (← IO.getStdout).putStr run.output.toString
  (← IO.getStderr).putStr run.errors.toString
  match run.ending with
  | .status code => return code.toUInt32
  | .fault _ => return 1
