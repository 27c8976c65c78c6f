import ComponentDocs.Extraction
import ComponentDocs.FileTree

/-!
# Loading components from files

The components of a file are those of its text, its extension being taken from its name. Several files
are read in order, and components that share a name across them are merged like those of one file.
-/

set_option autoImplicit false

namespace ComponentDocs.Loading

/-- Why a file cannot be loaded. -/
inductive Error where
  /-- There is no such file. -/
  | missing (file : Path)
  /-- The path leads to a name that is too long. -/
  | nameTooLong
  /-- The octets of a file encode no text. -/
  | notText
  /-- A header in a file cannot be read. -/
  | header (cause : Yaml.Error)

/-- What is told about a file that cannot be loaded. Faults that are not reported, but stop the
program, have no message. -/
def Error.message? : Error → Option Text
  | missing file => some ("No such file: " ++ file.render)
  | header .malformed => some (FrontMatter.errorMessage .malformed)
  | nameTooLong | notText | header _ => none

/-- The text of a file. -/
def readText (fs : FileSystem) (file : Path) : Except Error Text :=
  match fs.find file with
  | .error .nameTooLong => .error .nameTooLong
  | .ok (some (.file octets)) =>
      match FileSystem.decode octets with
      | some t => .ok t
      | none => .error .notText
  | .ok _ => .error (.missing file)

/-- The components of a file. -/
def loadFile (rt : Runtime) (fs : FileSystem) (options : ExtractionOptions) (file : Path) :
    Except Error (List Component) := do
  let t ← readText fs file
  (Extraction.extract rt options (some file.suffix) t).mapError .header

/-- The components of several files, file by file. -/
def loadEach (rt : Runtime) (fs : FileSystem) (options : ExtractionOptions) :
    List Path → Except Error (List Component)
  | [] => .ok []
  | file :: rest => do
      let components ← loadFile rt fs options file
      return components ++ (← loadEach rt fs options rest)

/-- The components of several files, as the options ask for them. -/
def load (rt : Runtime) (fs : FileSystem) (options : ExtractionOptions) (files : List Path) :
    Except Error (List Component) :=
  (loadEach rt fs options files).map (Extraction.arrange options)

/-! ## Reports -/

/-- What loading a file reports. -/
def fileReport (rt : Runtime) (fs : FileSystem) (options : ExtractionOptions) (file : Path) :
    List Log.Record :=
  match readText fs file with
  | .error _ => []
  | .ok t =>
      Extraction.extractReport rt options (some file.suffix) t ++
        match loadFile rt fs options file with
        | .error _ => []
        | .ok components =>
            [Log.debug "loader" ("Parsed " ++ Text.ofNat components.length ++
              " component(s) from " ++ file.render)]

/-- What loading several files reports, up to the first that cannot be loaded. -/
def eachReport (rt : Runtime) (fs : FileSystem) (options : ExtractionOptions) :
    List Path → List Log.Record
  | [] => []
  | file :: rest =>
      fileReport rt fs options file ++
        match loadFile rt fs options file with
        | .error _ => []
        | .ok _ => eachReport rt fs options rest

/-- What loading several files reports. -/
def report (rt : Runtime) (fs : FileSystem) (options : ExtractionOptions) (files : List Path) :
    List Log.Record :=
  eachReport rt fs options files ++
    match loadEach rt fs options files with
    | .error _ => []
    | .ok components => Extraction.arrangeReport options components

end ComponentDocs.Loading
