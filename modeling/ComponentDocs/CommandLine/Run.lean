import ComponentDocs.CommandLine.Invocation
import ComponentDocs.Export
import ComponentDocs.Loading
import ComponentDocs.Settings

/-!
# Carrying out a command line

A run is a function of the command line and of the files: it tells what is printed, how the run ends,
and where requests are to be answered. Faults that are not reported to the user end a run without a
status.
-/

set_option autoImplicit false

namespace ComponentDocs.CommandLine

/-- Why the output cannot be laid out. -/
inductive LayoutError where
  /-- The switch for the indentation was given nothing. -/
  | noIndent
  /-- The indentation does not fit into a machine word. -/
  | indentOutOfRange
  /-- The indentation takes more memory than there is. -/
  | indentTooWide
deriving DecidableEq

/-- A fault that is not reported to the user. -/
inductive Fault where
  /-- The switch for the settings was given nothing. -/
  | noSettings
  | settings (cause : Settings.Error)
  | pattern (cause : Glob.Error)
  | loading (cause : Loading.Error)
  | layout (cause : LayoutError)
  | export (cause : Export.Error)

/-- How a run ends. -/
inductive Ending where
  | status (code : Nat)
  | fault (cause : Fault)

/-- What a run does. -/
structure Run where
  ending : Ending := .status 0
  output : Text := []
  /-- The records for the log, as far as they are audible. -/
  records : List Log.Record := []
  /-- What is told on the error stream behind the records. -/
  complaint : Text := []
  /-- The addresses at which requests are to be answered. -/
  served : List (Argument Text × Argument Int) := []

namespace Run

/-- Everything on the error stream. -/
def errors (r : Run) : Text :=
  r.records.flatMap Log.Record.streamLine ++ r.complaint

/-- The run that complains and fails. -/
def complain (message : Text) (records : List Log.Record) : Run :=
  { ending := .status 1, records, complaint := message ++ "\n" }

/-- The run that a refusal leads to. -/
def ofRefusal : Refusal → Run
  | .help p => { output := p.help }
  | .misuse p message =>
      { ending := .status 2
        complaint := p.usage ++ p.title ++ ": error: " ++ message ++ "\n" }

end Run

/-- The number of machine words on either side of zero. -/
def wordLimit : Nat :=
  Decimal.powerOfTwo 63

/-- The widest indentation that memory is found for. -/
def widestIndent : Nat :=
  Decimal.powerOfTwo 36

/-- The layout of the output for an indentation; a negative one counts as zero. -/
def layoutOf : Option (Argument Int) → Except LayoutError Json.Layout
  | none => .ok .inline
  | some .nothing => .error .noIndent
  | some (.value n) =>
      if n < -wordLimit ∨ wordLimit ≤ n then .error .indentOutOfRange
      else if widestIndent < n then .error .indentTooWide
      else .ok (.indented n.toNat)

/-- The files to parse: those of the command line, or else the sources of the project. -/
def filesOf (fs : FileSystem) (s : Settings) (files : List Text) : Except Glob.Error (List Path) :=
  if files.isEmpty then s.sourcePaths fs else .ok (files.map Path.parse)

/-- The record at the end of a successful extraction. -/
def summary (components : List Component) (files : List Path) : Log.Record :=
  Log.info "cli" ("Parsed " ++ Text.ofNat components.length ++ " component(s) from " ++
    Text.ofNat files.length ++ " file(s)")

/-- Prints the components of files. -/
def printComponents (rt : Runtime) (fs : FileSystem) (verbose : Bool) (options : ExtractionOptions)
    (indent : Option (Argument Int)) (files : List Path) : Run :=
  let records := Log.audible verbose (Loading.report rt fs options files)
  match Loading.load rt fs options files with
  | .error cause =>
      match cause, cause.message? with
      | .header _, some message => .complain ("docblocks parse failed: " ++ message) records
      | _, some message => .complain message records
      | _, none => { ending := .fault (.loading cause), records }
  | .ok components =>
      let records := records ++ Log.audible verbose [summary components files]
      match layoutOf indent, Export.ofComponents Export.printed components with
      | .error cause, _ => { ending := .fault (.layout cause), records }
      | .ok _, .error cause => { ending := .fault (.export cause), records }
      | .ok layout, .ok j => { output := j.render layout ++ "\n", records }

/-- What is told when there is nothing to parse. -/
def nothingToParse : Text :=
  "No input files given and no sources matched in the configuration."

/-- Prints the components of the files of a command line. -/
def runParse (rt : Runtime) (fs : FileSystem) (verbose : Bool) (files : List Text) (config : Text)
    (indent : Option (Argument Int)) (keepApart : Bool) : Run :=
  match Settings.load rt fs (Path.parse config) with
  | .error cause =>
      match cause.message? with
      | some message => .complain message []
      | none => { ending := .fault (.settings cause) }
  | .ok settings =>
      match filesOf fs settings files with
      | .error cause => { ending := .fault (.pattern cause) }
      | .ok [] => .complain nothingToParse []
      | .ok paths =>
          let options := settings.extraction
          let options := if keepApart then { options with merge := false } else options
          printComponents rt fs verbose options (indent.or (settings.indent.map .value)) paths

/-! ## What a run looks at -/

/-- The places of the disk that a command line names. -/
structure Places where
  /-- The directory of the project, or the file with its settings. -/
  project : Option Path := none
  files : List Path := []

/-- The places that a command line names, counted from the root. -/
def places (fs : FileSystem) (words : List Text) : Places :=
  match Invocation.parse words with
  | .ok ⟨_, .parse files (.value config) _ _⟩ =>
      let absolute := fun (p : Path) => p.resolve fs.workingDirectory
      match Settings.expandHome fs (Path.parse config) with
      | .error _ => {}
      | .ok p => ⟨some (absolute p), files.map fun t => absolute (Path.parse t)⟩
  | _ => {}

/-- The file with the settings that a command line leads to. -/
def settingsFiles (fs : FileSystem) (words : List Text) : List Path :=
  match Invocation.parse words with
  | .ok ⟨_, .parse _ (.value config) _ _⟩ =>
      match Settings.locate fs (Path.parse config) with
      | .ok file => [file]
      | .error _ => []
  | _ => []

/-- The files that a command line leads to, given the settings. -/
def inputFiles (rt : Runtime) (fs : FileSystem) (words : List Text) : List Path :=
  match Invocation.parse words with
  | .ok ⟨_, .parse files (.value config) _ _⟩ =>
      match Settings.load rt fs (Path.parse config) with
      | .error _ => []
      | .ok settings =>
          match filesOf fs settings files with
          | .error _ => []
          | .ok paths => paths.map fun p => p.resolve fs.workingDirectory
  | _ => []

/-! ## Runs -/

/-- What is told when requests cannot be answered. -/
def cannotServe : Text :=
  "uvicorn is required to run the service. Install it with `pip install docblocks[service]`."

/-- Carries out a command line. -/
def run (rt : Runtime) (fs : FileSystem) (canServe : Bool) (words : List Text) : Run :=
  match Invocation.parse words with
  | .error refusal => .ofRefusal refusal
  | .ok ⟨_, .parse _ .nothing _ _⟩ => { ending := .fault .noSettings }
  | .ok ⟨verbose, .parse files (.value config) indent keepApart⟩ =>
      runParse rt fs verbose files config indent keepApart
  | .ok ⟨_, .serve host portNumber⟩ =>
      if canServe then { served := [(host, portNumber)] } else .complain cannotServe []

end ComponentDocs.CommandLine
