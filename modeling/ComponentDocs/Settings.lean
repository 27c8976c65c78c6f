import ComponentDocs.Decimal.Reading
import ComponentDocs.Extraction
import ComponentDocs.Sources

/-!
# Settings

The settings come from a file in the directory of a project. Every setting has a default, a missing
file leaves all of them, and a setting of the wrong type leaves its own. `Settings.load` finds and
reads the file, and `Settings.ofDocument` says what a document means.
-/

set_option autoImplicit false

namespace ComponentDocs

/-- What a project sets. -/
structure Settings where
  /-- The directory of the project. -/
  root : Path
  markdown : List Text := Extension.defaultMarkdown
  renderable : List Text := Extension.defaultRenderable
  merge : Bool := true
  /-- The indentation of the output; without it the output is one line. -/
  indent : Option Int := some 2
  /-- The patterns of the source files. -/
  sources : List Text := []

namespace Settings

/-- The name of the file with the settings. -/
def fileName : Text := ".docblocks.yml"

/-- Why settings cannot be loaded. -/
inductive Error where
  /-- The path starts at the home directory of an unknown user. -/
  | noHome
  /-- A name of the path cannot be stored. -/
  | badName (fault : FileName.Fault)
  /-- The path leads to a name that is too long. -/
  | nameTooLong
  /-- The file is a directory. -/
  | unreadable (file : Path)
  /-- The octets of the file encode no text. -/
  | notText
  /-- The file has a fault in its text or in one of its scalars. -/
  | document (file : Path) (cause : Yaml.Error)
  /-- The file holds something other than a mapping. -/
  | notAMapping
  /-- An integer among texts has too many digits to be written. -/
  | tooManyDigits

/-- What is told about settings that cannot be loaded. Faults that are not reported, but stop the
program, have no message. -/
def Error.message? : Error → Option Text
  | unreadable file =>
      some ("Failed to read " ++ file.name ++ ": [Errno 21] Is a directory: " ++
        file.render.quoted)
  | document file .malformed =>
      some ("Failed to parse " ++ file.name ++ ": " ++
        Yaml.Error.malformed.message)
  | notAMapping => some (fileName ++ " must contain a mapping at the root")
  | noHome | badName _ | nameTooLong | notText | document _ _ | tooManyDigits => none

/-! ## Values of settings -/

/-- Whether a value is a text or a number; truth values count as numbers. -/
def isPlain : Value → Bool
  | .text _ | .int _ | .float _ | .bool _ => true
  | _ => false

/-- The texts of a value: one text, or the plain members of a sequence. -/
def textsOf : Value → List Text
  | .text t => [t]
  | .list items | .tuple items => (items.filter isPlain).map Value.display
  | .bytes octets => octets.map fun b => Text.ofNat b.toNat
  | _ => []

/-- Whether the texts of a value can be written. -/
def hasWritableTexts : Value → Bool
  | .list items | .tuple items => (items.filter isPlain).all Value.isWritable
  | _ => true

/-- Whether an extension has a character other than dots and spaces. -/
def isExtension (t : Text) : Bool :=
  !(t.trim fun c => c == '.' || c == ' ').isEmpty

/-- The extensions that a value lists. -/
def extensionsOf (v : Value) : List Text :=
  ((textsOf v).filter isExtension).map Extension.normalise

/-- The integer that a value is or spells. -/
def integerOf? : Value → Option Int
  | .int n => some n
  | .text t => Decimal.integer? 10 t
  | _ => none

/-- The truth value that a value is or spells. -/
def truthOf? : Value → Option Bool
  | .bool b => some b
  | .text t =>
      let word := t.strip.lowercase
      if (["true", "yes", "1"] : List Text).contains word then some true
      else if (["false", "no", "0"] : List Text).contains word then some false
      else none
  | _ => none

/-- The extensions that are set, or else the given ones. -/
def extensionsOr (otherwise : List Text) (v : Option Value) : List Text :=
  match (v.map extensionsOf).getD [] with
  | [] => otherwise
  | extensions => extensions

/-! ## Documents -/

/-- The value behind two keys of a document, one inside the other. -/
def inner? (d : Yaml.Document) (outer inner : Text) : Option Value := do
  let part ← d.memberAt? d.root outer
  let n ← d.memberAt? part inner
  return d.valueAt n

/-- The value behind a key of a document. -/
def outer? (d : Yaml.Document) (key : Text) : Option Value :=
  (d.memberAt? d.root key).map d.valueAt

/-- The markdown extensions in a document. -/
def markdownIn (d : Yaml.Document) : Option Value :=
  inner? d "parser" "markdown_extensions"

/-- The renderable extensions in a document. -/
def renderableIn (d : Yaml.Document) : Option Value :=
  inner? d "parser" "renderable_extensions"

/-- The patterns of the source files in a document. -/
def sourcesIn (d : Yaml.Document) : Option Value :=
  outer? d "sources"

/-- Whether all texts that a document lists can be written. -/
def isWritable (d : Yaml.Document) : Bool :=
  [markdownIn d, renderableIn d, sourcesIn d].all fun v => (v.map hasWritableTexts).getD true

/-- The settings that a document holds. -/
def ofDocument (root : Path) (d : Yaml.Document) : Settings :=
  { root
    markdown := extensionsOr Extension.defaultMarkdown (markdownIn d)
    renderable := extensionsOr Extension.defaultRenderable (renderableIn d)
    merge := ((outer? d "merge").bind truthOf?).getD true
    indent :=
      match inner? d "output" "indent" with
      | none => some 2
      | some v => integerOf? v
    sources := ((sourcesIn d).map textsOf).getD [] }

/-- The settings that a text holds. A text without content leaves every default. -/
def parse (rt : Runtime) (file : Path) (t : Text) : Except Error Settings :=
  let defaults : Settings := { root := file.parent }
  if t.isBlankText then .ok defaults
  else
    match rt.load t with
    | .error e => .error (.document file e)
    | .ok none => .ok defaults
    | .ok (some d) =>
        match d.mappingAt? d.root, d.value with
        | some _, _ =>
            if isWritable d then .ok (ofDocument file.parent d) else .error .tooManyDigits
        | none, .null => .ok defaults
        | none, _ => .error .notAMapping

/-! ## Files -/

/-- The home directory of a user; an empty name stands for the user of the program. -/
def homeOf (fs : FileSystem) (user : Text) : Except Error (List Text) :=
  if user.isEmpty then .ok fs.home
  else
    match FileName.fault? user, fs.homes.lookup user with
    | some fault, _ => .error (.badName fault)
    | none, some home => .ok home
    | none, none => .error .noHome

/-- A path with a home directory in the place of a leading tilde. -/
def expandHome (fs : FileSystem) (p : Path) : Except Error Path :=
  match p.start, p.parts with
  | .workingDirectory, ('~' :: user) :: rest =>
      (homeOf fs user).map fun home => ⟨.root, home ++ rest⟩
  | _, _ => .ok p

/-- What a path leads to, if it leads anywhere. -/
def lookUp (fs : FileSystem) (p : Path) : Except Error (Option FileTree) :=
  (fs.find p).mapError fun _ => .nameTooLong

/-- The file with the settings: the path itself, or the file of the fixed name in a directory. -/
def locate (fs : FileSystem) (p : Path) : Except Error Path := do
  let p ← expandHome fs p
  let found ← lookUp fs p
  let file := if (found.map FileTree.isDirectory).getD false then p.child fileName else p
  match file.parts.findSome? FileName.fault? with
  | some fault => throw (.badName fault)
  | none => return file.resolve fs.workingDirectory

/-- The settings in a file or in the directory of a project. -/
def load (rt : Runtime) (fs : FileSystem) (p : Path) : Except Error Settings := do
  let file ← locate fs p
  match ← lookUp fs file with
  | none => return { root := file.parent }
  | some (.directory _) => throw (.unreadable file)
  | some (.file octets) =>
      match FileSystem.decode octets with
      | none => throw .notText
      | some t => parse rt file t

/-! ## Use -/

/-- How components are extracted under the settings. -/
def extraction (s : Settings) : ExtractionOptions :=
  ⟨s.markdown, s.renderable, s.merge⟩

/-- The source files of the project. -/
def sourcePaths (s : Settings) (fs : FileSystem) : Except Glob.Error (List Path) :=
  Sources.select fs s.root s.sources

end Settings

end ComponentDocs
