import ComponentDocs.CommandLine.Run
import ComponentDocs.Proofs.BlockByBlock
import ComponentDocs.Service.Framework

/-!
# Faults that are reported

A header or a file with settings that breaks the rules of the notation is reported: the command line
ends with status 1, and the service answers with status 422. Three other faults are not. The document
may keep the rules and yet have no value, as a date in a thirteenth month has none; a value that is
needed as text may be one that cannot be written; and the octets of the settings may encode no text.

For each of the readers, the faults that are not reported are told in terms of what is read
(`FrontMatter.Unreported`, `Extraction.Unreported`, `Settings.Unreported`), and everything else is
reported (`faults_reported_iff`). Nothing is assumed of the runtime that reads the documents, nor of the
framework that takes requests to the service.
-/

set_option autoImplicit false

namespace ComponentDocs

universe u v

/-- Every outcome is a result or a fault of one kind unless there is a fault of another kind. -/
theorem ok_or_error_iff {ε : Type u} {α : Type v} {x : Except ε α} {P : ε → Prop} :
    ((∃ a, x = .ok a) ∨ ∃ e, x = .error e ∧ P e) ↔ ¬ ∃ e, x = .error e ∧ ¬ P e := by
  cases x with
  | error e => simp
  | ok a => simp

/-- The document of a text cannot be built, although the text keeps the rules of the notation. -/
def Runtime.Unbuildable (rt : Runtime) (t : Text) : Prop :=
  ∃ e, rt.load t = .error e ∧ e ≠ .malformed

/-! ## Headers -/

namespace FrontMatter

variable {rt : Runtime}

theorem errorOf_ne_malformed (fault : Value.Fault) : errorOf fault ≠ .malformed := by
  cases fault <;> decide

/-- A header with a key that cannot be written. -/
def HasKeyFault (rt : Runtime) (header : Text) (fault : Value.Fault) : Prop :=
  ∃ document entries, rt.load header = .ok document ∧
    document.bind Yaml.Document.entries? = some entries ∧
    keyFault? rt (entries.map Prod.fst) = some fault

/-- A text with a header that is neither read nor reported. -/
def Unreported (rt : Runtime) (t : Text) : Prop :=
  ∃ header content, cut? t = some (header, content) ∧ header.isBlankText = false ∧
    (rt.Unbuildable header ∨ ∃ fault, HasKeyFault rt header fault)

theorem ofDocument_eq_error_iff {content : Text} {document : Option Yaml.Document}
    {e : Yaml.Error} :
    ofDocument rt content document = .error e ↔
      ∃ entries fault, document.bind Yaml.Document.entries? = some entries ∧
        keyFault? rt (entries.map Prod.fst) = some fault ∧ e = errorOf fault := by
  rw [ofDocument]
  cases document.bind Yaml.Document.entries? with
  | none => simp [pure, Except.pure]
  | some entries =>
      dsimp only
      cases hfault : keyFault? rt (entries.map Prod.fst) with
      | none => simp [hfault, pure, Except.pure]
      | some fault =>
          constructor
          · intro h
            exact ⟨entries, fault, rfl, hfault, (Except.error.inj h).symm⟩
          · rintro ⟨_, fault', hentries, hfault', rfl⟩
            obtain rfl := Option.some.inj hentries
            obtain rfl := Option.some.inj (hfault.symm.trans hfault')
            rfl

theorem parse_of_cut {t header content : Text} (hcut : cut? t = some (header, content)) :
    parse rt t = loadHeader rt header >>= ofDocument rt content := by
  rw [parse, hcut]

/-- A header cannot be read when its document cannot, or when one of its keys cannot be written. -/
theorem parse_eq_error_iff {t : Text} {e : Yaml.Error} :
    parse rt t = .error e ↔
      ∃ header content, cut? t = some (header, content) ∧ header.isBlankText = false ∧
        (rt.load header = .error e ∨ ∃ fault, HasKeyFault rt header fault ∧ e = errorOf fault) := by
  cases hcut : cut? t with
  | none => simp [parse, hcut]
  | some cut =>
      obtain ⟨header, content⟩ := cut
      rw [parse_of_cut hcut, bind_eq_error_iff, loadHeader]
      cases hblank : header.isBlankText with
      | true => simp [ofDocument_eq_error_iff, hblank] -- there is no document, and no key
      | false =>
          rw [if_neg Bool.false_ne_true]
          constructor
          · rintro (hload | ⟨document, hload, hdocument⟩)
            · exact ⟨header, content, rfl, hblank, .inl hload⟩
            · obtain ⟨entries, fault, hentries, hkey, he⟩ := ofDocument_eq_error_iff.1 hdocument
              exact ⟨header, content, rfl, hblank,
                .inr ⟨fault, ⟨document, entries, hload, hentries, hkey⟩, he⟩⟩
          · rintro ⟨header', content', hcut', -, hcause⟩
            obtain ⟨rfl, rfl⟩ := Prod.mk.inj (Option.some.inj hcut')
            rcases hcause with hload | ⟨fault, ⟨document, entries, hload, hentries, hkey⟩, he⟩
            · exact .inl hload
            · exact .inr ⟨document, hload,
                ofDocument_eq_error_iff.2 ⟨entries, fault, hentries, hkey, he⟩⟩

/-- Which headers are neither read nor reported. -/
theorem unreported_iff {t : Text} :
    (∃ e, parse rt t = .error e ∧ e ≠ .malformed) ↔ Unreported rt t := by
  constructor
  · rintro ⟨e, he, hstray⟩
    obtain ⟨header, content, hcut, hblank, hload | ⟨fault, hkey, -⟩⟩ := parse_eq_error_iff.1 he
    · exact ⟨header, content, hcut, hblank, .inl ⟨e, hload, hstray⟩⟩
    · exact ⟨header, content, hcut, hblank, .inr ⟨fault, hkey⟩⟩
  · rintro ⟨header, content, hcut, hblank, ⟨e, hload, hstray⟩ | ⟨fault, hkey⟩⟩
    · exact ⟨e, parse_eq_error_iff.2 ⟨header, content, hcut, hblank, .inl hload⟩, hstray⟩
    · refine ⟨errorOf fault, ?_, errorOf_ne_malformed fault⟩
      exact parse_eq_error_iff.2 ⟨header, content, hcut, hblank, .inr ⟨fault, hkey, rfl⟩⟩

end FrontMatter

/-! ## Blocks -/

namespace Extraction

open FrontMatter (errorOf errorOf_ne_malformed)

variable {rt : Runtime}

/-- A block whose name or category cannot be written. -/
def HasTitleFault (rt : Runtime) (block : Text) (fault : Value.Fault) : Prop :=
  ∃ f name, FrontMatter.parse rt block = .ok f ∧ nameOf? f = some name ∧
    titleFault? rt f = some fault

/-- A block that is neither read nor reported. -/
def Unreported (rt : Runtime) (block : Text) : Prop :=
  FrontMatter.Unreported rt block ∨ ∃ fault, HasTitleFault rt block fault

theorem titled_eq_error_iff {block : Text} {e : Yaml.Error} :
    titled rt block = .error e ↔ FrontMatter.parse rt block = .error e ∨
      ∃ fault, HasTitleFault rt block fault ∧ e = errorOf fault := by
  rw [titled, bind_eq_error_iff]
  -- behind the front matter nothing fails but the writing of titles, and only if there is a name
  refine or_congr_right ?_
  constructor
  · rintro ⟨f, hf, h⟩
    cases hname : nameOf? f with
    | none => simp [hname, pure, Except.pure] at h
    | some name =>
        cases hfault : titleFault? rt f with
        | none => simp [hname, hfault, pure, Except.pure] at h
        | some fault =>
            rw [hname, hfault] at h
            exact ⟨fault, ⟨f, name, hf, hname, hfault⟩, (Except.error.inj h).symm⟩
  · rintro ⟨fault, ⟨f, name, hf, hname, hfault⟩, rfl⟩
    refine ⟨f, hf, ?_⟩
    rw [hname, hfault]
    rfl

/-- Which blocks are neither read nor reported. -/
theorem unreported_iff {block : Text} :
    (∃ e, titled rt block = .error e ∧ e ≠ .malformed) ↔ Unreported rt block := by
  rw [Unreported, ← FrontMatter.unreported_iff]
  constructor
  · rintro ⟨e, he, hstray⟩
    rcases titled_eq_error_iff.1 he with hparse | ⟨fault, htitle, -⟩
    · exact .inl ⟨e, hparse, hstray⟩
    · exact .inr ⟨fault, htitle⟩
  · rintro (⟨e, hparse, hstray⟩ | ⟨fault, htitle⟩)
    · exact ⟨e, titled_eq_error_iff.2 (.inl hparse), hstray⟩
    · exact ⟨errorOf fault, titled_eq_error_iff.2 (.inr ⟨fault, htitle, rfl⟩),
        errorOf_ne_malformed fault⟩

/-- A block that cannot be read is reported when its header breaks a rule of the notation. -/
theorem eq_malformed_iff {block : Text} {e : Yaml.Error} (h : titled rt block = .error e) :
    e = .malformed ↔ ¬ Unreported rt block := by
  rw [← unreported_iff, h]
  constructor
  · rintro rfl ⟨e', he', hstray⟩
    exact hstray (Except.error.inj he').symm
  · intro hnone
    by_contra hstray
    exact hnone ⟨e, rfl, hstray⟩

/-- The first of several blocks that cannot be read. -/
def FirstUnreadable (rt : Runtime) (blocks : List Text) (block : Text) : Prop :=
  ∃ before behind, blocks = before ++ block :: behind ∧
    (∀ b ∈ before, ∃ result, titled rt b = .ok result) ∧ ∃ e, titled rt block = .error e

theorem FirstUnreadable.exists_error {blocks : List Text} {block : Text}
    (h : FirstUnreadable rt blocks block) : ∃ e, titled rt block = .error e := by
  obtain ⟨-, -, -, -, h⟩ := h
  exact h

variable {options : ExtractionOptions}

theorem component?_eq_error_iff {block : Text} {e : Yaml.Error} :
    component? rt options block = .error e ↔ titled rt block = .error e := by
  rw [component?, bind_eq_error_iff]
  constructor
  · rintro (h | ⟨result, -, h⟩)
    · exact h
    · cases h
  · exact Or.inl

/-- The first block that cannot be read decides the error of an extraction. -/
theorem extract_eq_error {extension : Option Text} {t block : Text} {e : Yaml.Error}
    (hfirst : FirstUnreadable rt (documentationBlocks options.markdown extension t) block)
    (he : titled rt block = .error e) : extract rt options extension t = .error e := by
  obtain ⟨before, behind, hblocks, hbefore, -⟩ := hfirst
  rw [extract, map_eq_error_iff, componentsOf_eq_appendEach, appendEach_eq_error_iff]
  refine ⟨before, block, behind, hblocks, ?_, ?_⟩
  · -- a block in front gives a component or none, but it is read
    intro b hb
    obtain ⟨⟨f, name⟩, hb⟩ := hbefore b hb
    refine ⟨(name.map (componentOf options.renderable f)).toList, ?_⟩
    rw [component?, hb]
    rfl
  · exact map_eq_error_iff.2 (component?_eq_error_iff.2 he)

end Extraction

/-! ## Files -/

namespace Loading

/-- The first block of several files that cannot be read, where everything in front of it can. -/
def FirstUnreadable (rt : Runtime) (fs : FileSystem) (options : ExtractionOptions)
    (files : List Path) (block : Text) : Prop :=
  ∃ before file behind t, files = before ++ file :: behind ∧
    (∀ f ∈ before, ∃ components, loadFile rt fs options f = .ok components) ∧
    readText fs file = .ok t ∧
    Extraction.FirstUnreadable rt
      (documentationBlocks options.markdown (some file.suffix) t) block

section

variable {rt : Runtime} {fs : FileSystem} {options : ExtractionOptions} {files : List Path}
  {block : Text}

theorem FirstUnreadable.exists_error (h : FirstUnreadable rt fs options files block) :
    ∃ e, Extraction.titled rt block = .error e := by
  obtain ⟨before, file, behind, t, -, -, -, hblock⟩ := h
  exact hblock.exists_error

/-- The first block that cannot be read decides why files cannot be loaded. -/
theorem load_eq_error {e : Yaml.Error} (hfirst : FirstUnreadable rt fs options files block)
    (he : Extraction.titled rt block = .error e) :
    load rt fs options files = .error (.header e) := by
  obtain ⟨before, file, behind, t, hfiles, hbefore, ht, hblock⟩ := hfirst
  rw [load, map_eq_error_iff, loadEach_eq_appendEach, appendEach_eq_error_iff]
  refine ⟨before, file, behind, hfiles, hbefore, ?_⟩
  rw [loadFile, ht]
  show (Extraction.extract rt options (some file.suffix) t).mapError Error.header = _
  rw [Extraction.extract_eq_error hblock he]
  rfl

end

end Loading

/-! ## Settings -/

namespace Settings

variable {rt : Runtime}

/-- A text whose settings list an integer that has too many digits to be written. -/
def HasUnwritableText (rt : Runtime) (t : Text) : Prop :=
  ∃ d, rt.load t = .ok (some d) ∧ (d.mappingAt? d.root).isSome ∧ isWritable d = false

/-- Octets of which the settings are neither read nor reported. -/
def Unreported (rt : Runtime) (octets : List UInt8) : Prop :=
  match FileSystem.decode octets with
  | none => True
  | some t => t.isBlankText = false ∧ (rt.Unbuildable t ∨ HasUnwritableText rt t)

theorem message?_document {file : Path} {e : Yaml.Error} :
    (Error.document file e).message? = none ↔ e ≠ .malformed := by
  cases e <;> simp [Error.message?]

/-- A document that is no mapping is nothing at all, or it is reported. -/
theorem parse_of_not_mapping {file : Path} {t : Text} {d : Yaml.Document} {e : Error}
    (hload : rt.load t = .ok (some d)) (hmap : d.mappingAt? d.root = none)
    (h : parse rt file t = .error e) : e = .notAMapping := by
  rw [parse, hload] at h
  simp only [hmap] at h
  split at h
  · cases h
  · split at h
    · contradiction
    · cases h
    · exact (Except.error.inj h).symm

/-- Which texts hold settings that are neither read nor reported. -/
theorem parse_unreported_iff {file : Path} {t : Text} :
    (∃ e, parse rt file t = .error e ∧ e.message? = none) ↔
      t.isBlankText = false ∧ (rt.Unbuildable t ∨ HasUnwritableText rt t) := by
  -- the cases follow the layers of a file: its text, the document, and the root of the document
  cases hblank : t.isBlankText with
  | true => simp [parse, hblank]
  | false =>
      cases hload : rt.load t with
      | error e =>
          simp [parse, hblank, hload, message?_document, Runtime.Unbuildable, HasUnwritableText]
      | ok document =>
          cases document with
          | none => simp [parse, hblank, hload, Runtime.Unbuildable, HasUnwritableText]
          | some d =>
              cases hmap : d.mappingAt? d.root with
              | some entries =>
                  cases hw : isWritable d with
                  | true =>
                      simp [parse, hblank, hload, hmap, hw, Runtime.Unbuildable, HasUnwritableText]
                  | false =>
                      simp [parse, hblank, hload, hmap, hw, Runtime.Unbuildable, HasUnwritableText,
                        Error.message?]
              | none =>
                  have hnone : ¬ ∃ e, parse rt file t = .error e ∧ e.message? = none := by
                    rintro ⟨e, he, hmessage⟩
                    obtain rfl := parse_of_not_mapping hload hmap he
                    cases hmessage
                  simp [hnone, hload, hmap, Runtime.Unbuildable, HasUnwritableText]

variable {fs : FileSystem} {p file : Path} {octets : List UInt8}

theorem load_of_file (hlocate : locate fs p = .ok file)
    (hfind : fs.find file = .ok (some (.file octets))) :
    load rt fs p =
      match FileSystem.decode octets with
      | none => .error .notText
      | some t => parse rt file t := by
  rw [load, hlocate]
  show (lookUp fs file >>= _) = _
  rw [lookUp, hfind]
  rfl

/-- A file whose document cannot be read leaves no settings. -/
theorem load_of_unreadable {t : Text} {e : Yaml.Error} (hlocate : locate fs p = .ok file)
    (hfind : fs.find file = .ok (some (.file octets))) (hdecode : FileSystem.decode octets = some t)
    (hblank : t.isBlankText = false) (he : rt.load t = .error e) :
    load rt fs p = .error (.document file e) := by
  rw [load_of_file hlocate hfind, hdecode]
  dsimp only
  rw [parse, hblank, he]
  rfl

/-- Which octets of a file hold settings that are neither read nor reported. -/
theorem unreported_iff (hlocate : locate fs p = .ok file)
    (hfind : fs.find file = .ok (some (.file octets))) :
    (∃ e, load rt fs p = .error e ∧ e.message? = none) ↔ Unreported rt octets := by
  rw [load_of_file hlocate hfind, Unreported]
  cases FileSystem.decode octets with
  | none => simp [Error.message?]
  | some t => exact parse_unreported_iff

end Settings

/-! ## Command lines -/

namespace CommandLine

/-- The status of a run; a fault that is not reported leaves none. -/
def Run.status? (r : Run) : Option Nat :=
  match r.ending with
  | .status code => some code
  | .fault _ => none

/-- A run fails with a message to the user. -/
def Run.Reports (r : Run) (message : Text) : Prop :=
  r.status? = some 1 ∧ r.complaint = message ++ "\n"

theorem Run.reports_complain {own message : Text} {records : List Log.Record} :
    (Run.complain own records).Reports message ↔ own = message := by
  simp [Run.Reports, Run.status?, Run.complain]

/-- How components are extracted under the settings and the switch that keeps them apart. -/
def optionsOf (settings : Settings) (keepApart : Bool) : ExtractionOptions :=
  if keepApart then { settings.extraction with merge := false } else settings.extraction

section

variable {rt : Runtime} {fs : FileSystem} {verbose : Bool} {files : List Text} {config : Text}
  {indent : Option (Argument Int)} {keepApart : Bool}

/-- A run without settings tells what there is to tell about them. -/
theorem reports_iff_of_settings_error {e : Settings.Error} {message : Text}
    (h : Settings.load rt fs (Path.parse config) = .error e) :
    (runParse rt fs verbose files config indent keepApart).Reports message ↔
      e.message? = some message := by
  rw [runParse, h]
  dsimp only
  cases e.message? with
  | none => simp [Run.Reports, Run.status?]
  | some own => simp [Run.reports_complain]

/-- What is told about a malformed header. -/
def malformedHeader : Text :=
  "docblocks parse failed: " ++ FrontMatter.errorMessage .malformed

/-- A run that meets an unreadable header tells about it when the header is malformed. -/
theorem reports_iff_of_header_error {settings : Settings} {paths : List Path} {e : Yaml.Error}
    (hsettings : Settings.load rt fs (Path.parse config) = .ok settings)
    (hpaths : filesOf fs settings files = .ok paths)
    (hload : Loading.load rt fs (optionsOf settings keepApart) paths = .error (.header e)) :
    (runParse rt fs verbose files config indent keepApart).Reports malformedHeader ↔
      e = .malformed := by
  have hprint : runParse rt fs verbose files config indent keepApart =
      printComponents rt fs verbose (optionsOf settings keepApart)
        (indent.or (settings.indent.map .value)) paths := by
    rw [runParse, hsettings]
    dsimp only
    rw [hpaths]
    cases paths with
    | nil => cases hload -- nothing to load is no error
    | cons path rest => rfl
  rw [hprint, printComponents, hload]
  cases e with
  | malformed => simp [Loading.Error.message?, Run.reports_complain, malformedHeader]
  | _ => simp [Loading.Error.message?, Run.Reports, Run.status?]

/-- A command line that asks for components is carried out as such. -/
theorem run_eq_runParse {canServe : Bool} {words : List Text}
    (h : Invocation.parse words =
      .ok ⟨verbose, .parse files (.value config) indent keepApart⟩) :
    run rt fs canServe words = runParse rt fs verbose files config indent keepApart := by
  rw [run, h]

end

end CommandLine

/-! ## Requests -/

namespace Service

/-- The answer to a request whose text has a malformed header. -/
def malformedHeader : Response :=
  .failure 422 (FrontMatter.errorMessage .malformed)

/-- A request whose text cannot be read is answered when a header is malformed. -/
theorem answer_iff_of_header_error {rt : Runtime} {framework : Framework}
    {options : ExtractionOptions} {r : Request} {e : Extract} {cause : Yaml.Error}
    (h : framework.route r = .parse e)
    (he : Extraction.extract rt options e.extension e.content = .error cause) :
    answer rt framework options r = .ok malformedHeader ↔ cause = .malformed := by
  rw [answer, h]
  dsimp only
  rw [answerExtract, he]
  cases cause <;> simp [malformedHeader]

end Service

/-! ## Every fault -/

open CommandLine in
/-- What cannot be read is reported unless it is a fault of one of the three kinds. This is so for
headers, for settings, for the command line, whether it is the settings or the first unreadable header
that stops it, and for requests that the framework takes to the handler. -/
theorem faults_reported_iff (rt : Runtime) (t : Text) (fs : FileSystem) (p : Path) (canServe : Bool)
    (words : List Text) (framework : Service.Framework) (options : ExtractionOptions)
    (r : Service.Request) :
    (((∃ f, FrontMatter.parse rt t = .ok f) ∨ FrontMatter.parse rt t = .error .malformed) ↔
      ¬ FrontMatter.Unreported rt t) ∧
    (∀ file octets, Settings.locate fs p = .ok file →
      fs.find file = .ok (some (.file octets)) →
      (((∃ settings, Settings.load rt fs p = .ok settings) ∨
          ∃ e, Settings.load rt fs p = .error e ∧ e.message? ≠ none) ↔
        ¬ Settings.Unreported rt octets)) ∧
    (∀ verbose files config indent keepApart,
      Invocation.parse words = .ok ⟨verbose, .parse files (.value config) indent keepApart⟩ →
      (∀ file octets e, Settings.locate fs (Path.parse config) = .ok file →
        fs.find file = .ok (some (.file octets)) →
        Settings.load rt fs (Path.parse config) = .error e →
        ((∃ message, e.message? = some message ∧ (run rt fs canServe words).Reports message) ↔
          ¬ Settings.Unreported rt octets)) ∧
      ∀ settings paths block, Settings.load rt fs (Path.parse config) = .ok settings →
        filesOf fs settings files = .ok paths →
        Loading.FirstUnreadable rt fs (optionsOf settings keepApart) paths block →
        ((run rt fs canServe words).Reports malformedHeader ↔ ¬ Extraction.Unreported rt block)) ∧
    ∀ e block, framework.route r = .parse e →
      Extraction.FirstUnreadable rt
        (documentationBlocks options.markdown e.extension e.content) block →
      (Service.answer rt framework options r = .ok Service.malformedHeader ↔
        ¬ Extraction.Unreported rt block) := by
  refine ⟨?_, ?_, ?_, ?_⟩
  · rw [← FrontMatter.unreported_iff, ← ok_or_error_iff]
    simp
  · intro file octets hlocate hfind
    rw [← Settings.unreported_iff hlocate hfind, ok_or_error_iff]
    simp
  · intro verbose files config indent keepApart hwords
    rw [run_eq_runParse hwords]
    constructor
    · -- the settings stop the run
      intro file octets e hlocate hfind he
      rw [← Settings.unreported_iff hlocate hfind, he]
      simp [reports_iff_of_settings_error he, Option.ne_none_iff_exists']
    · -- a header stops it, and everything in front of that header was read
      intro settings paths block hsettings hpaths hfirst
      obtain ⟨e, he⟩ := hfirst.exists_error
      rw [reports_iff_of_header_error hsettings hpaths (Loading.load_eq_error hfirst he),
        Extraction.eq_malformed_iff he]
  · intro e block hroute hfirst
    obtain ⟨cause, hcause⟩ := hfirst.exists_error
    rw [Service.answer_iff_of_header_error hroute (Extraction.extract_eq_error hfirst hcause),
      Extraction.eq_malformed_iff hcause]

/-- The octets of a text that can be encoded. -/
def octetsOf (t : Text) : List UInt8 :=
  (Text.toUtf8? t).getD []

/-- A file system with files in one directory. -/
def folder (files : List (Text × List UInt8)) : FileSystem :=
  { root := .directory (files.map fun f => (f.1, .file f.2)) }

/-- A file with settings alone in its directory. -/
def settingsFolder (octets : List UInt8) : FileSystem :=
  folder [(Settings.fileName, octets)]

/-- A document alone in its directory. -/
def documentFolder (document : Text) : FileSystem :=
  folder [("a.md", octetsOf document)]

/-- A request for the components of a document. -/
def documentRequest (document : Text) : Service.Request where
  method := "post"
  path := "/parse/"
  body := octetsOf (Json.render .compact
    (.object [("content", .string document), ("extension", .string "md")]))

/-- The document with a sequence that is not closed. -/
def unclosed : Text := "---\na: [\n---\n"

theorem titled_unclosed : Extraction.titled .own unclosed = .error .malformed :=
  (map_eq_error_iff (f := fun _ => ())).1 (by decide +kernel)

theorem firstUnreadable_unclosed : Extraction.FirstUnreadable .own [unclosed] unclosed :=
  ⟨[], [], rfl, by simp, _, titled_unclosed⟩

theorem readText_unclosed :
    Loading.readText (documentFolder unclosed) (Path.parse "a.md") = .ok unclosed :=
  toOption_eq_some_iff.1 (by decide +kernel)

/-- What a request asks the handler for. -/
def asked? (r : Service.Request) : Option (Text × Option Text) :=
  match Service.Framework.own.route r with
  | .parse e => some (e.content, e.extension)
  | _ => none

theorem route_unclosed :
    Service.Framework.own.route (documentRequest unclosed) = .parse ⟨unclosed, some "md"⟩ := by
  have hasked : asked? (documentRequest unclosed) = some (unclosed, some (Text.ofString "md")) := by
    decide +kernel
  rw [asked?] at hasked
  split at hasked
  · next e hroute =>
      obtain ⟨hcontent, hextension⟩ := Prod.mk.inj (Option.some.inj hasked)
      obtain ⟨content, extension⟩ := e
      rw [hroute]
      exact congrArg₂ (fun c x => Service.Route.parse ⟨c, x⟩) hcontent hextension
  · cases hasked

open CommandLine in
/-- A sequence that is not closed is reported from the settings, from a document and from a request. -/
theorem unclosed_sequence_reported :
    (∃ message, (run .own (settingsFolder (octetsOf "a: [")) false ["parse"]).Reports message) ∧
    (run .own (documentFolder unclosed) false ["parse", "a.md"]).Reports malformedHeader ∧
    Service.answer .own .own {} (documentRequest unclosed) = .ok Service.malformedHeader := by
  have hreported := (Extraction.eq_malformed_iff titled_unclosed).1 rfl
  refine ⟨?_, ?_, ?_⟩
  · obtain ⟨-, hsettings, hrun, -⟩ := faults_reported_iff .own unclosed
      (settingsFolder (octetsOf "a: [")) (Path.parse ".") false ["parse"] .own {}
      (documentRequest unclosed)
    have hload : Runtime.own.load "a: [" = .error .malformed :=
      (map_eq_error_iff (f := fun _ => ())).1 (by decide +kernel)
    have hlocate : Settings.locate (settingsFolder (octetsOf "a: [")) (Path.parse ".") =
        .ok ⟨.root, [Settings.fileName]⟩ := rfl
    have hfind : (settingsFolder (octetsOf "a: [")).find ⟨.root, [Settings.fileName]⟩ =
        .ok (some (.file (octetsOf "a: ["))) := rfl
    have herror := Settings.load_of_unreadable hlocate hfind (t := "a: [") (by decide +kernel)
      (by decide +kernel) hload
    have hnone := (hsettings _ _ hlocate hfind).1
      (.inr ⟨_, herror, by simp [Settings.Error.message?]⟩)
    obtain ⟨message, -, hmessage⟩ := ((hrun false [] "." none false rfl).1
      _ _ _ hlocate hfind herror).2 hnone
    exact ⟨message, hmessage⟩
  · obtain ⟨-, -, hrun, -⟩ := faults_reported_iff .own unclosed (documentFolder unclosed)
      (Path.parse ".") false ["parse", "a.md"] .own {} (documentRequest unclosed)
    refine ((hrun false ["a.md"] "." none false rfl).2 { root := ⟨.root, []⟩ } [Path.parse "a.md"]
      unclosed rfl rfl ?_).2 hreported
    refine ⟨[], Path.parse "a.md", [], unclosed, rfl, by simp, readText_unclosed, ?_⟩
    exact firstUnreadable_unclosed
  · obtain ⟨-, -, -, hrequest⟩ := faults_reported_iff .own unclosed (documentFolder unclosed)
      (Path.parse ".") false ["parse", "a.md"] .own {} (documentRequest unclosed)
    exact (hrequest _ unclosed route_unclosed firstUnreadable_unclosed).2 hreported

open CommandLine in
/-- A date in a thirteenth month is reported from nowhere, and neither are settings that are no text. -/
theorem bad_date_and_octets_not_reported :
    FrontMatter.parse .own "---\na: 2020-13-01\n---\n" = .error .badValue ∧
    (run .own (settingsFolder (octetsOf "a: 2020-13-01")) false ["parse"]).status? = none ∧
    (run .own (settingsFolder [0xff]) false ["parse"]).status? = none ∧
    (run .own (documentFolder "---\na: 2020-13-01\n---\n") false ["parse", "a.md"]).status? =
      none ∧
    (Service.answer .own .own {} (documentRequest "---\na: 2020-13-01\n---\n")).toOption =
      none := by
  refine ⟨(map_eq_error_iff (f := fun _ => ())).1 (by decide +kernel), ?_⟩
  decide +kernel

end ComponentDocs
