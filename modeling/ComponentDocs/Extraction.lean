import ComponentDocs.Description
import ComponentDocs.Extension
import ComponentDocs.FrontMatter
import ComponentDocs.Log
import ComponentDocs.Merge

/-!
# Extracting components

A documentation block whose header names a component becomes that component: the other fields of the
header are its metadata, and the text behind the header gives its examples and its description.
`extract` does this for all blocks of a text.

What is reported to the log on the way is told by functions of its own.
-/

set_option autoImplicit false

namespace ComponentDocs

/-- How components are found and what becomes of those that share a name. -/
structure ExtractionOptions where
  markdown : List Text := Extension.defaultMarkdown
  renderable : List Text := Extension.defaultRenderable
  merge : Bool := true

namespace Extraction

/-- The field that names a component. -/
def nameKey : Text := "name"

/-- The field that gives a component its category. -/
def categoryKey : Text := "category"

/-- The metadata of a header: one entry for each value of each field but name and category. -/
def metadataOf (fields : OrderedMap Text Field) : List MetaEntry :=
  (fields.entries.filter fun e => e.1 != nameKey && e.1 != categoryKey).flatMap fun e =>
    e.2.values.map fun v => ⟨e.1, v⟩

/-- The name that a header declares, unless it is empty. -/
def nameOf? (f : FrontMatter) : Option Text :=
  ((f.get? nameKey).filter Value.isTruthy).map Value.display

/-- The category that a header declares, unless it is null. -/
def categoryOf? (f : FrontMatter) : Option Text :=
  match f.get? categoryKey with
  | none => none
  | some .null => none
  | some v => some v.display

/-- The component that a header and its text describe under a name. -/
def componentOf (renderable : List Text) (f : FrontMatter) (name : Text) : Component :=
  let bare : Component :=
    { name := some name, category := categoryOf? f, metadata := metadataOf f.fields }
  let c := bare.addExamples (Example.collect (Segment.split f.content)).entries
  { c with description := Description.ofContent c.examples renderable f.content }

/-- What keeps the name and the category that a header declares from being written, in this order. -/
def titleFault? (rt : Runtime) (f : FrontMatter) : Option Value.Fault :=
  [nameKey, categoryKey].findSome? fun key =>
    (f.get? key).bind fun v => v.displayFault? rt.reach

/-- The front matter of a documentation block, and the name that it declares, if it declares one. -/
def titled (rt : Runtime) (block : Text) : Except Yaml.Error (FrontMatter × Option Text) := do
  let f ← FrontMatter.parse rt block
  match nameOf? f, titleFault? rt f with
  | none, _ => return (f, none)
  | some name, none => return (f, some name)
  | some _, some fault => throw (FrontMatter.errorOf fault)

/-- The component of a documentation block, if its header names one. -/
def component? (rt : Runtime) (options : ExtractionOptions) (block : Text) :
    Except Yaml.Error (Option Component) := do
  let (f, name) ← titled rt block
  return name.map (componentOf options.renderable f)

/-- The components of several blocks, in order. -/
def componentsOf (rt : Runtime) (options : ExtractionOptions) :
    List Text → Except Yaml.Error (List Component)
  | [] => .ok []
  | block :: rest => do
      let c ← component? rt options block
      return c.toList ++ (← componentsOf rt options rest)

/-- Components as the options ask for them: merged by name or as they are. -/
def arrange (options : ExtractionOptions) (components : List Component) : List Component :=
  if options.merge then Component.merge components else components

/-- The components of a text with the given extension. -/
def extract (rt : Runtime) (options : ExtractionOptions) (extension : Option Text) (t : Text) :
    Except Yaml.Error (List Component) :=
  (componentsOf rt options (documentationBlocks options.markdown extension t)).map (arrange options)

/-! ## Reports -/

/-- What gathering the examples of a list of segments reports. -/
def collectReport (segments : List Segment) : List Log.Record :=
  let names := (Example.collect segments).keys
  if names.isEmpty then []
  else [Log.debug "examples" ("Collected " ++ Text.ofNat names.length ++
    " example(s): " ++ Text.join ", " names)]

/-- What reading the front matter of a text reports. -/
def frontMatterReport (rt : Runtime) (t : Text) : List Log.Record :=
  if FrontMatter.ignoresHeader rt t then
    [Log.debug "frontmatter" "Ignoring front matter that is not a mapping of fields"]
  else []

/-- What reading a documentation block reports. -/
def componentReport (rt : Runtime) (block : Text) : List Log.Record :=
  match titled rt block with
  | .error _ => []
  | .ok (f, name) =>
      frontMatterReport rt block ++
        match name with
        | none => [Log.debug "parser" "Skipping documentation block without a name"]
        | some _ => collectReport (Segment.split f.content)

/-- What merging components reports: the names that have occurred before. -/
def mergeReportFrom : List Text → List Component → List Log.Record
  | _, [] => []
  | seen, c :: rest =>
      (if seen.contains c.groupName then
        [Log.debug "merge" ("Merging duplicate component " ++ c.groupName)]
      else []) ++ mergeReportFrom (c.groupName :: seen) rest

/-- What merging components reports. -/
def mergeReport (components : List Component) : List Log.Record :=
  mergeReportFrom [] components

/-- What arranging components reports. -/
def arrangeReport (options : ExtractionOptions) (components : List Component) : List Log.Record :=
  if options.merge then mergeReport components else []

/-- What reading several blocks reports, up to the first that cannot be read. -/
def componentsReport (rt : Runtime) : List Text → List Log.Record
  | [] => []
  | block :: rest =>
      componentReport rt block ++
        match titled rt block with
        | .error _ => []
        | .ok _ => componentsReport rt rest

/-- What extracting the components of a text reports. -/
def extractReport (rt : Runtime) (options : ExtractionOptions) (extension : Option Text) (t : Text) :
    List Log.Record :=
  let blocks := documentationBlocks options.markdown extension t
  Log.debug "parser" ("Found " ++ Text.ofNat blocks.length ++
      " documentation block(s)") ::
    (componentsReport rt blocks ++
      match componentsOf rt options blocks with
      | .error _ => []
      | .ok components => arrangeReport options components)

end Extraction

end ComponentDocs
