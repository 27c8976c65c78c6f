import ComponentDocs.Fence
import ComponentDocs.Value.Basic

/-!
# Components and their examples

A component is one entry of the documentation: a name, a category, metadata, a description, and
examples by name. An example bundles the code blocks that share its name, with options of which the
first one written wins.

Examples grow in two ways. `Example.collect` passes the segments of a text with a record for each name,
and makes examples of the records at the end; `Component.addExample` registers an example with a
component, and extends the one that has its name already.
-/

set_option autoImplicit false

namespace ComponentDocs

/-- One fenced snippet of an example. -/
structure CodeBlock where
  extension : Text
  code : Text
  hidden : Bool := false
  height : Option Text := none
deriving DecidableEq

/-- A named bundle of code blocks with options. -/
structure Example where
  name : Text
  blocks : List CodeBlock := []
  options : OrderedMap Text Value := .empty

/-- One key and value of the metadata of a component. -/
structure MetaEntry where
  key : Text
  value : Value

/-- A documentation entry. -/
structure Component where
  name : Option Text := none
  category : Option Text := none
  metadata : List MetaEntry := []
  description : Text := []
  examples : OrderedMap Text Example := .empty

instance : Inhabited Component := ⟨{}⟩

namespace CodeBlock

/-- The code block of a fence under the name of its example, if the fence is labelled. -/
def ofFence? (f : Fence) : Option (Text × CodeBlock) :=
  f.label.map fun a => (a.name, ⟨a.extension, f.body, a.hidden, a.height⟩)

/-- The code block of a segment under the name of its example, if it is a labelled fence. -/
def ofSegment? : Segment → Option (Text × CodeBlock)
  | .text _ => none
  | .fence f => ofFence? f

end CodeBlock

namespace Example

/-- The height among the options. -/
def height (e : Example) : Option Value :=
  e.options.get? Label.heightKey

/-- The example with further blocks, and with those options that it does not have yet. -/
def extend (e : Example) (blocks : List CodeBlock) (options : List (Text × Value)) : Example :=
  { e with
    blocks := e.blocks ++ blocks
    options := options.foldl (fun m o => m.insertIfNew o.1 o.2) e.options }

/-- Whether a height is stated and not empty. -/
def isHeight (height : Option Text) : Bool :=
  height.any fun h => !h.isEmpty

/-- What is known of an example while the blocks of a text are passed: its blocks so far, and the first
height that one of them declares. -/
structure Record where
  blocks : List CodeBlock := []
  height : Option Text := none

namespace Record

/-- The record with one more block. -/
def add (r : Record) (b : CodeBlock) : Record :=
  { blocks := r.blocks ++ [b]
    height := if !isHeight r.height && isHeight b.height then b.height else r.height }

/-- The options of the example: its height, if it has one. -/
def options (r : Record) : OrderedMap Text Value :=
  match r.height with
  | none => .empty
  | some h => if h.isEmpty then .empty else .ofList [(Label.heightKey, .text h)]

/-- The example that a record stands for. -/
def toExample (name : Text) (r : Record) : Example :=
  { name := name, blocks := r.blocks, options := r.options }

end Record

/-- The records of the names among labelled blocks, in order of first appearance. -/
def records (segments : List Segment) : OrderedMap Text Record :=
  (segments.filterMap CodeBlock.ofSegment?).foldl
    (fun m b => m.alter b.1 fun known => (known.getD {}).add b.2) .empty

/-- The examples of a list of segments by name, in order of first appearance. Blocks of one name are
gathered in order, and the first height declared among them is the height of the example. -/
def collect (segments : List Segment) : OrderedMap Text Example :=
  (records segments).mapEntries Record.toExample

end Example

namespace Component

/-- The component with an example registered, which extends an earlier one of the same name. -/
def addExample (c : Component) (name : Text) (blocks : List CodeBlock)
    (options : List (Text × Value)) : Component :=
  { c with
    examples := c.examples.alter name fun known =>
      (known.getD { name := name }).extend blocks options }

/-- The component with all the examples of a list registered under the given names, in order. -/
def addExamples (c : Component) (examples : List (Text × Example)) : Component :=
  examples.foldl (fun c e => c.addExample e.1 e.2.blocks e.2.options.entries) c

/-- The component with one more metadata entry. -/
def addMetadata (c : Component) (key : Text) (value : Value) : Component :=
  { c with metadata := c.metadata ++ [⟨key, value⟩] }

end Component

end ComponentDocs
