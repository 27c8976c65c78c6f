import ComponentDocs.Yaml.Node
import ComponentDocs.Yaml.Tag

/-!
# From trees to graphs

An alias stands for the node with its anchor, so a document is a graph: its nodes are numbered, and
sequences and mappings list the numbers of their members. A node may be its own member, since an
anchor is known from the start of the node that carries it.

`Graph.mergeEntries` puts the entries that a mapping takes over from others in front of its own. What
the others take over comes first, and only so many mappings can be under way at a time.
-/

set_option autoImplicit false

namespace ComponentDocs.Yaml

/-- What a node holds: a text, or the numbers of its members. -/
inductive Content where
  | scalar (text : Text)
  | sequence (items : List Nat)
  | mapping (entries : List (Nat × Nat))
deriving Inhabited

/-- A node of a graph. -/
structure Vertex where
  tag : Tag
  content : Content

instance : Inhabited Vertex := ⟨.unknown, .scalar []⟩

/-- The nodes of a document by number. -/
abbrev Graph := Array Vertex

namespace Graph

/-- The node with a number. -/
def vertex (g : Graph) (n : Nat) : Vertex :=
  g.getD n default

/-- What is known while a graph is built: the nodes so far, and the nodes of the anchors. -/
structure Building where
  graph : Graph := #[]
  anchors : List (Text × Nat) := []

/-- A step that builds a graph. -/
abbrev Build := StateT Building (Except Error)

/-- Adds a node, under its anchor if it has one. -/
def add (anchor : Option Text) (v : Vertex) : Build Nat := do
  let b ← get
  let n := b.graph.size
  match anchor with
  | none => set { b with graph := b.graph.push v }
  | some a =>
      set { graph := b.graph.push v, anchors := (a, n) :: b.anchors : Building }
  return n

/-- Gives a node its content. -/
def fill (n : Nat) (content : Content) : Build Unit :=
  modify fun b => { b with graph := b.graph.modify n ({ · with content }) }

/-- The tag of a node, by its name or else by its form. -/
def tagOf (name : Option Text) (otherwise : Tag) : Tag :=
  match name with
  | none => otherwise
  | some t => Tag.ofName t

mutual

/-- Adds a tree, and tells the number of its root. -/
def addNode : Node → Build Nat
  | .reference name => do
      match (← get).anchors.lookup name with
      | none => throw .malformed
      | some n => return n
  | .scalar p plain text =>
      add p.anchor ⟨tagOf p.tag (if plain then Tag.ofPlain text else .text), .scalar text⟩
  | .sequence p items => do
      let n ← add p.anchor ⟨tagOf p.tag .sequence, .sequence []⟩
      fill n (.sequence (← addItems items))
      return n
  | .mapping p entries => do
      let n ← add p.anchor ⟨tagOf p.tag .mapping, .mapping []⟩
      fill n (.mapping (← addEntries entries))
      return n

/-- Adds the items of a sequence. -/
def addItems : List Node → Build (List Nat)
  | [] => return []
  | item :: rest => do
      let n ← addNode item
      return n :: (← addItems rest)

/-- Adds the entries of a mapping. -/
def addEntries : List (Node × Node) → Build (List (Nat × Nat))
  | [] => return []
  | (k, v) :: rest => do
      let m ← addNode k
      let n ← addNode v
      return (m, n) :: (← addEntries rest)

end

/-- The graph of a tree, and the number of its root. -/
def ofNode (node : Node) : Except Error (Graph × Nat) := do
  let (root, b) ← (addNode node).run {}
  return (b.graph, root)

/-! ## Merging mappings -/

/-- A step that may change the nodes of a graph. -/
abbrev Change := StateT Graph (Except Error)

/-- The entries of a mapping node. -/
def entries (g : Graph) (n : Nat) : Option (List (Nat × Nat)) :=
  match (g.vertex n).content with
  | .mapping es => some es
  | _ => none

/-- Gives a mapping node other entries. -/
def setEntries (n : Nat) (es : List (Nat × Nat)) : Change Unit :=
  modify fun g => g.modify n ({ · with content := .mapping es })

/-- Reads a key of default values as text. -/
def keyAsText (n : Nat) : Change Unit :=
  modify fun g =>
    g.modify n fun v => if v.tag == .defaultValue then { v with tag := .text } else v

mutual

/-- Puts the entries that a mapping takes over in front of its own, if as many mappings as the second
number can be under way. Among several mappings that are taken over the first one counts most, so it
comes last. -/
def mergeEntries : Nat → Nat → Nat → Change Unit
  | 0, _, _ => throw .malformed
  | _ + 1, 0, _ => throw .tooDeep
  | fuel + 1, frames + 1, n => do
      let taken ← takeOver fuel frames n 0
      if !taken.isEmpty then
        setEntries n (taken ++ ((← get).entries n).getD [])
termination_by structural fuel => fuel

/-- Removes the merge keys of a mapping from a place on, and tells the entries that they take over. -/
def takeOver : Nat → Nat → Nat → Nat → Change (List (Nat × Nat))
  | 0, _, _, _ => throw .malformed
  | fuel + 1, frames, n, place => do
      let es := ((← get).entries n).getD []
      match es.drop place with
      | [] => return []
      | (k, v) :: _ =>
          if ((← get).vertex k).tag == .merge then
            setEntries n (es.eraseIdx place)
            let taken ←
              match ((← get).vertex v).content with
              | .mapping _ => do
                  mergeEntries fuel frames v
                  pure (((← get).entries v).getD [])
              | .sequence items => takeOverAll fuel frames items
              | .scalar _ => throw .malformed
            return taken ++ (← takeOver fuel frames n place)
          else
            keyAsText k
            takeOver fuel frames n (place + 1)

/-- The entries of several mappings that are taken over, last mapping first. -/
def takeOverAll : Nat → Nat → List Nat → Change (List (Nat × Nat))
  | 0, _, _ => throw .malformed
  | _ + 1, _, [] => return []
  | fuel + 1, frames, n :: rest => do
      match (← get).entries n with
      | none => throw .malformed
      | some _ =>
          mergeEntries fuel frames n
          let own := ((← get).entries n).getD []
          return (← takeOverAll fuel frames rest) ++ own

end

/-- The number of members that all nodes of a graph list. -/
def weight (g : Graph) : Nat :=
  g.foldl (fun sum v => sum + match v.content with
    | .scalar _ => 1
    | .sequence items => items.length + 1
    | .mapping es => es.length + 1) 0

end Graph

end ComponentDocs.Yaml
