import ComponentDocs.Value.Field
import ComponentDocs.Value.SetOrder
import ComponentDocs.Yaml.Graph
import ComponentDocs.Yaml.Scalar

/-!
# Documents

From the graph of a document to its values. Every node is built once: scalars at once, collections
empty at first and filled in the order in which they were met, so that a collection may hold itself.
`load` reads a text, and `Document.value` unfolds the result into a tree that stops where a container
would occur inside itself.
-/

set_option autoImplicit false

namespace ComponentDocs.Yaml

/-- What has been built for a node: a value, or a collection that refers to other nodes. -/
inductive Cell where
  | leaf (v : Value)
  | list (items : List Nat)
  | map (entries : List (Value × Nat))
  | set (keys : List Value)
  | pairs (items : List (Nat × Nat))
deriving Inhabited

/-- What has been built for the nodes of a document, and the node that it consists of. -/
structure Document where
  cells : Array (Option Cell)
  root : Nat

namespace Document

/-- The state of the construction: the graph, what is built, and the collections to be filled. The most
steps that may be under way at a time do not change. -/
structure Building where
  frames : Nat
  graph : Graph
  cells : Array (Option Cell)
  waiting : List Nat := []

/-- A step of the construction. -/
abbrev Build := StateT Building (Except Error)

/-- The text of a scalar. A mapping stands for its default value, if that is met within as many steps
as the first number. -/
def scalarText (g : Graph) : Nat → Nat → Except Error Text
  | 0, _ => throw .tooDeep
  | frames + 1, n =>
      match (g.vertex n).content with
      | .scalar t => return t
      | .sequence _ => throw .malformed
      | .mapping entries =>
          match entries.find? fun e => (g.vertex e.1).tag == .defaultValue with
          | some (_, v) => scalarText g frames v
          | none => throw .malformed

/-- The value of a node whose tag asks for a scalar, or none for a collection. -/
def leaf? (frames : Nat) (g : Graph) (n : Nat) : Except Error (Option Value) := do
  let text := scalarText g frames n
  match (g.vertex n).tag with
  | .null => let _ ← text; return some .null
  | .bool => return some (← Scalar.bool (← text))
  | .int => return some (← Scalar.int (← text))
  | .float => return some (← Scalar.float (← text))
  | .binary => return some (← Scalar.binary (← text))
  | .timestamp =>
      let t ← text
      match (g.vertex n).content with
      | .scalar _ => return some (← Scalar.timestamp t)
      | _ => throw .notAScalar
  | .text => return some (.text (← text))
  | .sequence | .mapping | .set | .orderedMap | .pairs => return none
  | .merge | .defaultValue | .unknown => throw .malformed

/-- The collection without members that a tag asks for. -/
def emptyCell : Tag → Cell
  | .mapping => .map []
  | .set => .set []
  | .orderedMap | .pairs => .pairs []
  | _ => .list []

/-- Builds a node unless it has been built; a collection waits to be filled. -/
def build (n : Nat) : Build Unit := do
  let b ← get
  match b.cells.getD n none with
  | some _ => return ()
  | none =>
      match ← leaf? b.frames b.graph n with
      | some v => set { b with cells := b.cells.set! n (some (.leaf v)) }
      | none =>
          set { b with
            cells := b.cells.set! n (some (emptyCell (b.graph.vertex n).tag))
            waiting := b.waiting ++ [n] }

/-- Builds several nodes in order. -/
def buildAll : List Nat → Build Unit
  | [] => return ()
  | n :: rest => do
      build n
      buildAll rest

/-- The value of a node that is built as a scalar, and so can be a key. -/
def keyValue (n : Nat) : Build Value := do
  match (← get).cells.getD n none with
  | some (.leaf v) => return v
  | _ => throw .malformed

/-- A key of a mapping: the node that spells it, and its value. -/
structure Key where
  node : Nat
  value : Value

/-- Whether a node is the word for what is no number. A default value that is met at all is met within
as many steps as there are nodes. -/
def isNoNumberWord (g : Graph) (n : Nat) : Bool :=
  (g.vertex n).tag == .float &&
    match scalarText g (g.size + 1) n with
    | .ok t => Scalar.isNoNumberWord t
    | .error _ => false

/-- Whether two keys are the same. What is no number differs from all else, but a node is the same
key as itself, and the word for what is no number is one key wherever it stands. -/
def Key.same (g : Graph) (a b : Key) : Bool :=
  a.node == b.node || a.value.sameKey b.value ||
    (isNoNumberWord g a.node && isNoNumberWord g b.node)

/-- Writes an entry: a key keeps its first place and takes the last value. -/
def writeEntry (g : Graph) (k : Key) (n : Nat) : List (Key × Nat) → List (Key × Nat)
  | [] => [(k, n)]
  | (k', m) :: rest => if k'.same g k then (k', n) :: rest else (k', m) :: writeEntry g k n rest

/-- Builds the entries of a mapping in order. -/
def buildEntries : List (Nat × Nat) → List (Key × Nat) → Build (List (Key × Nat))
  | [], done => return done
  | (k, v) :: rest, done => do
      build k
      let key : Key := ⟨k, ← keyValue k⟩
      build v
      buildEntries rest (writeEntry (← get).graph key v done)

/-- The entries of a mapping node, with those that it takes over from others in front. -/
def mappingEntries (n : Nat) : Build (List (Value × Nat)) := do
  let b ← get
  match b.graph.entries n with
  | none => throw .malformed
  | some _ =>
      let size := b.graph.weight + 2
      let fuel := size * size * size
      let ((), g) ← (Graph.mergeEntries fuel b.frames n).run b.graph
      set { b with graph := g }
      let entries ← buildEntries ((g.entries n).getD []) []
      return entries.map fun e => (e.1.value, e.2)

/-- The single entry of each mapping in a sequence. -/
def singleEntries (g : Graph) : List Nat → Build (List (Nat × Nat))
  | [] => return []
  | n :: rest => do
      match g.entries n with
      | some [(k, v)] =>
          build k
          build v
          return (k, v) :: (← singleEntries g rest)
      | _ => throw .malformed

/-- Fills a collection. -/
def fill (n : Nat) : Build Unit := do
  let g := (← get).graph
  let v := g.vertex n
  let cell ←
    match v.tag with
    | .mapping => do pure (Cell.map (← mappingEntries n))
    | .set => do pure (Cell.set (Value.inSetOrder ((← mappingEntries n).map Prod.fst)))
    | tag =>
        match v.content with
        | .sequence items =>
            if tag == .sequence then do
              buildAll items
              pure (Cell.list items)
            else do pure (Cell.pairs (← singleEntries g items))
        | _ => throw .malformed
  modify fun b => { b with cells := b.cells.set! n (some cell) }

/-- Fills the collections that wait, in the order in which they were met. -/
def fillAll : Nat → Build Unit
  | 0 => return ()
  | fuel + 1 => do
      match (← get).waiting with
      | [] => return ()
      | n :: rest =>
          modify ({ · with waiting := rest })
          fill n
          fillAll fuel

/-- The document of a graph with the given root. -/
def ofGraph (frames : Nat) (g : Graph) (root : Nat) : Except Error Document := do
  let start : Building := { frames, graph := g, cells := Array.replicate g.size none }
  let ((), b) ← (do build root; fillAll (g.size + 1)).run start
  return ⟨b.cells, root⟩

/-! ## Unfolding -/

/-- A container on the way from the root of an unfolding: a node, or one of the pairs that it lists. -/
abbrev Step := Nat × Option Nat

mutual

/-- The tree of a node, given the containers around it. -/
def unfold (d : Document) : Nat → List Step → Nat → Value
  | 0, _, _ => .null
  | fuel + 1, path, n =>
      match d.cells.getD n none with
      | none => .null
      | some (.leaf v) => v
      | some (.set keys) => .set keys
      | some (.list items) =>
          if path.contains (n, none) then .loop .square
          else .list (unfoldItems d fuel ((n, none) :: path) items)
      | some (.map entries) =>
          if path.contains (n, none) then .loop .curly
          else .map (unfoldEntries d fuel ((n, none) :: path) entries)
      | some (.pairs items) =>
          if path.contains (n, none) then .loop .square
          else .list (unfoldPairs d fuel ((n, none) :: path) n 0 items)

/-- The trees of the items of a sequence. -/
def unfoldItems (d : Document) : Nat → List Step → List Nat → List Value
  | 0, _, _ => []
  | _ + 1, _, [] => []
  | fuel + 1, path, n :: rest => unfold d fuel path n :: unfoldItems d fuel path rest

/-- The trees of the entries of a mapping. -/
def unfoldEntries (d : Document) : Nat → List Step → List (Value × Nat) → List (Value × Value)
  | 0, _, _ => []
  | _ + 1, _, [] => []
  | fuel + 1, path, (k, n) :: rest => (k, unfold d fuel path n) :: unfoldEntries d fuel path rest

/-- The trees of the pairs that a node lists, from the given place on. -/
def unfoldPairs (d : Document) :
    Nat → List Step → Nat → Nat → List (Nat × Nat) → List Value
  | 0, _, _, _, _ => []
  | _ + 1, _, _, _, [] => []
  | fuel + 1, path, owner, place, (k, v) :: rest =>
      unfoldPair d fuel path owner place (k, v) ::
        unfoldPairs d fuel path owner (place + 1) rest

/-- The tree of one of the pairs that a node lists. -/
def unfoldPair (d : Document) : Nat → List Step → Nat → Nat → Nat × Nat → Value
  | 0, _, _, _, _ => .null
  | fuel + 1, path, owner, place, (k, v) =>
      if path.contains (owner, some place) then .loop .round
      else
        let path := (owner, some place) :: path
        .tuple [unfold d fuel path k, unfold d fuel path v]

end

/-- A bound on the steps of an unfolding: no container occurs twice on the way from the root. -/
def depth (d : Document) : Nat :=
  let members := d.cells.foldl (fun sum c => sum + match c with
    | some (.list items) => items.length + 1
    | some (.map entries) => entries.length + 1
    | some (.pairs items) => items.length + 1
    | _ => 1) 0
  3 * (members + d.cells.size + 2)

/-- The value of a node. -/
def valueAt (d : Document) (n : Nat) : Value :=
  unfold d d.depth [] n

/-- The value of a document. -/
def value (d : Document) : Value :=
  d.valueAt d.root

/-- A node as a field: the values of its members for a list, and its own value otherwise. -/
def fieldAt (d : Document) (n : Nat) : Field :=
  match d.cells.getD n none with
  | some (.list items) => .many (items.map d.valueAt)
  | some (.pairs items) =>
      .many ((List.range items.length).zip items |>.map fun p =>
        unfoldPair d d.depth [] n p.1 p.2)
  | _ => .single (d.valueAt n)

/-- The entries of a node that is a mapping. -/
def mappingAt? (d : Document) (n : Nat) : Option (List (Value × Nat)) :=
  match d.cells.getD n none with
  | some (.map entries) => some entries
  | _ => none

/-- The node under a key of a node that is a mapping. -/
def memberAt? (d : Document) (n : Nat) (key : Text) : Option Nat :=
  ((d.mappingAt? n).getD []).findSome? fun e => if e.1.sameKey (.text key) then some e.2 else none

/-- The entries of a document that is a mapping. -/
def entries? (d : Document) : Option (List (Value × Field)) :=
  (d.mappingAt? d.root).map fun entries => entries.map fun e => (e.1, d.fieldAt e.2)

end Document

/-- The document of a text, if the text has one, where only so many steps can be under way at a time:
collections that stand inside each other, mappings that take over from each other, and mappings that
stand for each other as default values take steps. -/
def load (frames : Nat) (t : Text) : Except Error (Option Document) := do
  match ← Node.parse frames t with
  | none => return none
  | some node =>
      let (g, root) ← Graph.ofNode node
      return some (← Document.ofGraph frames g root)

end ComponentDocs.Yaml
