import ComponentDocs.Yaml.Scanner

/-!
# From tokens to trees

The syntax tree of a document: aliases, scalars, sequences and mappings, with the anchors and tags
that they carry. The grammar needs one token of lookahead, so the reader is a recursive descent on
tokens that are fetched as it goes; its fuel is a bound on their number, of which every call takes at
least one. An alias without an anchor in front of it and an anchor that is used again are refused
where they stand.
-/

set_option autoImplicit false

namespace ComponentDocs.Yaml

/-- What stands in front of a node: an anchor and the name of a tag. -/
structure Properties where
  anchor : Option Text := none
  tag : Option Text := none

/-- A node of a syntax tree. -/
inductive Node where
  | reference (name : Text)
  /-- A scalar; an untagged one is resolved by its form if it is plain. -/
  | scalar (properties : Properties) (plain : Bool) (text : Text)
  | sequence (properties : Properties) (items : List Node)
  | mapping (properties : Properties) (entries : List (Node × Node))

namespace Node

/-- The scalar that stands where nothing is written. -/
def empty : Node := scalar {} true []

/-- What is known at a place of a document: the meaning of tag handles, the anchors in front of it, the
number of collections around it, and the most steps of the reader that may be under way at a time. -/
structure Context where
  frames : Nat
  handles : List (Text × Text)
  anchors : List Text := []
  depth : Nat := 0

/-- A step of the reader. -/
abbrev Parse := StateT Context Scanner.Scan

/-- The next token, not taken. -/
def peek : Parse Token :=
  liftM Scanner.next

/-- Takes the next token. -/
def advance : Parse Unit :=
  liftM Scanner.advance

/-- Whether the next token is one of the given ones. -/
def follows (ts : List Token) : Parse Bool := do
  return ts.contains (← peek)

/-- The full name of a tag. -/
def resolveTag (handle : Option Text) (suffix : Text) : Parse Text := do
  match handle with
  | none => return suffix
  | some h =>
      match (← get).handles.lookup h with
      | none => throw .malformed
      | some beginning => return beginning ++ suffix

/-- The anchor in front of a node, if there is one. -/
def readAnchor : Parse (Option Text) := do
  match ← peek with
  | .anchor name => advance; return some name
  | _ => return none

/-- The tag in front of a node, if there is one. -/
def readTag : Parse (Option (Option Text × Text)) := do
  match ← peek with
  | .tag handle suffix => advance; return some (handle, suffix)
  | _ => return none

/-- Anchor and tag in front of a node, in either order. -/
def readProperties : Parse Properties := do
  let early ← readAnchor
  let tag ← readTag
  let anchor ← if early.isNone && tag.isSome then readAnchor else pure early
  match tag with
  | none => return { anchor }
  | some (handle, suffix) => return { anchor, tag := some (← resolveTag handle suffix) }

/-- The tag of a node; the mark alone asks for the tag that the form of the node suggests. -/
def ownTag (p : Properties) : Properties :=
  if p.tag == some "!" then { p with tag := none } else p

/-- Makes the anchor of a node known; an anchor may be used once. -/
def register (p : Properties) : Parse Unit := do
  match p.anchor with
  | none => return ()
  | some a =>
      if (← get).anchors.contains a then throw .malformed
      modify fun c => { c with anchors := a :: c.anchors }

/-- Reads the members of a collection, which stand one level deeper. A collection takes two steps of the
reader: one for the node, and one for what it holds. -/
def deeper {α : Type} (step : Parse α) : Parse α := do
  modify fun c => { c with depth := c.depth + 1 }
  if (← get).frames < 2 * (← get).depth then throw .tooDeep
  let a ← step
  modify fun c => { c with depth := c.depth - 1 }
  return a

/-- Where a node stands: whether it may be a block collection, and whether a block sequence may stand
at the column of its key. -/
inductive Position where
  | flow
  | block
  | blockValue
deriving DecidableEq

mutual

/-- A node. -/
def read (position : Position) : Nat → Parse Node
  | 0 => throw .malformed
  | fuel + 1 => do
      match ← peek with
      | .reference name =>
          advance
          if (← get).anchors.contains name then return reference name else throw .malformed
      | _ =>
          let p ← readProperties
          let own := ownTag p
          match ← peek with
          | .scalar text plain =>
              register p
              advance
              return scalar own (plain && p.tag.isNone || p.tag == some "!") text
          | .flowSequenceStart =>
              register p
              advance
              return sequence own (← deeper (readFlowSequence true fuel))
          | .flowMappingStart =>
              register p
              advance
              return mapping own (← deeper (readFlowMapping true fuel))
          | t =>
              if t == .blockEntry && position == .blockValue then
                register p
                return sequence own (← deeper (readIndentless fuel))
              else if t == .blockSequenceStart && position != .flow then
                register p
                advance
                return sequence own (← deeper (readBlockSequence fuel))
              else if t == .blockMappingStart && position != .flow then
                register p
                advance
                return mapping own (← deeper (readBlockMapping fuel))
              else if p.anchor.isSome || p.tag.isSome then
                register p
                return scalar own true []
              else throw .malformed

/-- The entries of a block sequence, through its end. -/
def readBlockSequence : Nat → Parse (List Node)
  | 0 => throw .malformed
  | fuel + 1 => do
      match ← peek with
      | .blockEntry =>
          advance
          let item ←
            if ← follows [.blockEntry, .blockEnd] then pure empty else read .block fuel
          return item :: (← readBlockSequence fuel)
      | .blockEnd => advance; return []
      | _ => throw .malformed

/-- The entries of a block sequence at the column of its key. -/
def readIndentless : Nat → Parse (List Node)
  | 0 => throw .malformed
  | fuel + 1 => do
      match ← peek with
      | .blockEntry =>
          advance
          let item ←
            if ← follows [.blockEntry, .key, .value, .blockEnd] then pure empty
            else read .block fuel
          return item :: (← readIndentless fuel)
      | _ => return []

/-- The entries of a block mapping, through its end. -/
def readBlockMapping : Nat → Parse (List (Node × Node))
  | 0 => throw .malformed
  | fuel + 1 => do
      match ← peek with
      | .key =>
          advance
          let k ←
            if ← follows [.key, .value, .blockEnd] then pure empty else read .blockValue fuel
          let v ←
            if ← follows [.value] then do
              advance
              if ← follows [.key, .value, .blockEnd] then pure empty else read .blockValue fuel
            else pure empty
          return (k, v) :: (← readBlockMapping fuel)
      | .blockEnd => advance; return []
      | _ => throw .malformed

/-- The entries of a flow sequence, through its end. A pair is a mapping of one entry. -/
def readFlowSequence (first : Bool) : Nat → Parse (List Node)
  | 0 => throw .malformed
  | fuel + 1 => do
      if ← follows [.flowSequenceEnd] then advance; return []
      if !first then
        if ← follows [.flowEntry] then advance else throw .malformed
      match ← peek with
      | .key =>
          advance
          let k ←
            if ← follows [.value, .flowEntry, .flowSequenceEnd] then pure empty
            else read .flow fuel
          let v ←
            if ← follows [.value] then do
              advance
              if ← follows [.flowEntry, .flowSequenceEnd] then pure empty else read .flow fuel
            else pure empty
          return mapping {} [(k, v)] :: (← readFlowSequence false fuel)
      | .flowSequenceEnd => advance; return []
      | _ =>
          let item ← read .flow fuel
          return item :: (← readFlowSequence false fuel)

/-- The entries of a flow mapping, through its end. -/
def readFlowMapping (first : Bool) : Nat → Parse (List (Node × Node))
  | 0 => throw .malformed
  | fuel + 1 => do
      if ← follows [.flowMappingEnd] then advance; return []
      if !first then
        if ← follows [.flowEntry] then advance else throw .malformed
      match ← peek with
      | .key =>
          advance
          let k ←
            if ← follows [.value, .flowEntry, .flowMappingEnd] then pure empty
            else read .flow fuel
          let v ←
            if ← follows [.value] then do
              advance
              if ← follows [.flowEntry, .flowMappingEnd] then pure empty else read .flow fuel
            else pure empty
          return (k, v) :: (← readFlowMapping false fuel)
      | .flowMappingEnd => advance; return []
      | _ =>
          let k ← read .flow fuel
          return (k, empty) :: (← readFlowMapping false fuel)

end

/-! ## Documents -/

/-- The handles that every document knows. -/
def defaultHandles : List (Text × Text) :=
  [("!", "!"), ("!!", "tag:yaml.org,2002:")]

/-- The directives in front of a document; each may be given once, and the version must be 1. -/
def readDirectives : Nat → Bool → List (Text × Text) → Parse (List (Text × Text))
  | 0, _, _ => throw .malformed
  | fuel + 1, versioned, handles => do
      match ← peek with
      | .versionDirective major _ =>
          if versioned || major != 1 then throw .malformed
          advance
          readDirectives fuel true handles
      | .tagDirective handle beginning =>
          if (handles.lookup handle).isSome then throw .malformed
          advance
          readDirectives fuel versioned (handles ++ [(handle, beginning)])
      | .otherDirective => advance; readDirectives fuel versioned handles
      | _ => return handles

/-- Whether the next token ends the content of a document. -/
def atDocumentEnd : Parse Bool := do
  match ← peek with
  | .versionDirective _ _ | .tagDirective _ _ | .otherDirective => return true
  | .documentStart | .documentEnd | .streamEnd => return true
  | _ => return false

/-- Takes the markers behind a document. -/
def skipDocumentEnds : Nat → Parse Unit
  | 0 => return ()
  | fuel + 1 => do
      if ← follows [.documentEnd] then
        advance
        skipDocumentEnds fuel

/-- The only document of a stream of tokens, if it has one. The directives of a further one are read
before it is refused. -/
def readDocument (fuel : Nat) : Parse (Option Node) := do
  let first ← peek
  if first == .streamEnd then return none
  let content ←
    if (← atDocumentEnd) && first != .documentEnd then do
      let handles ← readDirectives fuel false []
      if !(← follows [.documentStart]) then throw .malformed
      advance
      modify ({ · with handles := handles ++ defaultHandles })
      if ← atDocumentEnd then pure empty else read .block fuel
    else read .block fuel
  skipDocumentEnds fuel
  if ← follows [.streamEnd] then return some content
  let _ ← readDirectives fuel false []
  throw .malformed

/-- The syntax tree of a text, if it has a document. -/
def parse (frames : Nat) (t : Text) : Except Error (Option Node) :=
  if t.all isAdmissible then
    ((readDocument (16 * (t.length + 2))).run' { frames, handles := defaultHandles }).run'
      { cursor := .ofText t }
  else .error .malformed

end Node

end ComponentDocs.Yaml
