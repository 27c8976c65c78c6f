import ComponentDocs.Yaml.Token

/-!
# From text to tokens

Block structure follows from indentation, so the scanner keeps the columns of the open block
collections. A key in front of a colon is recognised only when the colon is reached: until then the
place where it began is remembered, and the tokens that open a mapping and a key are put in front of
it afterwards. Such a key is at most one line and 1024 characters long.

Tokens are fetched on demand: `Scanner.next` is the next token that has not been taken. It reads no
further than it has to, so that a fault in front of the cursor is found before one behind it.
-/

set_option autoImplicit false

namespace ComponentDocs.Yaml

/-- A place where a key may have begun. -/
structure PossibleKey where
  tokenNumber : Nat
  required : Bool
  index : Nat
  line : Nat
  column : Nat

/-- What is known about the document up to the cursor. -/
structure Scanner where
  cursor : Cursor
  /-- The number of flow collections that are open. -/
  flowLevel : Nat := 0
  /-- The column of the innermost open block collection, and minus one outside of all. -/
  indent : Int := -1
  /-- The columns of the block collections around it. -/
  indents : List Int := []
  /-- Whether a key may begin at the cursor. -/
  keyAllowed : Bool := true
  /-- The places where a key may have begun, by flow level. -/
  keys : List (Nat × PossibleKey) := []
  /-- The tokens fetched so far. -/
  tokens : Array Token := #[]
  /-- The number of tokens taken so far. -/
  taken : Nat := 0
  /-- Whether the last token has been fetched. -/
  finished : Bool := false

namespace Scanner

/-- A step of the scanner. -/
abbrev Scan := StateT Scanner (Except Error)

/-- A step of a cursor as a step of the scanner. -/
def reading {α : Type} (step : Reading α) : Scan α := do
  match step.run (← get).cursor with
  | .ok (a, c) => modify ({ · with cursor := c }); return a
  | .error e => throw e

/-- Appends a token. -/
def emit (t : Token) : Scan Unit :=
  modify fun s => { s with tokens := s.tokens.push t }

/-- Puts a token in front of the one with the given number. -/
def emitAt (n : Nat) (t : Token) : Scan Unit :=
  modify fun s => { s with tokens := s.tokens.insertIdxIfInBounds n t }

/-- Says whether a key may begin next. -/
def allowKey (allowed : Bool) : Scan Unit :=
  modify ({ · with keyAllowed := allowed })

/-! ## Possible keys -/

/-- Forgets places that are too far back to begin a key; one that must begin a key is an error. -/
def dropStaleKeys : Scan Unit := do
  let s ← get
  let isStale : Nat × PossibleKey → Bool := fun k =>
    k.2.line != s.cursor.line || 1024 < s.cursor.index - k.2.index
  if s.keys.any fun k => isStale k && k.2.required then throw .malformed
  modify fun s => { s with keys := s.keys.filter fun k => !isStale k }

/-- Forgets the place on the present flow level; one that must begin a key is an error. -/
def dropKey : Scan Unit := do
  let s ← get
  if s.keys.any fun k => k.1 == s.flowLevel && k.2.required then throw .malformed
  modify fun s => { s with keys := s.keys.filter fun k => k.1 != s.flowLevel }

/-- Remembers the cursor as a place where a key may begin. -/
def saveKey : Scan Unit := do
  let s ← get
  if s.keyAllowed then
    dropKey
    let required := s.flowLevel == 0 && s.indent == s.cursor.column
    let k : PossibleKey :=
      ⟨s.tokens.size, required, s.cursor.index, s.cursor.line, s.cursor.column⟩
    modify fun s => { s with keys := (s.flowLevel, k) :: s.keys }

/-! ## Indentation -/

/-- Closes the block collections that are deeper than a column. -/
def unwindTo (column : Int) : List Int → Scan Unit
  | [] => return ()
  | outer :: others => do
      if column < (← get).indent then
        modify fun s => { s with indent := outer, indents := others }
        emit .blockEnd
        unwindTo column others

/-- Closes the block collections that are deeper than a column, unless a flow collection is open. -/
def unwind (column : Int) : Scan Unit := do
  let s ← get
  if s.flowLevel == 0 then unwindTo column s.indents

/-- Opens a block collection at a column if it is deeper than the present one. -/
def deepen (column : Nat) : Scan Bool := do
  let s ← get
  if s.indent < column then
    set { s with indent := (column : Int), indents := s.indent :: s.indents }
    return true
  else return false

/-! ## Fetching tokens -/

/-- Takes spaces, comments and line ends in front of the next token. -/
def skipToToken : Nat → Scan Unit
  | 0 => return ()
  | fuel + 1 => do
      let _ ← reading (Reading.takeWhile (· == ' '))
      if (← get).cursor.peek == '#' then
        let _ ← reading (Reading.takeWhile fun c => !isBreak c)
      let ending ← reading Reading.lineBreak
      if !ending.isEmpty then
        if (← get).flowLevel == 0 then allowKey true
        skipToToken fuel

/-- Takes the given number of characters and appends a token. -/
def take (n : Nat) (t : Token) : Scan Unit := do
  reading (Reading.skip n)
  emit t

/-- Ends all block collections in front of a directive, a document marker or the end. -/
def closeAll : Scan Unit := do
  unwind (-1)
  dropKey
  allowKey false

/-- The opening bracket of a flow collection, which may itself begin a key. -/
def fetchFlowStart (t : Token) : Scan Unit := do
  saveKey
  modify fun s => { s with flowLevel := s.flowLevel + 1 }
  allowKey true
  take 1 t

/-- The closing bracket of a flow collection. -/
def fetchFlowEnd (t : Token) : Scan Unit := do
  dropKey
  modify fun s => { s with flowLevel := s.flowLevel - 1 }
  allowKey false
  take 1 t

/-- The comma between the entries of a flow collection. -/
def fetchFlowEntry : Scan Unit := do
  allowKey true
  dropKey
  take 1 .flowEntry

/-- Opens a block collection for an indicator at the cursor, which must be allowed there. -/
def openBlock (start : Token) : Scan Unit := do
  let s ← get
  if s.flowLevel == 0 then
    if !s.keyAllowed then throw .malformed
    if ← deepen s.cursor.column then emit start

/-- The hyphen of an entry of a block sequence. -/
def fetchBlockEntry : Scan Unit := do
  openBlock .blockSequenceStart
  allowKey true
  dropKey
  take 1 .blockEntry

/-- The question mark in front of a key. -/
def fetchKey : Scan Unit := do
  openBlock .blockMappingStart
  allowKey ((← get).flowLevel == 0)
  dropKey
  take 1 .key

/-- The colon in front of a value. If a key may have begun, it did. -/
def fetchValue : Scan Unit := do
  let s ← get
  match s.keys.lookup s.flowLevel with
  | some k =>
      modify fun s => { s with keys := s.keys.filter fun k => k.1 != s.flowLevel }
      emitAt k.tokenNumber .key
      if s.flowLevel == 0 then
        if ← deepen k.column then emitAt k.tokenNumber .blockMappingStart
      allowKey false
  | none =>
      openBlock .blockMappingStart
      allowKey (s.flowLevel == 0)
      dropKey
  take 1 .value

/-- A token that may begin a key: an anchor, an alias, a tag or a quoted scalar. -/
def fetchKeyed (step : Reading Token) : Scan Unit := do
  saveKey
  allowKey false
  emit (← reading step)

/-- A block scalar. -/
def fetchBlockScalar (folded : Bool) : Scan Unit := do
  allowKey true
  dropKey
  emit (← reading (Token.readBlockScalar folded (← get).indent))

/-- A plain scalar. -/
def fetchPlain : Scan Unit := do
  saveKey
  let s ← get
  let (t, newLine) ← reading (Token.readPlain (s.flowLevel != 0) s.indent)
  allowKey newLine
  emit t

/-- Whether a plain scalar starts at the cursor. -/
def startsPlain (flow : Bool) (c : Cursor) : Bool :=
  let ch := c.peek
  !(isBlankOrEnd ch || ("-?:,[]\x7b\x7d#&*!|>'\"%@`" : Text).contains ch) ||
    (!isBlankOrEnd (c.peekAt 1) && (ch == '-' || (!flow && (ch == '?' || ch == ':'))))

/-- Fetches the next token, with those that it opens and closes. -/
def fetch : Scan Unit := do
  let s ← get
  if s.cursor.index == 0 && s.cursor.peek == byteOrderMark then reading (Reading.skip 1)
  skipToToken s.cursor.bound
  dropStaleKeys
  unwind (← get).cursor.column
  let s ← get
  let c := s.cursor
  let flow := s.flowLevel != 0
  let blankNext := isBlankOrEnd (c.peekAt 1)
  match c.peek with
  | '[' => fetchFlowStart .flowSequenceStart
  | '\x7b' => fetchFlowStart .flowMappingStart
  | ']' => fetchFlowEnd .flowSequenceEnd
  | '\x7d' => fetchFlowEnd .flowMappingEnd
  | ',' => fetchFlowEntry
  | '*' => fetchKeyed do return .reference (← Token.readAnchorName)
  | '&' => fetchKeyed do return .anchor (← Token.readAnchorName)
  | '!' => fetchKeyed Token.readTag
  | '\'' => fetchKeyed (Token.readQuoted false)
  | '"' => fetchKeyed (Token.readQuoted true)
  | ch =>
      if ch == endMark then
        closeAll
        modify ({ · with keys := [], finished := true })
        emit .streamEnd
      else if ch == '%' && c.column == 0 then
        closeAll
        emit (← reading Token.readDirective)
      else if c.column == 0 && c.atMarker "---" then
        closeAll
        take 3 .documentStart
      else if c.column == 0 && c.atMarker "..." then
        closeAll
        take 3 .documentEnd
      else if ch == '-' && blankNext then fetchBlockEntry
      else if ch == '?' && (flow || blankNext) then fetchKey
      else if ch == ':' && (flow || blankNext) then fetchValue
      else if ch == '|' && !flow then fetchBlockScalar false
      else if ch == '>' && !flow then fetchBlockScalar true
      else if startsPlain flow c then fetchPlain
      else throw .malformed

/-! ## Taking tokens -/

/-- Whether the next token is not certain yet: none is left, or it may turn out to begin a key. -/
def needsMore : Scan Bool := do
  let s ← get
  if s.finished then return false
  if s.tokens.size ≤ s.taken then return true
  dropStaleKeys
  return (← get).keys.any fun k => k.2.tokenNumber == s.taken

/-- Fetches tokens until the next one is certain. -/
def fetchNeeded : Nat → Scan Unit
  | 0 => return ()
  | fuel + 1 => do
      if ← needsMore then
        fetch
        fetchNeeded fuel

/-- The next token, not taken. -/
def next : Scan Token := do
  fetchNeeded (← get).cursor.bound
  let s ← get
  match s.tokens[s.taken]? with
  | some t => return t
  | none => throw .malformed

/-- Takes the next token. -/
def advance : Scan Unit :=
  modify fun s => { s with taken := s.taken + 1 }

end Scanner

end ComponentDocs.Yaml
