import ComponentDocs.Yaml.Cursor
import ComponentDocs.Text.Utf8
import ComponentDocs.Text.Digit

/-!
# Tokens

The tokens of a document, and how those that carry text are read: anchors, tags, directives, block
scalars, quoted scalars and plain scalars.
-/

set_option autoImplicit false

namespace ComponentDocs.Yaml

/-- A token of a document. -/
inductive Token where
  | versionDirective (major minor : Nat)
  | tagDirective (handle beginning : Text)
  | otherDirective
  | documentStart
  | documentEnd
  | streamEnd
  | blockSequenceStart
  | blockMappingStart
  | blockEnd
  | flowSequenceStart
  | flowSequenceEnd
  | flowMappingStart
  | flowMappingEnd
  | blockEntry
  | flowEntry
  | key
  | value
  | reference (name : Text)
  | anchor (name : Text)
  | tag (handle : Option Text) (suffix : Text)
  | scalar (text : Text) (plain : Bool)
deriving DecidableEq

namespace Token

open Reading

/-! ## Names, tags and directives -/

/-- A name of at least one character behind an indicator. -/
def readName (closes : CodePoint → Bool) : Reading Text := do
  let name ← takeWhile isNameChar
  if name.isEmpty then throw .malformed
  expect closes
  return name

/-- The name behind the indicator of an anchor or an alias. -/
def readAnchorName : Reading Text := do
  skip 1
  readName fun c => isBlankOrEnd c || ("?:,]\x7d%@`" : Text).contains c

/-- Whether a character may stand in a tag. -/
def isTagChar (c : CodePoint) : Bool :=
  c.isAlphanum || ("-;/?:@&=+$,_.!~*'()[]%" : Text).contains c

/-- The two hexadecimal digits of an escaped octet. -/
def readOctet : Reading UInt8 := do
  let digits := (← get).rest.take 2
  match digits.mapM fun c => (Text.asciiDigitValue? c).filter (· < 16) with
  | some [high, low] => skip 2; return UInt8.ofNat (16 * high + low)
  | _ => throw .malformed

/-- A run of escaped octets, which together encode text. -/
def readEscapedOctets : Nat → Reading (List UInt8)
  | 0 => return []
  | fuel + 1 => do
      if (← peek) == '%' then
        skip 1
        return (← readOctet) :: (← readEscapedOctets fuel)
      else return []

/-- The characters of a tag, with escapes read. -/
def readTagText : Nat → Reading Text
  | 0 => return []
  | fuel + 1 => do
      let c ← peek
      if c == '%' then
        let octets ← readEscapedOctets (fuel + 1)
        match Text.ofUtf8? octets with
        | none => throw .malformed
        | some t => return t ++ (← readTagText fuel)
      else if isTagChar c then
        skip 1
        return c :: (← readTagText fuel)
      else return []

/-- The text of a tag, which is not empty in the document. -/
def readTagUri : Reading Text := do
  let c ← get
  if !isTagChar c.peek then throw .malformed
  readTagText c.bound

/-- A handle: a single mark, or a name between two marks. -/
def readTagHandle : Reading Text := do
  expect (· == '!')
  skip 1
  if (← peek) == ' ' then return ['!']
  let name ← takeWhile isNameChar
  expect (· == '!')
  skip 1
  return "!" ++ name ++ "!"

/-- A tag: verbatim, the mark alone, or a handle with a suffix. -/
def readTag : Reading Token := do
  let c ← get
  let follows := c.peekAt 1
  let token ←
    if follows == '<' then do
      skip 2
      let uri ← readTagUri
      expect (· == '>')
      skip 1
      pure (Token.tag none uri)
    else if isBlankOrEnd follows then do
      skip 1
      pure (Token.tag none ['!'])
    else do
      let word := (c.rest.drop 1).takeWhile fun ch => !isSpaceOrEnd ch
      let handle ← if word.contains '!' then readTagHandle else do skip 1; pure ['!']
      pure (Token.tag (some handle) (← readTagUri))
  expect isSpaceOrEnd
  return token

/-- A number of a version. -/
def readVersionNumber : Reading Nat := do
  let digits ← takeWhile CodePoint.isDigit
  if digits.isEmpty then throw .malformed
  return digits.foldl (fun n c => 10 * n + (c.toNat - 48)) 0

/-- A directive, to the end of its line. -/
def readDirective : Reading Token := do
  skip 1
  let name ← readName isSpaceOrEnd
  let token ←
    if name == "YAML" then do
      let _ ← takeWhile (· == ' ')
      let major ← readVersionNumber
      expect (· == '.')
      skip 1
      let minor ← readVersionNumber
      expect isSpaceOrEnd
      pure (Token.versionDirective major minor)
    else if name == "TAG" then do
      let _ ← takeWhile (· == ' ')
      let handle ← readTagHandle
      expect (· == ' ')
      let _ ← takeWhile (· == ' ')
      let beginning ← readTagUri
      expect isSpaceOrEnd
      pure (Token.tagDirective handle beginning)
    else do
      let _ ← takeWhile fun c => !isBreak c
      pure Token.otherDirective
  restOfLine
  return token

/-! ## Block scalars -/

/-- What becomes of the line ends behind a block scalar. -/
inductive Chomping where
  | strip
  | clip
  | keep
deriving DecidableEq

/-- The indicator for the line ends behind a block scalar, if one follows. -/
def readChomping : Reading (Option Chomping) := do
  match ← peek with
  | '+' => skip 1; return some .keep
  | '-' => skip 1; return some .strip
  | _ => return none

/-- The indicator for the depth of a block scalar, if one follows; it is not zero. -/
def readDepth : Reading (Option Nat) := do
  let c ← peek
  if c.isDigit then
    if c == '0' then throw .malformed
    skip 1
    return some (c.toNat - 48)
  else return none

/-- The indicators behind the sign of a block scalar, in either order. -/
def readIndicators : Reading (Chomping × Option Nat) := do
  match ← readChomping with
  | some chomping =>
      let depth ← readDepth
      expect isSpaceOrEnd
      return (chomping, depth)
  | none =>
      match ← readDepth with
      | some depth =>
          let chomping := (← readChomping).getD .clip
          expect isSpaceOrEnd
          return (chomping, some depth)
      | none =>
          expect isSpaceOrEnd
          return (.clip, none)

/-- Leading lines that hold nothing but spaces: their ends, and the deepest column reached. -/
def readLeadingBreaks : Nat → Nat → Reading (Text × Nat)
  | 0, deepest => return ([], deepest)
  | fuel + 1, deepest => do
      let c ← peek
      if c == ' ' then
        skip 1
        readLeadingBreaks fuel (max deepest (← get).column)
      else if isBreak c then
        let ending ← lineBreak
        let (more, depth) ← readLeadingBreaks fuel deepest
        return (ending ++ more, depth)
      else return ([], deepest)

/-- Takes spaces up to a column. -/
def skipIndentation (depth : Nat) : Reading Unit := do
  let c ← get
  skip ((c.rest.takeWhile fun (ch : CodePoint) => ch == ' ').take (depth - c.column)).length

/-- The ends of the empty lines in front of the next line of a block scalar. -/
def readBreaks (depth : Nat) : Nat → Reading Text
  | 0 => return []
  | fuel + 1 => do
      skipIndentation depth
      if isBreak (← peek) then
        let ending ← lineBreak
        return ending ++ (← readBreaks depth fuel)
      else return []

/-- Whether a line of a block scalar starts at the cursor. -/
def atContent (depth : Nat) (c : Cursor) : Bool :=
  c.column == depth && c.peek != endMark

/-- The lines of a block scalar: their text, the end of the last one, and the empty lines behind. -/
def readBlockLines (folded : Bool) (depth : Nat) : Nat → Text → Reading (Text × Text × Text)
  | 0, breaks => return ([], [], breaks)
  | fuel + 1, breaks => do
      if !atContent depth (← get) then return ([], [], breaks)
      let first ← peek
      let flush := first != ' ' && first != '\t'
      let line ← takeWhile fun c => !isBreak c
      let ending ← lineBreak
      let more ← readBreaks depth (fuel + 1)
      let c ← get
      if atContent depth c then
        let joint : Text :=
          if folded && ending == "\n" && flush && c.peek != ' ' && c.peek != '\t' then
            (if more.isEmpty then [' '] else [])
          else ending
        let (text, last, tail) ← readBlockLines folded depth fuel more
        return (breaks ++ line ++ joint ++ text, last, tail)
      else return (breaks ++ line, ending, more)

/-- A block scalar, literal or folded, in a collection of the given depth. -/
def readBlockScalar (folded : Bool) (indent : Int) : Reading Token := do
  skip 1
  let (chomping, increment) ← readIndicators
  restOfLine
  let least := (max (indent + 1) 1).toNat
  let fuel := (← get).bound
  let (breaks, depth) ←
    match increment with
    | none => do
        let (breaks, deepest) ← readLeadingBreaks fuel 0
        pure (breaks, max least deepest)
    | some n => do
        let depth := least + n - 1
        let breaks ← readBreaks depth fuel
        pure (breaks, depth)
  let (text, last, tail) ← readBlockLines folded depth fuel breaks
  return .scalar
    (text ++ (if chomping == .strip then [] else last) ++ (if chomping == .keep then tail else []))
    false

/-! ## Quoted scalars -/

/-- The character of an escape of one letter. -/
def simpleEscape? (c : CodePoint) : Option CodePoint :=
  match c with
  | '0' => some (CodePoint.ofNat 0)
  | 'a' => some (CodePoint.ofNat 7)
  | 'b' => some (CodePoint.ofNat 8)
  | 't' => some '\t'
  | '\t' => some '\t'
  | 'n' => some '\n'
  | 'v' => some (CodePoint.ofNat 11)
  | 'f' => some (CodePoint.ofNat 12)
  | 'r' => some '\r'
  | 'e' => some (CodePoint.ofNat 27)
  | ' ' => some ' '
  | '"' => some '"'
  | '\\' => some '\\'
  | '/' => some '/'
  | 'N' => some (CodePoint.ofNat 0x85)
  | '_' => some (CodePoint.ofNat 0xa0)
  | 'L' => some (CodePoint.ofNat 0x2028)
  | 'P' => some (CodePoint.ofNat 0x2029)
  | _ => none

/-- The number of digits of an escape by number. -/
def escapeWidth? (c : CodePoint) : Option Nat :=
  match c with
  | 'x' => some 2
  | 'u' => some 4
  | 'U' => some 8
  | _ => none

/-- The code point whose number the given count of hexadecimal digits spells, taken from the cursor.
Half of a surrogate pair stays a half, whatever follows. -/
def readNumberEscape (width : Nat) : Reading CodePoint := do
  let digits := (← get).rest.take width
  match digits.mapM fun c => (Text.asciiDigitValue? c).filter (· < 16) with
  | none => throw .malformed
  | some values =>
      if values.length < width then throw .malformed
      let n := values.foldl (fun n d => 16 * n + d) 0
      if 0x7fffffff < n then throw .oversizedCharacter
      if 0x10ffff < n then throw .badValue
      skip width
      return CodePoint.ofNat n

/-- The ends of the empty lines inside a quoted scalar; a document marker may not follow. -/
def readQuotedBreaks : Nat → Reading Text
  | 0 => return []
  | fuel + 1 => do
      if (← get).atSeparator then throw .malformed
      let _ ← takeWhile fun c => c == ' ' || c == '\t'
      if isBreak (← peek) then
        let ending ← lineBreak
        return ending ++ (← readQuotedBreaks fuel)
      else return []

/-- Blank characters inside a quoted scalar. A line end is folded into a space, and empty lines into
their ends. -/
def readQuotedSpaces : Reading Text := do
  let spaces ← takeWhile fun c => c == ' ' || c == '\t'
  let c ← peek
  if c == endMark then throw .malformed
  else if isBreak c then
    let ending ← lineBreak
    let breaks ← readQuotedBreaks (← get).bound
    return (if ending != "\n" then ending else if breaks.isEmpty then [' '] else []) ++ breaks
  else return spaces

/-- The escape behind a backslash. -/
def readEscape : Reading Text := do
  let c ← peek
  match simpleEscape? c, escapeWidth? c with
  | some e, _ => skip 1; return [e]
  | none, some width =>
      skip 1
      return [← readNumberEscape width]
  | none, none =>
      if isBreak c then
        let _ ← lineBreak
        readQuotedBreaks (← get).bound
      else throw .malformed

/-- The rest of a quoted scalar, through its closing quote. -/
def readQuotedRest (double : Bool) : Nat → Reading Text
  | 0 => throw .malformed
  | fuel + 1 => do
      let c ← get
      let ch := c.peek
      if double then
        if ch == '"' then skip 1; return []
        else if ch == '\\' then
          skip 1
          let part ← readEscape
          return part ++ (← readQuotedRest double fuel)
        else if isBlankOrEnd ch then
          let part ← readQuotedSpaces
          return part ++ (← readQuotedRest double fuel)
        else skip 1; return ch :: (← readQuotedRest double fuel)
      else
        if ch == '\'' then
          if c.peekAt 1 == '\'' then skip 2; return '\'' :: (← readQuotedRest double fuel)
          else skip 1; return []
        else if isBlankOrEnd ch then
          let part ← readQuotedSpaces
          return part ++ (← readQuotedRest double fuel)
        else skip 1; return ch :: (← readQuotedRest double fuel)

/-- A scalar in single or double quotes. -/
def readQuoted (double : Bool) : Reading Token := do
  skip 1
  return .scalar (← readQuotedRest double (← get).bound) false

/-! ## Plain scalars -/

/-- Whether a plain scalar ends at a character inside or outside of flow collections, given the
character behind it. -/
def endsPlain (flow : Bool) (c behind : CodePoint) : Bool :=
  isBlankOrEnd c ||
    (c == ':' && (isBlankOrEnd behind || (flow && (",[]\x7b\x7d" : Text).contains behind))) ||
    (flow && (",?[]\x7b\x7d" : Text).contains c)

/-- A run of characters of a plain scalar. -/
def plainRun (flow : Bool) : Text → Text
  | [] => []
  | c :: rest => if endsPlain flow c (rest.headD endMark) then [] else c :: plainRun flow rest

/-- The line ends behind the first one inside a plain scalar, or none if a document marker follows. -/
def readPlainBreaks : Nat → Reading (Option Text)
  | 0 => return some []
  | fuel + 1 => do
      let c ← peek
      if c == ' ' then
        skip 1
        readPlainBreaks fuel
      else if isBreak c then
        let ending ← lineBreak
        if (← get).atSeparator then return none
        match ← readPlainBreaks fuel with
        | none => return none
        | some more => return some (ending ++ more)
      else return some []

/-- Spaces and line ends behind a run of a plain scalar, folded, and whether a line end was among
them. Nothing is left of them in front of a document marker. -/
def readPlainSpaces : Reading (Text × Bool) := do
  let spaces ← takeWhile (· == ' ')
  if isBreak (← peek) then
    let ending ← lineBreak
    if (← get).atSeparator then return ([], true)
    match ← readPlainBreaks (← get).bound with
    | none => return ([], true)
    | some breaks =>
        let folded : Text :=
          (if ending != "\n" then ending else if breaks.isEmpty then [' '] else []) ++ breaks
        return (folded, true)
  else return (spaces, false)

/-- The runs of a plain scalar, and whether the last thing read was the end of a line. -/
def readPlainRuns (flow : Bool) (indent : Int) : Nat → Text → Bool → Reading (Text × Bool)
  | 0, _, newLine => return ([], newLine)
  | fuel + 1, spaces, newLine => do
      let c ← get
      let run := plainRun flow c.rest
      if c.peek == '#' || run.isEmpty then return ([], newLine)
      skip run.length
      let (behind, brk) ← readPlainSpaces
      let c ← get
      if behind.isEmpty || c.peek == '#' || (!flow && (c.column : Int) < indent + 1) then
        return (spaces ++ run, brk)
      else
        let (more, last) ← readPlainRuns flow indent fuel behind brk
        return (spaces ++ run ++ more, last)

/-- A plain scalar, and whether it ends at the start of a line, where a key may begin. -/
def readPlain (flow : Bool) (indent : Int) : Reading (Token × Bool) := do
  let (text, newLine) ← readPlainRuns flow indent (← get).bound [] false
  return (.scalar text true, newLine)

end Token

end ComponentDocs.Yaml
