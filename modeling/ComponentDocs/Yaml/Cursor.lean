import ComponentDocs.Text.Basic
import ComponentDocs.Yaml.Error

/-!
# A cursor on a document

The characters that a document may hold, the characters that end its lines, and a cursor: the text
still to be read together with the place it starts at. Reading behind the end gives the character
with number zero, which no document holds.
-/

set_option autoImplicit false

namespace ComponentDocs.Yaml

/-! ## Characters -/

/-- The character that stands for the end of the document. -/
def endMark : CodePoint := CodePoint.ofNat 0

/-- Whether a document may hold a character. -/
def isAdmissible (c : CodePoint) : Bool :=
  let n := c.toNat
  n == 9 || n == 10 || n == 13 || (0x20 ≤ n && n ≤ 0x7e) || n == 0x85 ||
    (0xa0 ≤ n && n ≤ 0xd7ff) || (0xe000 ≤ n && n ≤ 0xfffd) || 0x10000 ≤ n

/-- Whether a character ends a line. -/
def isBreak (c : CodePoint) : Bool :=
  let n := c.toNat
  n == 10 || n == 13 || n == 0x85 || n == 0x2028 || n == 0x2029

/-- Whether a character ends a line or the document. -/
def isBreakOrEnd (c : CodePoint) : Bool :=
  isBreak c || c == endMark

/-- Whether a character is a space or ends a line or the document. -/
def isSpaceOrEnd (c : CodePoint) : Bool :=
  c == ' ' || isBreakOrEnd c

/-- Whether a character is a space or a tabulator or ends a line or the document. -/
def isBlankOrEnd (c : CodePoint) : Bool :=
  c == '\t' || isSpaceOrEnd c

/-- Whether a character may stand in the name of an anchor, a directive or a tag handle. -/
def isNameChar (c : CodePoint) : Bool :=
  c.isAlphanum || c == '-' || c == '_'

/-- The byte order mark, which takes no room on a line. -/
def byteOrderMark : CodePoint := CodePoint.ofNat 0xfeff

/-! ## The cursor -/

/-- The rest of a document and the place it starts at. -/
structure Cursor where
  rest : Text
  /-- More than the number of characters of the document, and so a bound on the steps of reading it. -/
  bound : Nat
  index : Nat := 0
  line : Nat := 0
  column : Nat := 0

namespace Cursor

/-- The cursor at the start of a document. -/
def ofText (t : Text) : Cursor :=
  { rest := t, bound := t.length + 2 }

/-- The next character. -/
def peek (c : Cursor) : CodePoint :=
  c.rest.headD endMark

/-- The character at a distance from the next one. -/
def peekAt (c : Cursor) (distance : Nat) : CodePoint :=
  c.rest.getD distance endMark

/-- The cursor behind the next character. -/
def next (c : Cursor) : Cursor :=
  match c.rest with
  | [] => c
  | ch :: rest =>
      if isBreak ch && !(ch == '\r' && rest.head? == some '\n') then
        ⟨rest, c.bound, c.index + 1, c.line + 1, 0⟩
      else if ch == byteOrderMark then ⟨rest, c.bound, c.index + 1, c.line, c.column⟩
      else ⟨rest, c.bound, c.index + 1, c.line, c.column + 1⟩

/-- The cursor behind the given number of characters. -/
def skip (c : Cursor) : Nat → Cursor
  | 0 => c
  | n + 1 => c.next.skip n

/-- Whether three given characters and a blank character or an end follow. -/
def atMarker (c : Cursor) (mark : Text) : Bool :=
  mark.isPrefixOf c.rest && isBlankOrEnd (c.peekAt mark.length)

/-- Whether the marker between two documents, or the one behind a document, follows. -/
def atSeparator (c : Cursor) : Bool :=
  c.atMarker "---" || c.atMarker "..."

end Cursor

/-! ## Reading -/

/-- A step that reads from a cursor and may fail. -/
abbrev Reading := StateT Cursor (Except Error)

namespace Reading

/-- The next character, not taken. -/
def peek : Reading CodePoint := do return (← get).peek

/-- Takes the given number of characters. -/
def skip (n : Nat) : Reading Unit := modify fun c => c.skip n

/-- Takes the longest run of characters in the class. -/
def takeWhile (p : CodePoint → Bool) : Reading Text := do
  let run := (← get).rest.takeWhile p
  skip run.length
  return run

/-- Takes a line end, if one follows: a line feed for the usual ones, and the line and paragraph
separators as they are. -/
def lineBreak : Reading Text := do
  let c ← get
  match c.rest with
  | '\r' :: '\n' :: _ => skip 2; return ['\n']
  | ch :: _ =>
      if ch == '\r' || ch == '\n' || ch.toNat == 0x85 then skip 1; return ['\n']
      else if isBreak ch then skip 1; return [ch]
      else return []
  | [] => return []

/-- Fails unless the next character is in the class. -/
def expect (p : CodePoint → Bool) : Reading Unit := do
  if p (← peek) then return () else throw .malformed

/-- Takes spaces, a comment, and requires the end of the line, which it takes too. -/
def restOfLine : Reading Unit := do
  let _ ← takeWhile (· == ' ')
  if (← peek) == '#' then
    let _ ← takeWhile fun c => !isBreak c
  expect isBreakOrEnd
  let _ ← lineBreak

end Reading

end ComponentDocs.Yaml
