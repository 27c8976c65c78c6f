import ComponentDocs.Label

/-!
# Fenced blocks

A text is cut into plain text and fenced blocks. A fence opens on a line that starts with three
backticks and closes on the next line that holds three backticks and nothing else but blank
characters behind them; a fence that is never closed stays plain text.

`split` makes the cut and `render` puts the segments together again.
-/

set_option autoImplicit false

namespace ComponentDocs

/-- Three backticks. -/
def fenceMark : Text := "```"

/-- A fenced block from its opening backticks through its closing backticks: the text behind the
opening ones, the terminator of that line, the lines between, the closing line, and the label that the
block was given. A block that is cut out of a text has the label in its header. -/
structure Fence where
  header : Text
  newline : Text
  body : Text
  closing : Text
  label : Option Label
deriving DecidableEq

namespace Fence

/-- Whether the header carries the flag that takes the block out of the description. -/
def hidden (f : Fence) : Bool :=
  hasHiddenToken f.header

/-- The block as text. -/
def render (f : Fence) : Text :=
  fenceMark ++ f.header ++ f.newline ++ f.body ++ f.closing

/-- The block with another header, and the label that it has. -/
def withHeader (f : Fence) (header : Text) : Fence :=
  { f with header := header }

/-- Whether a line opens a fence. -/
def opens (line : Text) : Bool :=
  fenceMark.isPrefixOf line

/-- Whether a line closes a fence. -/
def closes (line : Text) : Bool :=
  line.trimRight Text.isBlank == fenceMark

/-- The block of an opening line, the text of the lines between, and a closing line. -/
def ofLines (opening body closing : Text) : Fence :=
  let first : Text := opening.drop fenceMark.length
  let header := first.trimRight Text.isReturnOrFeed
  { header := header
    newline := first.trailing Text.isReturnOrFeed
    body := body
    closing := closing.trimRight Text.isReturnOrFeed
    label := Label.parse? header }

end Fence

/-- A stretch of a text: plain text or a fenced block. -/
inductive Segment where
  | text (t : Text)
  | fence (f : Fence)
deriving DecidableEq

namespace Segment

/-- The segment as text. -/
def render : Segment → Text
  | text t => t
  | fence f => f.render

/-- The label of the segment, if it is a labelled fence. -/
def label : Segment → Option Label
  | text _ => none
  | fence f => f.label

/-- The segments of a stretch of plain text: none when it is empty. -/
def plain (t : Text) : List Segment :=
  if t.isEmpty then [] else [text t]

/-- Where a reader of lines stands: behind plain text that is not yet a segment, or inside a fence
whose opening line is known. The lines passed since then are given last line first. -/
inductive Place where
  | outside (passed : List Text)
  | inside (opening : Text) (passed : List Text)

/-- The text of lines that are given last line first. -/
def passedText (passed : List Text) : Text :=
  passed.reverse.flatten

/-- The segments of the remaining lines. A line opens a fence only if a later line closes it; the
terminator of the closing line begins the plain text behind the fence. -/
def ofLines : Place → List Text → List Segment
  | .outside passed, [] => plain (passedText passed)
  | .inside opening passed, [] => plain (opening ++ passedText passed)
  | .outside passed, line :: rest =>
      if Fence.opens line && rest.any Fence.closes then
        plain (passedText passed) ++ ofLines (.inside line []) rest
      else ofLines (.outside (line :: passed)) rest
  | .inside opening passed, line :: rest =>
      if Fence.closes line then
        fence (Fence.ofLines opening (passedText passed) line) ::
          ofLines (.outside [line.trailing Text.isReturnOrFeed]) rest
      else ofLines (.inside opening (line :: passed)) rest

/-- The segments of a text, in order. -/
def split (t : Text) : List Segment :=
  ofLines (.outside []) t.lines

end Segment

/-- The text that a list of segments makes up. -/
def renderSegments (segments : List Segment) : Text :=
  segments.flatMap Segment.render

end ComponentDocs
