import ComponentDocs.Component
import ComponentDocs.Text.Entity
import ComponentDocs.Value.Display

/-!
# Descriptions

The description of a component is its text made ready for rendering, in three passes over its
segments: a placeholder is put before the first renderable block of each example, hidden blocks are
dropped together with one line feed before them, and the headers of labelled blocks are reduced to
their extension.
-/

set_option autoImplicit false

namespace ComponentDocs.Description

/-- The placeholder of an example, with the height if it has one that is not empty. -/
def placeholderTag (e : Example) : Text :=
  let opening : Text := "<example name=\"" ++ e.name.escape ++ "\""
  let height : Text :=
    match e.height with
    | none => []
    | some h => if h.isTruthy then " height=\"" ++ h.display.escape ++ "\"" else []
  opening ++ height ++ "></example>\n"

/-- The example whose placeholder belongs before a labelled block: the one that it names, if that is
registered, has no placeholder yet, and the extension of the block can be rendered. -/
def placeholderFor? (examples : OrderedMap Text Example) (renderable tagged : List Text)
    (a : Label) : Option Example :=
  if tagged.contains a.name || !renderable.contains a.extension then none
  else examples.get? a.name

/-- The segments with placeholders, given the names that have one already. -/
def insertPlaceholdersFrom (examples : OrderedMap Text Example) (renderable : List Text) :
    List Text → List Segment → List Segment
  | _, [] => []
  | tagged, s :: rest =>
      match s.label with
      | none => s :: insertPlaceholdersFrom examples renderable tagged rest
      | some a =>
          match placeholderFor? examples renderable tagged a with
          | none => s :: insertPlaceholdersFrom examples renderable tagged rest
          | some e =>
              .text (placeholderTag e) :: s ::
                insertPlaceholdersFrom examples renderable (a.name :: tagged) rest

/-- The segments with a placeholder before the first renderable block of each registered example. -/
def insertPlaceholders (examples : OrderedMap Text Example) (renderable : List Text)
    (segments : List Segment) : List Segment :=
  insertPlaceholdersFrom examples renderable [] segments

/-- Segments, last first, without the line feed that ends them, if they end in plain text that ends
in one. Plain text that becomes empty is dropped. -/
def dropFinalFeed : List Segment → List Segment
  | .text t :: before =>
      if t.getLast? = some '\n' then
        (if t.dropLast.isEmpty then before else .text t.dropLast :: before)
      else .text t :: before
  | segments => segments

/-- The segments kept so far, last first, with one more; a hidden block takes a line feed with it. -/
def keepVisible (kept : List Segment) : Segment → List Segment
  | .text t => .text t :: kept
  | .fence f => if f.hidden then dropFinalFeed kept else .fence f :: kept

/-- The segments without hidden blocks, each dropped together with one line feed before it. -/
def removeHidden (segments : List Segment) : List Segment :=
  (segments.foldl keepVisible []).reverse

/-- A labelled block as plain text under its bare extension, and any other segment unchanged. -/
def stripLabel : Segment → Segment
  | .text t => .text t
  | .fence f =>
      match f.label with
      | none => .fence f
      | some a => .text (f.withHeader a.extension).render

/-- The segments with the headers of labelled blocks reduced to their extension. -/
def stripLabels (segments : List Segment) : List Segment :=
  segments.map stripLabel

/-- A text made ready for rendering with the given examples. -/
def ofContent (examples : OrderedMap Text Example) (renderable : List Text) (content : Text) : Text :=
  renderSegments
    (stripLabels (removeHidden (insertPlaceholders examples renderable (Segment.split content))))

end ComponentDocs.Description
