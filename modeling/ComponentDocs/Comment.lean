import ComponentDocs.Text.Blank

/-!
# Comments

A comment opens with a slash and an asterisk and closes with the next asterisk and slash behind
them; comments do not nest, and one that is never closed is none. The blocks of a source text are
the insides of its comments without blank characters and asterisks at either end.
-/

set_option autoImplicit false

namespace ComponentDocs.Comment

/-- Where a reader of characters stands: between comments, or inside one whose text so far is given
last character first. -/
inductive Place where
  | outside
  | inside (passed : Text)

/-- The insides of the comments of the remaining text, in order. -/
def insidesFrom : Place → Text → List Text
  | .outside, '/' :: '*' :: rest => insidesFrom (.inside []) rest
  | .outside, _ :: rest => insidesFrom .outside rest
  | .inside passed, '*' :: '/' :: rest => passed.reverse :: insidesFrom .outside rest
  | .inside passed, c :: rest => insidesFrom (.inside (c :: passed)) rest
  | _, [] => []

/-- The insides of the comments of a text, in order. -/
def insides (t : Text) : List Text :=
  insidesFrom .outside t

/-- Whether a character is dropped at the edges of a comment. -/
def isEdge (c : CodePoint) : Bool :=
  Text.isBlank c || c == '*'

/-- The documentation blocks in the comments of a text. -/
def blocks (t : Text) : List Text :=
  (insides t).map (Text.trim isEdge)

end ComponentDocs.Comment
