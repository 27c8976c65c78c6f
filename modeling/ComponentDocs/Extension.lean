import ComponentDocs.Comment
import ComponentDocs.Text.Lowercase

/-!
# File extensions and documentation blocks

The extension of a text decides how its documentation is found: a text of a markdown extension is
one block, and any other text has one block for each of its comments.
-/

set_option autoImplicit false

namespace ComponentDocs

namespace Extension

/-- An extension in lower case, without blank characters around it and without leading dots. -/
def normalise (extension : Text) : Text :=
  (extension.strip.trimLeft (· == '.')).lowercase

/-- An extension that may be missing; a missing one is empty. -/
def normaliseOptional (extension : Option Text) : Text :=
  normalise (extension.getD [])

/-- The extensions that are markdown unless the settings say otherwise. -/
def defaultMarkdown : List Text :=
  ["markdown", "mdown", "md"]

/-- The extensions whose blocks can be rendered unless the settings say otherwise. -/
def defaultRenderable : List Text :=
  ["html", "jsx", "handlebars", "hbs"]

/-- Whether an extension belongs to the markdown family. -/
def isMarkdown (markdown : List Text) (extension : Option Text) : Bool :=
  markdown.contains (normaliseOptional extension)

end Extension

/-- The documentation blocks of a text with the given extension. -/
def documentationBlocks (markdown : List Text) (extension : Option Text) (t : Text) : List Text :=
  if Extension.isMarkdown markdown extension then [t] else Comment.blocks t

end ComponentDocs
