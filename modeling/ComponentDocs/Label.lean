import ComponentDocs.OrderedMap
import ComponentDocs.Text.Blank
import ComponentDocs.Text.Lines
import ComponentDocs.Text.Word

/-!
# Labels

The header of a fenced block may name the example that the block belongs to:

    name.extension,variant option option=value

`Label.parse?` reads such a header and `Label.print` writes one. A flag named `hidden`
takes the block out of the description, and an option named `height` gives the example its height.
-/

set_option autoImplicit false

namespace ComponentDocs

/-- The options of a label in the order of first mention; a bare option has no value. -/
abbrev Options := OrderedMap Text (Option Text)

namespace Options

/-- One option of a header: the text before the first equals sign, and the text behind it, if any. -/
def parseToken (token : Text) : Text × Option Text :=
  token.cutAt '='

/-- The options among the words of a text; a repeated option keeps its place and takes the last
value. -/
def parse (t : Text) : Options :=
  OrderedMap.ofList (t.words.map parseToken)

/-- One option as it is written in a header. -/
def printToken : Text × Option Text → Text
  | (key, none) => key
  | (key, some value) => key ++ (('=' :: value) : Text)

end Options

/-- A named block: the example it belongs to, its extension, and what else its header says. -/
structure Label where
  name : Text
  extension : Text
  variant : Option Text
  options : Options
deriving DecidableEq

namespace Label

/-- The name of the option that takes a block out of the description. -/
def hiddenKey : Text := "hidden"

/-- The name of the option that gives an example its height. -/
def heightKey : Text := "height"

/-- Whether the block is taken out of the description. -/
def hidden (a : Label) : Bool :=
  a.options.contains hiddenKey

/-- The height that the block declares; an empty one counts as none. -/
def height (a : Label) : Option Text :=
  match a.options.get? heightKey with
  | some (some h) => if h.isEmpty then none else some h
  | _ => none

/-- Whether a character may stand in the name of an example. -/
def isNameChar (c : CodePoint) : Bool :=
  c != '.' && !Text.isBlank c

/-- The variant behind an extension, and the rest of the header. A comma that nothing follows belongs
to the rest. -/
def cutVariant : Text → Option Text × Text
  | ',' :: rest =>
      let variant := rest.takeWhile fun c => !Text.isBlank c
      if variant.isEmpty then (none, ',' :: rest)
      else (some variant, rest.dropWhile fun c => !Text.isBlank c)
  | rest => (none, rest)

/-- The label behind a name, that is from the dot on. -/
def parseTail? (name : Text) : Text → Option Label
  | '.' :: rest =>
      let extension := rest.takeWhile Text.isWord
      let (variant, options) := cutVariant (rest.dropWhile Text.isWord)
      if extension.isEmpty || options.contains '\n' then none
      else some ⟨name, extension, variant, Options.parse options⟩
  | _ => none

/-- The label in the header of a fenced block, or none for an unnamed block. -/
def parse? (header : Text) : Option Label :=
  let body := (header.trimRight Text.isReturnOrFeed).trimLeft Text.isBlank
  let name := body.takeWhile isNameChar
  if name.isEmpty then none else parseTail? name (body.dropWhile isNameChar)

/-- A label as the header of a fenced block. -/
def print (a : Label) : Text :=
  a.name ++ (('.' :: a.extension) : Text) ++
    (match a.variant with
      | none => []
      | some variant => ',' :: variant : Text) ++
    a.options.entries.flatMap fun o => ((' ' :: Options.printToken o) : Text)

end Label

/-- Whether one of the words of a header is the flag that takes the block out of the description. -/
def hasHiddenToken (header : Text) : Bool :=
  header.words.any fun token => (token.cutAt '=').1 == Label.hiddenKey

end ComponentDocs
