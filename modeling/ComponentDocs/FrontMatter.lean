import ComponentDocs.OrderedMap
import ComponentDocs.Runtime
import ComponentDocs.Text.Blank
import ComponentDocs.Value.Display

/-!
# Front matter

A block may begin with a header between two lines of three hyphens. `FrontMatter.cut?` finds the
header, and `FrontMatter.parse` reads its fields. Keys are told apart by their text, so keys of
different types can fall together; such a field keeps its first place and takes its last value.
-/

set_option autoImplicit false

namespace ComponentDocs

/-- The fields of a header and the text that follows it. -/
structure FrontMatter where
  fields : OrderedMap Text Field := .empty
  content : Text := []

namespace FrontMatter

/-- Three hyphens. -/
def delimiter : Text := "---"

/-- The text behind three hyphens and further spaces and tabulators. -/
def afterDelimiter? (t : Text) : Option Text :=
  (Text.after? delimiter t).map fun rest => rest.dropWhile fun c => c == ' ' || c == '\t'

/-- The text behind the line that opens a header. -/
def opening? (t : Text) : Option Text :=
  match afterDelimiter? t with
  | some ('\n' :: rest) => some rest
  | some ('\r' :: '\n' :: rest) => some rest
  | _ => none

/-- The text behind the line that closes a header, which may be the last line of the text. -/
def closing? (t : Text) : Option Text :=
  match afterDelimiter? t with
  | some [] => some []
  | some ('\n' :: rest) => some rest
  | some ('\r' :: '\n' :: rest) => some rest
  | _ => none

/-- The text up to the first closing line and the text behind that line; the flag says whether the
text starts at the start of a line. -/
def cutAtClosing? : Bool → Text → Option (Text × Text)
  | _, [] => none
  | lineStart, c :: rest =>
      match if lineStart then closing? (c :: rest) else none with
      | some content => some ([], content)
      | none => (cutAtClosing? (c == '\n') rest).map fun p => (c :: p.1, p.2)

/-- The header of a text and the text behind it, if the text begins with one. -/
def cut? (t : Text) : Option (Text × Text) :=
  (opening? t).bind (cutAtClosing? true)

/-- The fields of the entries of a header, by the text of their keys. -/
def fieldsOf (entries : List (Value × Field)) : OrderedMap Text Field :=
  OrderedMap.ofList (entries.map fun e => (e.1.display, e.2))

/-- The document in a header; a blank header has none. -/
def loadHeader (rt : Runtime) (header : Text) : Except Yaml.Error (Option Yaml.Document) :=
  if header.isBlankText then .ok none else rt.load header

/-- The error of a value that cannot be written. -/
def errorOf : Value.Fault → Yaml.Error
  | .tooManyDigits => .tooManyDigits
  | .tooDeep => .tooDeep

/-- What keeps keys from being written, the first fault first. -/
def keyFault? (rt : Runtime) (keys : List Value) : Option Value.Fault :=
  keys.findSome? fun k => k.displayFault? rt.reach

/-- The front matter that the document of a header and the text behind it make up. A document that is
no mapping has no fields. -/
def ofDocument (rt : Runtime) (content : Text) (document : Option Yaml.Document) :
    Except Yaml.Error FrontMatter :=
  match document.bind Yaml.Document.entries? with
  | none => return { content }
  | some entries =>
      match keyFault? rt (entries.map Prod.fst) with
      | none => return { fields := fieldsOf entries, content }
      | some fault => throw (errorOf fault)

/-- The front matter of a text. Without a header it has no fields. -/
def parse (rt : Runtime) (t : Text) : Except Yaml.Error FrontMatter :=
  match cut? t with
  | none => .ok { content := t }
  | some (header, content) => do ofDocument rt content (← loadHeader rt header)

/-- Whether a header holds something that is neither a mapping nor nothing at all. -/
def ignoresHeader (rt : Runtime) (t : Text) : Bool :=
  match cut? t with
  | none => false
  | some (header, _) =>
      match loadHeader rt header with
      | .ok (some document) =>
          document.entries?.isNone && (match document.value with | .null => false | _ => true)
      | _ => false

/-- What is told about a header that cannot be read. -/
def errorMessage (e : Yaml.Error) : Text :=
  "Invalid front matter: " ++ e.message

/-- The content of a field. -/
def get? (f : FrontMatter) (key : Text) : Option Value :=
  (f.fields.get? key).map Field.value

end FrontMatter

end ComponentDocs
