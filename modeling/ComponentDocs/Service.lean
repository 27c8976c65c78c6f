import ComponentDocs.Export
import ComponentDocs.Extraction

/-!
# The service

The service has two handlers: one tells that it is alive, and one extracts the components of a text.
Which requests get to a handler, and what components are sent as, is up to the web framework around
them. A `Framework` is what the service takes from it.
-/

set_option autoImplicit false

namespace ComponentDocs.Service

/-- A request: a method, a path, and the octets of a body. -/
structure Request where
  method : Text
  path : Text
  body : List UInt8 := []

/-- What is wrong with the body of a request. -/
inductive Problem where
  | noBody
  /-- The body is no JSON text; the offset tells where this shows. -/
  | notJson (offset : Nat)
  | notAnObject
  | noContent
  | contentNotText
  | extensionNotText
deriving DecidableEq

/-- A step on the way to the place of a problem. -/
inductive Place where
  | member (name : Text)
  | offset (n : Nat)
deriving DecidableEq

namespace Problem

/-- The name of the kind of a problem. -/
def kind : Problem → Text
  | noBody | noContent => "missing"
  | notJson _ => "json_invalid"
  | notAnObject => "model_attributes_type"
  | contentNotText | extensionNotText => "string_type"

/-- The way to the place of a problem. -/
def place (p : Problem) : List Place :=
  .member "body" ::
    match p with
    | noBody | notAnObject => []
    | notJson n => [.offset n]
    | noContent | contentNotText => [.member "content"]
    | extensionNotText => [.member "extension"]

end Problem

/-- An answer. -/
inductive Response where
  | success (body : Json)
  | failure (status : Nat) (detail : Text)
  | invalid (problems : List Problem)

/-- The status of an answer. -/
def Response.status : Response → Nat
  | success _ => 200
  | failure status _ => status
  | invalid _ => 422

/-- A fault that leaves a request without an answer. -/
inductive Fault where
  | header (cause : Yaml.Error)
  | export (cause : Export.Error)
  /-- A number that is not finite would have to be sent back. -/
  | notFinite
  /-- Half of a surrogate pair would have to be sent back. -/
  | notEncodable

/-! ## Handlers -/

/-- What a request for extraction asks for. -/
structure Extract where
  content : Text
  extension : Option Text

/-- What becomes of a request in front of the handlers. -/
inductive Route where
  /-- It gets its answer without a handler, or none at all. -/
  | settled (outcome : Except Fault Response)
  | health
  | parse (e : Extract)

/-- What takes requests to the handlers and sends what they return. -/
structure Framework where
  route : Request → Route
  send : List Component → Except Fault Response

/-- The answer that tells that the service is alive. -/
def alive : Response :=
  .success (.object [("status", .string "ok")])

/-- The answer to a request for extraction. -/
def answerExtract (rt : Runtime) (framework : Framework) (options : ExtractionOptions) (e : Extract) :
    Except Fault Response :=
  match Extraction.extract rt options e.extension e.content with
  | .error .malformed => .ok (.failure 422 (FrontMatter.errorMessage .malformed))
  | .error cause => .error (.header cause)
  | .ok components => framework.send components

/-- The answer to a request. -/
def answer (rt : Runtime) (framework : Framework) (options : ExtractionOptions) (r : Request) :
    Except Fault Response :=
  match framework.route r with
  | .settled outcome => outcome
  | .health => .ok alive
  | .parse e => answerExtract rt framework options e

/-- What answering a request reports. -/
def report (rt : Runtime) (framework : Framework) (options : ExtractionOptions) (r : Request) :
    List Log.Record :=
  match framework.route r with
  | .parse e => Extraction.extractReport rt options e.extension e.content
  | _ => []

end ComponentDocs.Service
