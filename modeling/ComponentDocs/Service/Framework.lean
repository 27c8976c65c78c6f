import ComponentDocs.Json.Octets
import ComponentDocs.Service

/-!
# The web framework of the service

A request for extraction carries a JSON object. One that does not have the expected form is answered
with the list of its problems, each with the part of the body that it is about; a part that cannot be
sent back leaves the request without an answer. A path with slashes at its end is another one to the
framework, but the client is sent to the path without them and follows. The pages on which the framework
describes the service are left out.
-/

set_option autoImplicit false

namespace ComponentDocs.Service

/-! ## Bodies -/

/-- The content of a body, or its problems. -/
def contentOf (body : Json) : Except (List Problem) Text :=
  match body.get? "content" with
  | none => .error [.noContent]
  | some (.string t) => .ok t
  | some _ => .error [.contentNotText]

/-- The extension of a body, or its problems; it may be missing. -/
def extensionOf (body : Json) : Except (List Problem) (Option Text) :=
  match body.get? "extension" with
  | none | some .null => .ok none
  | some (.string t) => .ok (some t)
  | some _ => .error [.extensionNotText]

/-- What a JSON body asks for. All its problems are told at once. -/
def ofJson : Json → Except (List Problem) Extract
  | .object members =>
      match contentOf (.object members), extensionOf (.object members) with
      | .ok content, .ok extension => .ok ⟨content, extension⟩
      | .error ps, .ok _ => .error ps
      | .ok _, .error qs => .error qs
      | .error ps, .error qs => .error (ps ++ qs)
  | _ => .error [.notAnObject]

/-! ## Routes -/

/-- The part of a JSON body that a problem is about. -/
def Problem.about (body : Json) : Problem → Json
  | noBody => .null
  | notJson _ => .object []
  | notAnObject | noContent => body
  | contentNotText => (body.get? "content").getD .null
  | extensionNotText => (body.get? "extension").getD .null

/-- The answer to a request whose JSON body has problems. -/
def answerProblems (body : Json) (problems : List Problem) : Except Fault Response :=
  let parts := problems.map fun p => p.about body
  if !parts.all Json.isFinite then .error .notFinite
  else if !parts.all Json.isEncodable then .error .notEncodable
  else .ok (.invalid problems)

/-- The answer to a body that is no text, or whose numbers or depth exceed a limit. -/
def unreadableBody : Response :=
  .failure 400 "There was an error parsing the body"

/-- Where a request for extraction goes. -/
def routeBody (body : List UInt8) : Route :=
  if body.isEmpty then .settled (.ok (.invalid [.noBody]))
  else
    match Json.parseOctets body with
    | .error (.malformed offset) => .settled (.ok (.invalid [.notJson offset]))
    | .error .notText | .error .tooManyDigits | .error .tooDeep => .settled (.ok unreadableBody)
    | .ok j =>
        match ofJson j with
        | .error problems => .settled (answerProblems j problems)
        | .ok e => .parse e

/-- A path without slashes at its end. -/
def barePath (path : Text) : Text :=
  Text.trimRight (· == '/') path

/-- The answer to a request under a method that its path does not have. -/
def wrongMethod : Response :=
  .failure 405 "Method Not Allowed"

/-- Where a request goes. -/
def route (r : Request) : Route :=
  let method := r.method.map CodePoint.toUpper
  let path := barePath r.path
  if path = "/health" then if method = "GET" then .health else .settled (.ok wrongMethod)
  else if path = "/parse" then
    if method = "POST" then routeBody r.body else .settled (.ok wrongMethod)
  else .settled (.ok (.failure 404 "Not Found"))

/-- The answer that sends components. -/
def send (components : List Component) : Except Fault Response :=
  match Export.serve components with
  | .error cause => .error (.export cause)
  | .ok j => .ok (.success (.object [("components", j)]))

/-- The framework that the service runs in. -/
def Framework.own : Framework where
  route := Service.route
  send := Service.send

end ComponentDocs.Service
