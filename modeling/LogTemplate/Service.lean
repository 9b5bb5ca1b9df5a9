import LogTemplate.Entry
import LogTemplate.Json.Encoding
import LogTemplate.Library.Live
import LogTemplate.Service.Description
import LogTemplate.Service.Url
import LogTemplate.Validation

/-!
# The service

The service answers requests about a live library: how it is, what patterns it holds, what it makes
of lines, how its examples go; it loads the library again; and it describes itself.  A response has
a status and, unless it refuses the request, something to show.
-/

namespace LogTemplate.Service

variable [Nesting]

/-- What a client sends. -/
structure Request where
  method : String
  url : String
  body : Option String := none
  deriving Repr

/-- What a response holds. -/
inductive Content where
  | nothing
  | document (document : Document)
  /-- A page for people. -/
  | page (text : String)

/-- What a client gets.  A refusal has no content of its own. -/
structure Response where
  status : Nat
  content : Content := .nothing

/-- Why a request has no response. -/
inductive Error where
  /-- The URL of the request cannot be followed. -/
  | url (error : Url.Error)
  /-- The library cannot be loaded, and that is the caller's affair. -/
  | library (error : LiveLibrary.Error)
  /-- The part of the body that is refused holds a number that no response can hold. -/
  | notFinite
  /-- The part of the body that is refused holds a half that stands alone, which no response can
  hold. -/
  | notWhole
  /-- A text of the response holds halves that stand alone. -/
  | unencodable (stray : Text.Stray)

/-- The wording of an error, where it has one. -/
def Error.message? : Error → Option Text
  | .url error => some error.message
  | .library error => some error.message
  | .notFinite => some "Out of range float values are not JSON compliant"
  | .notWhole => none
  | .unencodable stray =>
    some ("Error serializing to JSON: UnicodeEncodeError: " ++ Text.Utf8.refusal stray)

namespace Response

/-- The response to a request that is granted. -/
def ok (body : Document) : Response := ⟨200, .document body⟩

/-- The response to a request that is granted, if it can be sent. -/
def sent (body : Document) : Except Error Response :=
  match body.texts.findSome? (Text.stray? ·.toList) with
  | some stray => .error (.unencodable stray)
  | none => .ok (ok body)

/-- No route has the path. -/
def notFound : Response := ⟨404, .nothing⟩

/-- The route takes another method. -/
def notAllowed : Response := ⟨405, .nothing⟩

/-- The body cannot be read. -/
def unreadable : Response := ⟨400, .nothing⟩

/-- The body is not what the route takes. -/
def unacceptable : Response := ⟨422, .nothing⟩

/-- The library cannot be loaded. -/
def failure (detail : Text) : Response :=
  ⟨500, .document (.mapping [("detail", .text detail)])⟩

/-- The head of a response. -/
def head (r : Response) : Response := { r with content := .nothing }

end Response

/-- The number of things as a document. -/
def count (n : Nat) : Document := .int n

/-- How the library is. -/
def health (s : Snapshot) : Document :=
  .mapping [
    ("status", .text (if s.diagnostics.isEmpty then "ok" else "degraded")),
    ("patterns", count s.library.size),
    ("diagnostics", count s.diagnostics.length)]

/-- A pattern in the list of patterns. -/
def patternItem (p : Pattern) : Document :=
  .mapping [
    ("uuid", .text p.uuid.text),
    ("name", .text p.name),
    ("pattern", .text p.template.source),
    ("tags", .ofTags p.tags),
    ("test_messages", count p.examples.length)]

/-- The patterns of the library. -/
def patternList (s : Snapshot) : Document := .list (s.library.patterns.map patternItem)

/-- How the examples of the library go. -/
def validation (s : Snapshot) : Document :=
  let report := Validation.report s.library s.diagnostics
  .mapping [
    ("ok", .bool report.isValid),
    ("diagnostics", .list (report.diagnostics.map Diagnostic.document)),
    ("outcomes", .list (report.outcomes.map Validation.Outcome.document))]

/-- What a successful load reports. -/
def reloaded (s : Snapshot) : Document :=
  .mapping [
    ("ok", .bool true),
    ("patterns", count s.library.size),
    ("diagnostics", count s.diagnostics.length)]

/-- The lines in the body of a request: a list of texts, not too long.  If there are none, the part
of the body that is at fault. -/
def linesOf (body : Document) : Except Document (List (List CodePoint)) :=
  match body.get? "lines" with
  | none => .error body
  | some (.list items) =>
    match items.mapM Document.text? with
    | none => .error (.list items)
    | some lines =>
      if lines.length ≤ lineLimit then .ok (lines.map Text.toList) else .error (.list items)
  | some other => .error other

/-- The document in the body of a request, or the refusal. -/
def documentOf (body : Option String) : Except Response Document :=
  match Json.decode? (Text.Utf8.encode (body.getD "").toList) with
  | none => .error .unreadable
  | some text =>
    match Json.read text with
    | .ok d => .ok d
    | .error (.misread ..) => .error .unacceptable
    | .error (.numeral _) | .error (.tooDeep _) => .error .unreadable

/-- The entries of the lines in the body of a request.  A refusal shows the part at fault. -/
def parse (s : Snapshot) (workers : Int) (body : Option String) : Except Error Response :=
  match documentOf body with
  | .error refusal => .ok refusal
  | .ok d =>
    match linesOf d with
    | .error fault =>
      if !fault.isFinite then .error .notFinite
      else if fault.isWhole then .ok .unacceptable
      else .error .notWhole
    | .ok lines =>
      Response.sent (.list ((Entry.ofLines s.index workers 1 lines).map Entry.document))

/-- Loads the library again.  An error that is not reported as a failure of the pattern file is the
caller's. -/
def reload (live : LiveLibrary) (w : Workspace) :
    Logged (LiveLibrary × Except Error Response) := do
  match ← live.reload w with
  | (live, .ok ()) => return (live, .ok (.ok (reloaded live.current)))
  | (live, .error e) =>
    match e.fileFailure? with
    | some failure => return (live, .ok (.failure ("Pattern file error: " ++ failure.message)))
    | none => return (live, .error (.library e))

/-- Answers a request that a route takes. -/
def respond (live : LiveLibrary) (w : Workspace) (workers : Int) (body : Option String) :
    Route → Logged (LiveLibrary × Except Error Response)
  | .health => return (live, .ok (.ok (health live.current)))
  | .patterns => return (live, Response.sent (patternList live.current))
  | .validate => return (live, Response.sent (validation live.current))
  | .parse => return (live, parse live.current workers body)
  | .reload => reload live w
  | .description => return (live, .ok (.ok description))
  | .page page => return (live, .ok ⟨200, .page page.text⟩)

/-- Answers a request. -/
def answer (live : LiveLibrary) (w : Workspace) (workers : Int) (request : Request) :
    Logged (LiveLibrary × Except Error Response) := do
  match Url.pathOf request.url.toList with
  | .error e => return (live, .error (.url e))
  | .ok path =>
    match Route.ofPath? path with
    | none => return (live, .ok .notFound)
    | some route =>
      if !route.takes request.method then return (live, .ok .notAllowed)
      let (live, outcome) ← respond live w workers request.body route
      return (live, if request.method == "HEAD" then outcome.map Response.head else outcome)

/-- Starts the service: loads the library, and does without it if the file fails. -/
def start (live : LiveLibrary) (w : Workspace) :
    Logged (LiveLibrary × Except LiveLibrary.Error Unit) := do
  match ← live.reload w with
  | (live, .ok ()) => return (live, .ok ())
  | (live, .error e) => return (live, if e.fileFailure?.isSome then .ok () else .error e)

end LogTemplate.Service
