/-!
# Routes

What a client may ask for, and where; among it are pages that tell people about the service.
Slashes at the end of a path do not matter, nor does one line feed.
-/

namespace LogTemplate.Service

/-- The name of the service. -/
def title : String := "logpattern API"

/-- The pages that tell people about the service. -/
inductive Page where
  /-- Where requests can be tried out. -/
  | trial
  /-- Where a client comes back to that got leave to try requests out. -/
  | leave
  /-- Where requests can be read about. -/
  | reference
  deriving DecidableEq, Repr

namespace Page

/-- What stands in the head line of a page. -/
def heading : Page → String
  | .trial => title ++ " - Swagger UI"
  | .leave => "Swagger UI: OAuth2 Redirect"
  | .reference => title ++ " - ReDoc"

/-- The text of a page. -/
def text (page : Page) : String :=
  "\n    ".intercalate [
    "", "<!DOCTYPE html>", "<html>", "<head>",
    "<title>" ++ page.heading ++ "</title>",
    "</head>", "<body>", "</body>", "</html>", ""]

end Page

/-- What a client may ask for. -/
inductive Route where
  | health
  | patterns
  | parse
  | validate
  | reload
  /-- What programs are told about the service. -/
  | description
  | page (page : Page)
  deriving DecidableEq, Repr

namespace Route

/-- The path of a route. -/
def path : Route → String
  | .health => "/health"
  | .patterns => "/patterns"
  | .parse => "/parse"
  | .validate => "/validate"
  | .reload => "/reload"
  | .description => "/openapi.json"
  | .page .trial => "/docs"
  | .page .leave => "/docs/oauth2-redirect"
  | .page .reference => "/redoc"

/-- The method of a route. -/
def method : Route → String
  | .parse | .reload => "POST"
  | _ => "GET"

/-- Whether only the head of an answer can be asked for. -/
def hasHead : Route → Bool
  | .description | .page _ => true
  | _ => false

/-- Whether a route takes a method. -/
def takes (route : Route) (method : String) : Bool :=
  method == route.method || (route.hasHead && method == "HEAD")

/-- All routes. -/
def all : List Route := [
  .health, .patterns, .parse, .validate, .reload,
  .description, .page .trial, .page .leave, .page .reference]

/-- Whether a route has the path. -/
def isAt (path : List Char) (route : Route) : Bool :=
  path == route.path.toList || path == route.path.toList ++ ['\n']

/-- The route of a path. -/
def ofPath? (path : List Char) : Option Route :=
  match all.find? (isAt path) with
  | some route => some route
  | none => all.find? (isAt (path.reverse.dropWhile (· == '/')).reverse)

end Route

end LogTemplate.Service
