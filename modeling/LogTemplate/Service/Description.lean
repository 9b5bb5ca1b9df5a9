import LogTemplate.Document
import LogTemplate.Service.Route

/-!
# The description of the service

What the service tells programs about itself: its routes, what they take, what they give, and the
schemas of both, as an OpenAPI document.
-/

namespace LogTemplate.Service

/-- The most lines that a request may hold. -/
def lineLimit : Nat := 100000

/-- A schema, as the entries of its document. -/
abbrev Schema := List (Text × Document)

namespace Schema

/-- The schema of values of a type. -/
def ofType (name : String) : Schema := [("type", .text name)]

/-- A text. -/
def text : Schema := ofType "string"

/-- A whole number. -/
def integer : Schema := ofType "integer"

/-- A truth value. -/
def truth : Schema := ofType "boolean"

/-- One of several schemas. -/
def anyOf (choices : List Schema) : Schema := [("anyOf", .list (choices.map .mapping))]

/-- A list of items. -/
def listOf (item : Schema) : Schema := [("items", .mapping item), ("type", .text "array")]

/-- A mapping to values. -/
def mappingTo (value : Document) : Schema :=
  [("additionalProperties", value), ("type", .text "object")]

/-- A schema with a title. -/
def titled (title : String) (s : Schema) : Schema := s.concat ("title", .text title)

/-- A schema that is described under its name. -/
def named (name : String) : Schema := [("$ref", .text ("#/components/schemas/" ++ name))]

/-- A field of a record: its name, its title, its schema, and whether it has to be there. -/
structure Member where
  name : String
  title : String
  schema : Schema
  isRequired : Bool := true

/-- The entry of a record with fields. -/
def record (name : String) (members : List Member) : Text × Document :=
  let properties := members.map fun m =>
    ((m.name : Text), Document.mapping (m.schema.titled m.title))
  let required := (members.filter (·.isRequired)).map fun m => Document.text m.name
  let types : Schema := [("properties", .mapping properties), ("type", .text "object")]
  let entries := if required.isEmpty then types else types.concat ("required", .list required)
  (name, .mapping (titled name entries))

end Schema

open Schema

/-- The schemas that have names. -/
def schemas : List (Text × Document) :=
  let optionalText := anyOf [text, ofType "null"]
  let free := listOf (mappingTo (.bool true))
  [record "HTTPValidationError" [⟨"detail", "Detail", listOf (named "ValidationError"), false⟩],
    record "ParseRecord" [
      ⟨"line_number", "Line Number", integer, true⟩, ⟨"line", "Line", text, true⟩,
      ⟨"matched", "Matched", truth, true⟩, ⟨"uuid", "Uuid", optionalText, false⟩,
      ⟨"name", "Name", optionalText, false⟩,
      ⟨"values", "Values", mappingTo (.mapping text), true⟩,
      ⟨"tags", "Tags", listOf text, true⟩, ⟨"content_hash", "Content Hash", text, true⟩],
    record "ParseRequest" [
      ⟨"lines", "Lines", (listOf text).concat ("maxItems", .int lineLimit), true⟩],
    record "PatternItem" [
      ⟨"uuid", "Uuid", text, true⟩, ⟨"name", "Name", text, true⟩,
      ⟨"pattern", "Pattern", text, true⟩, ⟨"tags", "Tags", listOf text, true⟩,
      ⟨"test_messages", "Test Messages", integer, true⟩],
    record "ValidationError" [
      ⟨"loc", "Location", listOf (anyOf [text, integer]), true⟩,
      ⟨"msg", "Message", text, true⟩, ⟨"type", "Error Type", text, true⟩,
      ⟨"input", "Input", [], false⟩, ⟨"ctx", "Context", ofType "object", false⟩],
    record "ValidationResponse" [
      ⟨"ok", "Ok", truth, true⟩, ⟨"diagnostics", "Diagnostics", free, true⟩,
      ⟨"outcomes", "Outcomes", free, true⟩]]

/-- A schema as what a body holds. -/
def content (s : Schema) : Text × Document :=
  ("content", .mapping [("application/json", .mapping [("schema", .mapping s)])])

/-- A response by its status. -/
def response (status description : String) (s : Schema) : Text × Document :=
  (status, .mapping [("description", .text description), content s])

/-- What a route is called, and what it gives. -/
def outline : Route → String × Schema
  | .health => ("Health", [])
  | .patterns => ("List Patterns",
      titled "Response List Patterns Patterns Get" (listOf (named "PatternItem")))
  | .parse => ("Parse", titled "Response Parse Parse Post" (listOf (named "ParseRecord")))
  | .validate => ("Run Validation", named "ValidationResponse")
  | .reload => ("Reload Patterns", [])
  | .description | .page _ => ("", [])

/-- The routes that are described. -/
def described : List Route := [.health, .patterns, .parse, .validate, .reload]

/-- The description of a route. -/
def operation (route : Route) : Text × Document :=
  let (summary, result) := outline route
  let method := route.method.map Char.toLower
  let words := (summary.map Char.toLower).map fun c => if c == ' ' then '_' else c
  let place := route.path.map fun c => if c == '/' then '_' else c
  let given := [response "200" "Successful Response" result]
  let (taken, refused) : List (Text × Document) × List (Text × Document) := match route with
    | .parse =>
      ([("requestBody", .mapping [content (named "ParseRequest"), ("required", .bool true)])],
        [response "422" "Validation Error" (named "HTTPValidationError")])
    | _ => ([], [])
  let entries : List (Text × Document) :=
    ("summary", .text summary) :: ("operationId", .text s!"{words}{place}_{method}")
      :: taken.concat ("responses", .mapping (given ++ refused))
  (route.path, .mapping [(method, .mapping entries)])

/-- The description of the service. -/
def description : Document :=
  .mapping [
    ("openapi", .text "3.1.0"),
    ("info", .mapping [("title", .text title), ("version", .text "0.1.0")]),
    ("paths", .mapping (described.map operation)),
    ("components", .mapping [("schemas", .mapping schemas)])]

end LogTemplate.Service
