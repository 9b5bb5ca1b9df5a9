/-!
# Nesting

Texts are read by functions that call themselves for each collection inside another one, and the
program gives up where too many calls are under way.  How deep collections may be nested depends on
what runs the program, and is left open.
-/

namespace LogTemplate

/-- How deep collections may be nested where they are read. -/
class Nesting where
  /-- How many lists and mappings of a JSON text may be open at a time. -/
  json : Nat
  /-- How many lists and mappings of a YAML text may be open at a time. -/
  nodes : Nat
  /-- How many calls may be under way when documents are made of the nodes of a YAML text. -/
  calls : Nat
  /-- The record of a line can be read: a mapping in which there are a mapping and a list. -/
  two_le_json : 2 ≤ json

namespace Nesting

/-- Room for about a thousand calls. -/
@[reducible]
def usual : Nesting where
  json := 970
  nodes := 480
  calls := 960
  two_le_json := by decide

/-- What is nested too deep. -/
inductive Excess where
  /-- A list in a JSON text. -/
  | list
  /-- A mapping in a JSON text. -/
  | mapping
  /-- The nodes of a YAML text. -/
  | nodes
  deriving DecidableEq, Repr

/-- The wording of an excess. -/
def Excess.message : Excess → String
  | .list => "maximum recursion depth exceeded while decoding a JSON array from a unicode string"
  | .mapping =>
    "maximum recursion depth exceeded while decoding a JSON object from a unicode string"
  | .nodes => "maximum recursion depth exceeded"

end Nesting

end LogTemplate
