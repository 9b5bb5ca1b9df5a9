import LogTemplate.Double.Shortest
import LogTemplate.OrderedMap
import LogTemplate.TagSet
import LogTemplate.Text.Quoted

/-!
# Documents

What a pattern file holds once it is decoded, whatever its format: scalars, lists, and mappings
that remember the order of their entries.  A document can be shown in a message, and its type has
a name there.
-/

namespace LogTemplate

/-- A decoded document.  The readers never repeat a key within a mapping. -/
inductive Document where
  | null
  | bool (value : Bool)
  | int (value : Int)
  | float (value : Double)
  | text (value : Text)
  | list (items : List Document)
  | mapping (entries : List (Text × Document))
  deriving Repr, Inhabited

namespace Document

/-- The name of a document's type in messages. -/
def typeName : Document → Text
  | .null => "NoneType"
  | .bool _ => "bool"
  | .int _ => "int"
  | .float _ => "float"
  | .text _ => "str"
  | .list _ => "list"
  | .mapping _ => "dict"

/-- How messages show the absence of a value. -/
def nullWord : Text := "None"

/-- How messages show a truth value. -/
def boolWord (b : Bool) : Text := if b then "True" else "False"

mutual

/-- A document as messages show it. -/
def shown : Document → Text
  | .null => nullWord
  | .bool b => boolWord b
  | .int n => toString n
  | .float x => x.messageText
  | .text s => Text.quoted s
  | .list items => "[" ++ Text.intercalate ", " (shownItems items) ++ "]"
  | .mapping entries => "\x7b" ++ Text.intercalate ", " (shownEntries entries) ++ "\x7d"

/-- The items of a list as messages show them. -/
def shownItems : List Document → List Text
  | [] => []
  | item :: rest => shown item :: shownItems rest

/-- The entries of a mapping as messages show them. -/
def shownEntries : List (Text × Document) → List Text
  | [] => []
  | (key, value) :: rest => (Text.quoted key ++ ": " ++ shown value) :: shownEntries rest

end

/-- A mapping of texts as messages show it. -/
def shownTexts (entries : List (Text × Text)) : Text :=
  shown (.mapping (entries.map fun (key, value) => (key, .text value)))

/-- A text, or null. -/
def ofText? (s : Option Text) : Document := (s.map Document.text).getD .null

/-- A mapping of texts. -/
def ofTexts (m : OrderedMap Text) : Document :=
  .mapping (m.entries.map fun (key, value) => (key, .text value))

/-- The list of a set of tags. -/
def ofTags (s : TagSet) : Document := .list (s.tags.map .text)

/-- The entry of a mapping; other documents have none. -/
def get? (key : Text) : Document → Option Document
  | .mapping entries => OrderedMap.lookup key entries
  | _ => none

/-- The entry of a mapping, or null. -/
def get (key : Text) (d : Document) : Document := (d.get? key).getD .null

/-- Whether the document is null. -/
def isNull : Document → Bool
  | .null => true
  | _ => false

/-- The text that a document is. -/
def text? : Document → Option Text
  | .text s => some s
  | _ => none

mutual

/-- The texts in a document, in order. -/
def texts : Document → List Text
  | .text s => [s]
  | .list items => itemTexts items
  | .mapping entries => entryTexts entries
  | _ => []

/-- The texts in the items of a list. -/
def itemTexts : List Document → List Text
  | [] => []
  | item :: rest => texts item ++ itemTexts rest

/-- The texts in the entries of a mapping, their keys among them. -/
def entryTexts : List (Text × Document) → List Text
  | [] => []
  | (key, value) :: rest => key :: texts value ++ entryTexts rest

end

/-- Whether no half in a document stands alone. -/
def isWhole (d : Document) : Bool := d.texts.all (Text.isWhole ·.toList)

mutual

/-- Whether every number in a document is finite. -/
def isFinite : Document → Bool
  | .float x => x.isFinite
  | .list items => areFinite items
  | .mapping entries => haveFinite entries
  | _ => true

/-- Whether every number in the items of a list is finite. -/
def areFinite : List Document → Bool
  | [] => true
  | item :: rest => isFinite item && areFinite rest

/-- Whether every number in the entries of a mapping is finite. -/
def haveFinite : List (Text × Document) → Bool
  | [] => true
  | (_, value) :: rest => isFinite value && haveFinite rest

end

/-- The number that a document counts as when it is compared: truth values count as 0 and 1. -/
def integer? : Document → Option Int
  | .bool b => some (if b then 1 else 0)
  | .int n => some n
  | _ => none

mutual

/-- Whether two documents are equal.  Numbers are compared by value, whatever their types, and
mappings whatever the order of their entries. -/
def same : Document → Document → Bool
  | .null, .null => true
  | .text s, .text t => s == t
  | .list items, .list others => sameItems items others
  | .mapping entries, .mapping others =>
    entries.length == others.length && sameEntries entries others
  | .float x, .float y => x.equal y
  | .float x, d => d.integer?.any x.equalInt
  | .bool b, d => sameNumber (if b then 1 else 0) d
  | .int n, d => sameNumber n d
  | _, _ => false

/-- Whether two lists hold equal documents. -/
def sameItems : List Document → List Document → Bool
  | [], [] => true
  | item :: rest, other :: others => same item other && sameItems rest others
  | _, _ => false

/-- Whether every entry is found, with an equal value, in another mapping. -/
def sameEntries : List (Text × Document) → List (Text × Document) → Bool
  | [], _ => true
  | (key, value) :: rest, others =>
    (match OrderedMap.lookup key others with
      | some other => same value other
      | none => false) && sameEntries rest others

/-- Whether a document is a number of the given value. -/
def sameNumber (n : Int) : Document → Bool
  | .float x => x.equalInt n
  | d => d.integer? == some n

end

end Document

end LogTemplate
