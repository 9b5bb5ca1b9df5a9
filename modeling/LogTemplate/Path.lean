import LogTemplate.Text.Split
import LogTemplate.Text.Uppercase

/-!
# Paths of files

A path is a row of names.  Its written form has one slash between two names; empty names and single
dots are dropped when a path is read, double dots are kept.
-/

namespace LogTemplate

/-- A path: what it starts from (nothing, one slash or two), and the names on the way. -/
structure Path where
  root : String := ""
  names : List String := []
  deriving DecidableEq, Repr, Inhabited

namespace Path

/-- What a path starts from: two slashes, but no more, are kept. -/
def rootOf (s : List Char) : String :=
  match (s.takeWhile (· == '/')).length with
  | 0 => ""
  | 2 => "//"
  | _ => "/"

/-- The path that a text denotes. -/
def ofText (text : String) : Path where
  root := rootOf text.toList
  names := ((Text.splitOn '/' text.toList).filter fun name => name ≠ [] && name ≠ ['.']).map
    String.ofList

/-- The written form; a single dot if there is no name. -/
def text (p : Path) : String :=
  if p.root.isEmpty && p.names.isEmpty then "." else p.root ++ "/".intercalate p.names

/-- The last name. -/
def name (p : Path) : String := p.names.getLastD ""

/-- The path without its last name. -/
def parent (p : Path) : Path := { p with names := p.names.dropLast }

/-- The end of a name from its last dot on, unless the dot is its first or last character. -/
def suffixOf (name : List Char) : List Char :=
  let tail := (name.reverse.takeWhile (· != '.')).reverse
  if tail.isEmpty || name.length ≤ tail.length + 1 then [] else '.' :: tail

/-- The end of the last name from its last dot on, in lower case. -/
def suffix (p : Path) : List Char := (suffixOf p.name.toList).map Char.toLower

/-- Whether the character zero stands in a path, so that no file can have it. -/
def hasZero (p : Path) : Bool := p.names.any fun name => name.toList.contains '\x00'

/-- A place that a path leads to: how far up it goes first, and the names down from there. -/
structure Place where
  isAbsolute : Bool
  up : Nat
  names : List String
  deriving DecidableEq, Repr

/-- Follows a name. -/
def Place.follow (place : Place) (name : String) : Place :=
  if name == ".." then
    if place.names.isEmpty then
      if place.isAbsolute then place else { place with up := place.up + 1 }
    else { place with names := place.names.dropLast }
  else { place with names := place.names ++ [name] }

/-- The place that a path leads to for whoever is at a place, if no name on it is a link. -/
def placeFrom (home : Place) (p : Path) : Place :=
  p.names.foldl Place.follow (if p.root.isEmpty then home else ⟨true, 0, []⟩)

/-- The path of a place: upwards first, then down. -/
def Place.path (place : Place) : Path where
  root := if place.isAbsolute then "/" else ""
  names := List.replicate place.up ".." ++ place.names

end Path

end LogTemplate
