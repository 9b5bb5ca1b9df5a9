import LogTemplate.Library

/-!
# The index of a library

Patterns that start with a literal are filed under its first character, and are tried only on lines
that start with the whole literal.  All other patterns are tried on every line.
-/

namespace LogTemplate

/-- The patterns of a library, filed by the first character of the literal they start with. -/
structure Index where
  anchored : List (CodePoint × List Pattern)
  /-- Patterns that start with a field. -/
  unanchored : List Pattern

namespace Index

/-- Files a pattern at the end of the drawer of a character. -/
def file (first : CodePoint) (p : Pattern) :
    List (CodePoint × List Pattern) → List (CodePoint × List Pattern)
  | [] => [(first, [p])]
  | (c, filed) :: rest =>
    if c = first then (c, filed ++ [p]) :: rest else (c, filed) :: file first p rest

/-- The patterns in the drawer of a character. -/
def drawer (first : CodePoint) : List (CodePoint × List Pattern) → List Pattern
  | [] => []
  | (c, filed) :: rest => if c = first then filed else drawer first rest

/-- Files a pattern. -/
def add (index : Index) (p : Pattern) : Index :=
  match p.template.leadingLiteral? with
  | some (first :: _) => { index with anchored := file first p index.anchored }
  | _ => { index with unanchored := index.unanchored ++ [p] }

/-- The index of a library. -/
def ofLibrary (library : Library) : Index := library.patterns.foldl add ⟨[], []⟩

/-- Whether a line starts with the literal that the pattern starts with. -/
def isAnchoredAt (line : List CodePoint) (p : Pattern) : Bool :=
  match p.template.leadingLiteral? with
  | some literal => literal.isPrefixOf line
  | none => false

/-- The patterns to be tried on a line. -/
def candidates (index : Index) (line : List CodePoint) : List Pattern :=
  let anchored := match line with
    | [] => []
    | first :: _ => drawer first index.anchored
  anchored.filter (isAnchoredAt line) ++ index.unanchored

theorem drawer_file (first other : CodePoint) (p : Pattern)
    (drawers : List (CodePoint × List Pattern)) :
    drawer other (file first p drawers) =
      if other = first then drawer other drawers ++ [p] else drawer other drawers := by
  induction drawers with
  | nil =>
    by_cases h : other = first
    · simp [file, drawer, h]
    · have h' : ¬ first = other := fun e => h e.symm
      simp [file, drawer, h, h']
  | cons d rest ih =>
    obtain ⟨c, filed⟩ := d
    by_cases h : c = first
    · subst h
      by_cases o : other = c
      · subst o; simp [file, drawer]
      · have o' : ¬ c = other := fun e => o e.symm
        simp [file, drawer, o, o']
    · by_cases o : c = other
      · subst o; simp [file, drawer, h]
      · simp [file, drawer, h, o, ih]

end Index

end LogTemplate
