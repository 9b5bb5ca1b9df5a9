import LogTemplate.Batch
import LogTemplate.Library.Index

/-!
# Matching lines

Of the patterns that match a whole line the one whose literals are longest wins, and among those
the one with the smallest UUID.  Its values are its defaults, overridden by what it extracts.
-/

namespace LogTemplate

/-- What a library makes of a line that one of its patterns matches. -/
structure Match where
  uuid : Uuid
  name : Text
  values : OrderedMap Text
  tags : TagSet
  deriving DecidableEq

namespace Pattern

/-- Whether a pattern wins over another one when both match. -/
def outranks (p q : Pattern) : Bool :=
  q.template.literalLength < p.template.literalLength
    || (p.template.literalLength == q.template.literalLength && p.uuid.value < q.uuid.value)

/-- The match of a pattern that extracts the given values. -/
def matchOf (p : Pattern) (extracted : List (Text × Text)) : Match :=
  ⟨p.uuid, p.name, p.defaults.insertAll extracted, p.tags⟩

end Pattern

/-- A pattern that matches a line, and the values that it extracts. -/
abbrev Hit := Pattern × List (Text × Text)

/-- The better of the winner so far and a pattern, if the pattern matches the line at all. -/
def better (line : List CodePoint) (best : Option Hit) (p : Pattern) : Option Hit :=
  match p.extract line with
  | none => best
  | some extracted =>
    match best with
    | none => some (p, extracted)
    | some (q, _) => if p.outranks q then some (p, extracted) else best

/-- The winner among some patterns. -/
def winner? (patterns : List Pattern) (line : List CodePoint) : Option Hit :=
  patterns.foldl (better line) none

/-- The match of a line. -/
def Index.match? (index : Index) (line : List CodePoint) : Option Match :=
  (winner? (index.candidates line) line).map fun (p, extracted) => p.matchOf extracted

/-- The match of a line, for a library that has not been indexed. -/
def Library.match? (library : Library) (line : List CodePoint) : Option Match :=
  (Index.ofLibrary library).match? line

/-- The matches of lines, in order.  With more than one worker each takes a share of the lines. -/
def Index.matchAll (index : Index) (workers : Int) (lines : List (List CodePoint)) :
    List (Option Match) :=
  if workers ≤ 1 then lines.map index.match?
  else
    let share := (lines.length + workers.toNat - 1) / workers.toNat
    let tasks := (batches share lines).map fun batch => Task.spawn fun _ => batch.map index.match?
    (tasks.map Task.get).flatten

/-- How many workers there are makes no difference. -/
theorem Index.matchAll_eq_map (index : Index) (workers : Int) (lines : List (List CodePoint)) :
    index.matchAll workers lines = lines.map index.match? := by
  unfold matchAll
  split
  · rfl
  · simp only [List.map_map, Function.comp_def, Task.spawn]
    rw [← List.map_flatten, flatten_batches]

end LogTemplate
