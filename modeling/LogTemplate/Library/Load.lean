import LogTemplate.Library
import LogTemplate.Record.Read

/-!
# Loading a library

The library of a list of records, and all that is wrong with the records.  Records are added one by
one; a record that is no pattern, or whose UUID is taken, is left out and reported.
-/

namespace LogTemplate.Library

/-- A library on the way: what the records so far have given, and how many they were. -/
structure Loading where
  library : Library := {}
  diagnostics : List Diagnostic := []
  count : Nat := 0

namespace Loading

/-- The report on a pattern whose UUID an earlier one has. -/
def duplicate (index : Nat) (p holder : Pattern) : Diagnostic where
  index := index
  cause := .taken holder.name
  name := some p.name
  uuid := some p.uuid.text
  skipped := true

/-- Adds the next record. -/
def add (state : Loading) (record : Document) : Loading :=
  let (pattern, problems) := Record.read state.count record
  let diagnostics := state.diagnostics ++ problems
  let count := state.count + 1
  match pattern with
  | none => ⟨state.library, diagnostics, count⟩
  | some p =>
    match state.library.add p with
    | .ok library => ⟨library, diagnostics, count⟩
    | .error holder =>
      ⟨state.library, diagnostics ++ [duplicate state.count p holder], count⟩

end Loading

/-- A library together with what was wrong with its records. -/
structure Loaded where
  library : Library := {}
  diagnostics : List Diagnostic := []

/-- Loads a list of records. -/
def load (records : List Document) : Loaded :=
  let state := records.foldl Loading.add {}
  ⟨state.library, state.diagnostics⟩

end LogTemplate.Library
