import LogTemplate.Text

/-!
# Sets of characters given by runs

A character property of the Unicode standard is a set of code points, written down as its maximal
runs in increasing order and searched by halving.
-/

namespace LogTemplate.Text

/-- A set of code points: the first and the last of each run, in increasing order. -/
structure CharSet where
  runs : Array (Nat × Nat)

namespace CharSet

/-- Whether one of the runs numbered `low`, …, `high - 1` holds the code point. -/
def search (s : CharSet) (code low high : Nat) : Bool :=
  if low < high then
    let middle := (low + high) / 2
    match s.runs[middle]? with
    | none => false
    | some (first, last) =>
      if code < first then s.search code low middle
      else if last < code then s.search code (middle + 1) high
      else true
  else false
termination_by high - low

/-- Whether the code point is in the set. -/
def contains (s : CharSet) (code : Nat) : Bool := s.search code 0 s.runs.size

end CharSet

end LogTemplate.Text
