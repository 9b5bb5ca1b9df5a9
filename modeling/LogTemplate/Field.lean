import LogTemplate.Text

/-!
# Fields

A field of a template has a kind, a name, and bounds on what it may hold.  A number is bounded by
its value; a word and free text are bounded by their length.
-/

namespace LogTemplate

/-- What a field holds. -/
inductive Kind where
  /-- Decimal digits, with a minus sign or without. -/
  | number
  /-- A word: letters, digits, underscores, hyphens and dots. -/
  | string
  | ipv4
  | ipv6
  /-- A date, or a date and a time. -/
  | timestamp
  /-- Free text. -/
  | any
  deriving DecidableEq, Repr, Inhabited

namespace Kind

/-- The name of the kind in templates. -/
def name : Kind → Text
  | .number => "NUMBER"
  | .string => "STRING"
  | .ipv4 => "IPv4"
  | .ipv6 => "IPv6"
  | .timestamp => "TIMESTAMP"
  | .any => "ANY"

/-- All kinds. -/
def all : List Kind := [.number, .string, .ipv4, .ipv6, .timestamp, .any]

/-- The kind of a name. -/
def ofName? (s : Text) : Option Kind := all.find? (·.name == s)

theorem ofName?_name (k : Kind) : ofName? k.name = some k := by cases k <;> decide

end Kind

/-- What a bound limits, in the order of the names. -/
inductive Limit where
  /-- The largest number. -/
  | max
  /-- The greatest length. -/
  | maxLength
  /-- The least number. -/
  | min
  /-- The least length. -/
  | minLength
  deriving DecidableEq, Repr, Inhabited

namespace Limit

/-- The name of the limit in templates. -/
def name : Limit → Text
  | .max => "max"
  | .maxLength => "max_len"
  | .min => "min"
  | .minLength => "min_len"

/-- All limits, in the order of their names. -/
def all : List Limit := [.max, .maxLength, .min, .minLength]

/-- The limit of a name. -/
def ofName? (s : Text) : Option Limit := all.find? (·.name == s)

theorem ofName?_name (l : Limit) : ofName? l.name = some l := by cases l <;> decide

end Limit

/-- Whether a kind can be bounded so: a number by value, a word and free text by length. -/
def Kind.allows : Kind → Limit → Bool
  | .number, .min | .number, .max => true
  | .string, .minLength | .string, .maxLength => true
  | .any, .minLength | .any, .maxLength => true
  | _, _ => false

/-- The bounds of a field: at most one for each limit. -/
structure Bounds where
  max : Option Int := none
  maxLength : Option Int := none
  min : Option Int := none
  minLength : Option Int := none
  deriving DecidableEq, Repr, Inhabited

namespace Bounds

/-- No bounds. -/
def none : Bounds := {}

/-- The bound on a limit. -/
def get? (b : Bounds) : Limit → Option Int
  | .max => b.max
  | .maxLength => b.maxLength
  | .min => b.min
  | .minLength => b.minLength

/-- Sets the bound on a limit. -/
def set (b : Bounds) (limit : Limit) (value : Int) : Bounds :=
  match limit with
  | .max => { b with max := some value }
  | .maxLength => { b with maxLength := some value }
  | .min => { b with min := some value }
  | .minLength => { b with minLength := some value }

/-- The bounds in the order of their names. -/
def entries (b : Bounds) : List (Limit × Int) :=
  Limit.all.filterMap fun limit => (b.get? limit).map (limit, ·)

/-- Whether a lower bound lies above an upper one. -/
def above (low high : Option Int) : Bool :=
  match low, high with
  | some l, some h => h < l
  | _, _ => false

theorem get?_set (b : Bounds) (limit other : Limit) (value : Int) :
    (b.set limit value).get? other = if other = limit then some value else b.get? other := by
  cases limit <;> cases other <;> simp [set, get?]

theorem mem_entries {b : Bounds} {limit : Limit} {value : Int} :
    (limit, value) ∈ b.entries ↔ b.get? limit = some value := by
  cases limit <;> simp [entries, Limit.all, get?]

/-- Bounds are what they are on each limit. -/
theorem ext_get? {a b : Bounds} (h : ∀ limit, a.get? limit = b.get? limit) : a = b := by
  cases a; cases b
  have h1 := h .max
  have h2 := h .maxLength
  have h3 := h .min
  have h4 := h .minLength
  simp only [get?] at h1 h2 h3 h4
  simp [h1, h2, h3, h4]

end Bounds

/-- A field of a template. -/
structure Field where
  kind : Kind
  name : Text
  bounds : Bounds := {}
  deriving DecidableEq, Repr, Inhabited

end LogTemplate
