import LogTemplate.Text

/-!
# Maps in insertion order

A finite map from texts to values that remembers the order in which its keys were first set.
Setting a key again keeps its place and takes the new value.  Main statements: what `get?` finds
after `insert`, and that no operation lists a key twice.
-/

namespace LogTemplate

/-- A list of key-value pairs in which no key occurs twice. -/
structure OrderedMap (α : Type) where
  entries : List (Text × α)
  nodup : (entries.map Prod.fst).Nodup

namespace OrderedMap

variable {α : Type}

instance [DecidableEq α] : DecidableEq (OrderedMap α) := fun a b =>
  match decEq a.entries b.entries with
  | isTrue h => isTrue (by cases a; cases b; cases h; rfl)
  | isFalse h => isFalse (fun e => h (congrArg entries e))

/-- The map without keys. -/
def empty : OrderedMap α := ⟨[], by simp⟩

instance : EmptyCollection (OrderedMap α) := ⟨empty⟩

instance : Inhabited (OrderedMap α) := ⟨empty⟩

/-- The keys, in order. -/
def keys (m : OrderedMap α) : List Text := m.entries.map Prod.fst

section

variable {κ : Type} [DecidableEq κ]

/-- The value of a key in a list of pairs: that of the first pair that names it. -/
def lookup (key : κ) : List (κ × α) → Option α
  | [] => none
  | (k, v) :: rest => if k = key then some v else lookup key rest

/-- Sets a key in a list of pairs: in place if it is there, at the end otherwise. -/
def set (key : κ) (value : α) : List (κ × α) → List (κ × α)
  | [] => [(key, value)]
  | (k, v) :: rest => if k = key then (k, value) :: rest else (k, v) :: set key value rest

theorem keys_set (key : κ) (value : α) (entries : List (κ × α)) :
    (set key value entries).map Prod.fst =
      if key ∈ entries.map Prod.fst then entries.map Prod.fst
      else entries.map Prod.fst ++ [key] := by
  induction entries with
  | nil => simp [set]
  | cons e rest ih =>
    obtain ⟨k, v⟩ := e
    by_cases h : k = key
    · simp [set, h]
    · have h' : ¬ key = k := fun e => h e.symm
      by_cases m : key ∈ rest.map Prod.fst
      · have : ∃ x, (key, x) ∈ rest := by simpa using m
        simp [set, h, h', ih, this]
      · have : ¬ ∃ x, (key, x) ∈ rest := by simpa using m
        simp [set, h, h', ih, this]

theorem nodup_set {key : κ} {value : α} {entries : List (κ × α)}
    (h : (entries.map Prod.fst).Nodup) : ((set key value entries).map Prod.fst).Nodup := by
  rw [keys_set]
  by_cases m : key ∈ entries.map Prod.fst
  · rw [if_pos m]; exact h
  · rw [if_neg m]
    refine List.nodup_append.2 ⟨h, by simp, ?_⟩
    intro a ha b hb
    simp only [List.mem_singleton] at hb
    subst hb
    exact fun e => m (e ▸ ha)

end

/-- The value of a key. -/
def get? (m : OrderedMap α) (key : Text) : Option α := lookup key m.entries

/-- Sets a key: in place if the map has it, at the end otherwise. -/
def insert (m : OrderedMap α) (key : Text) (value : α) : OrderedMap α :=
  ⟨set key value m.entries, nodup_set m.nodup⟩

/-- Sets all pairs of a list, from left to right. -/
def insertAll (m : OrderedMap α) (pairs : List (Text × α)) : OrderedMap α :=
  pairs.foldl (fun acc p => acc.insert p.1 p.2) m

/-- The map of a list of pairs: a repeated key keeps its first place and its last value. -/
def ofList (pairs : List (Text × α)) : OrderedMap α := empty.insertAll pairs

/-- The first map with the second laid over it: shared keys keep their place and take the second
map's value, further keys of the second follow in its order. -/
def override (m n : OrderedMap α) : OrderedMap α := m.insertAll n.entries

/-- Whether both maps have the same keys with the same values, in whatever order. -/
def agrees [DecidableEq α] (m n : OrderedMap α) : Bool :=
  m.entries.length == n.entries.length && m.entries.all fun p => n.get? p.1 == some p.2

theorem lookup_set {κ : Type} [DecidableEq κ] (key other : κ) (value : α) (entries : List (κ × α)) :
    lookup other (set key value entries) =
      if other = key then some value else lookup other entries := by
  induction entries with
  | nil =>
    by_cases h : other = key
    · simp [set, lookup, h]
    · have h' : ¬ key = other := fun e => h e.symm
      simp [set, lookup, h, h']
  | cons e rest ih =>
    obtain ⟨k, v⟩ := e
    by_cases h : k = key
    · subst h
      by_cases o : other = k
      · subst o; simp [set, lookup]
      · have o' : ¬ k = other := fun e => o e.symm
        simp [set, lookup, o, o']
    · by_cases o : k = other
      · subst o; simp [set, lookup, h]
      · simp [set, lookup, h, o, ih]

@[simp] theorem get?_insert (m : OrderedMap α) (key other : Text) (value : α) :
    (m.insert key value).get? other = if other = key then some value else m.get? other :=
  lookup_set key other value m.entries

@[simp] theorem get?_empty (key : Text) : (empty : OrderedMap α).get? key = none := rfl

end OrderedMap

end LogTemplate
