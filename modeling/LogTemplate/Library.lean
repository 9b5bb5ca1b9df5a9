import LogTemplate.Pattern

/-!
# Libraries of patterns

A library is a list of patterns in load order, no two of which have the same UUID.
-/

namespace LogTemplate

/-- Patterns with distinct UUIDs, in load order. -/
structure Library where
  patterns : List Pattern
  distinct : (patterns.map Pattern.uuid).Nodup

namespace Library

instance : DecidableEq Library := fun a b =>
  match decEq a.patterns b.patterns with
  | isTrue h => isTrue (by cases a; cases b; cases h; rfl)
  | isFalse h => isFalse fun e => h (congrArg patterns e)

/-- The library without patterns. -/
def empty : Library := ⟨[], by simp⟩

instance : EmptyCollection Library := ⟨empty⟩

instance : Inhabited Library := ⟨empty⟩

/-- The number of patterns. -/
def size (library : Library) : Nat := library.patterns.length

/-- The pattern of a UUID. -/
def get? (library : Library) (uuid : Uuid) : Option Pattern :=
  library.patterns.find? (·.uuid == uuid)

/-- The library in one phrase. -/
def text (library : Library) : Text := s!"PatternRepository({library.size} patterns)"

theorem uuid_of_get? {library : Library} {uuid : Uuid} {p : Pattern}
    (h : library.get? uuid = some p) : p.uuid = uuid := by
  simpa using List.find?_some h

theorem get?_eq_none_iff {library : Library} {uuid : Uuid} :
    library.get? uuid = none ↔ uuid ∉ library.patterns.map Pattern.uuid := by
  simp [get?, List.find?_eq_none]

/-- Adds a pattern at the end, unless an earlier one, which is returned, has its UUID. -/
def add (library : Library) (p : Pattern) : Except Pattern Library :=
  match h : library.get? p.uuid with
  | some holder => .error holder
  | none => .ok ⟨library.patterns ++ [p], by
      have fresh := get?_eq_none_iff.1 h
      rw [List.map_append]
      refine List.nodup_append.2 ⟨library.distinct, by simp, ?_⟩
      intro a ha b hb
      simp only [List.map_cons, List.map_nil, List.mem_singleton] at hb
      subst hb
      exact fun e => fresh (e ▸ ha)⟩

theorem add_eq_ok_iff {library extended : Library} {p : Pattern} :
    library.add p = .ok extended ↔
      library.get? p.uuid = none ∧ extended.patterns = library.patterns ++ [p] := by
  unfold add
  split
  · rename_i holder h
    simp [h]
  · rename_i h
    simp only [Except.ok.injEq, h, true_and]
    constructor
    · intro e
      rw [← e]
    · intro e
      cases extended
      cases e
      rfl

theorem add_eq_error_iff {library : Library} {p holder : Pattern} :
    library.add p = .error holder ↔ library.get? p.uuid = some holder := by
  unfold add
  split
  · rename_i found h
    simp [h]
  · rename_i h
    simp [h]

/-- The library of a list of patterns, or the first pattern whose UUID an earlier one has. -/
def ofList (patterns : List Pattern) : Except Pattern Library :=
  patterns.foldlM (fun library p => (library.add p).mapError fun _ => p) empty

end Library

end LogTemplate
