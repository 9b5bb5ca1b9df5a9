import Mathlib.Data.List.Nodup
import Mathlib.Data.List.Perm.Subperm
import LogTemplate.OrderedMap

/-!
# Pairs laid over a map

Main statements: setting a list of pairs whose keys are distinct leaves the keys of the map where
they are, with the new values where there are some, and puts the other pairs behind them; maps agree
exactly if they have the same values.
-/

namespace LogTemplate.OrderedMap

variable {α : Type}

/-- Entries with pairs laid over them: every entry keeps its place and takes the value that the
pairs give its key, and the pairs with other keys follow in their order. -/
def overlay (entries pairs : List (Text × α)) : List (Text × α) :=
  entries.map (fun e => (e.1, (lookup e.1 pairs).getD e.2))
    ++ pairs.filter fun p => decide (p.1 ∉ entries.map Prod.fst)

theorem lookup_eq_none_iff {κ : Type} [DecidableEq κ] {key : κ} {pairs : List (κ × α)} :
    lookup key pairs = none ↔ key ∉ pairs.map Prod.fst := by
  induction pairs with
  | nil => simp [lookup]
  | cons p rest ih =>
    obtain ⟨k, v⟩ := p
    rw [lookup, List.map_cons, List.mem_cons, not_or]
    by_cases same : k = key
    · simp [same]
    · rw [if_neg same, ih]
      exact (and_iff_right (Ne.symm same)).symm

theorem set_of_mem {key : Text} {value : α} {entries : List (Text × α)}
    (distinct : (entries.map Prod.fst).Nodup) (present : key ∈ entries.map Prod.fst) :
    set key value entries = entries.map fun e => (e.1, if e.1 = key then value else e.2) := by
  induction entries with
  | nil => cases present
  | cons e rest ih =>
    obtain ⟨k, v⟩ := e
    rw [List.map_cons, List.nodup_cons] at distinct
    by_cases same : k = key
    · have others : ∀ e ∈ rest, (e.1, if e.1 = key then value else e.2) = e := by
        intro e member
        have different : e.1 ≠ key := by
          intro equal
          exact distinct.1 (List.mem_map.mpr ⟨e, member, equal.trans same.symm⟩)
        rw [if_neg different]
      rw [set, if_pos same, List.map_cons, List.map_congr_left others, List.map_id', if_pos same]
    · have later : key ∈ rest.map Prod.fst := by
        rcases List.mem_cons.mp present with first | later
        · exact absurd first.symm same
        · exact later
      rw [set, if_neg same, List.map_cons, ih distinct.2 later, if_neg same]

theorem set_of_not_mem {key : Text} {value : α} {entries : List (Text × α)}
    (absent : key ∉ entries.map Prod.fst) : set key value entries = entries ++ [(key, value)] := by
  induction entries with
  | nil => rfl
  | cons e rest ih =>
    obtain ⟨k, v⟩ := e
    rw [List.map_cons, List.mem_cons, not_or] at absent
    rw [set, if_neg (Ne.symm absent.1), ih absent.2, List.cons_append]

/-- A pair laid over entries is set in them before the pairs that follow. -/
theorem overlay_cons {key : Text} {value : α} {entries pairs : List (Text × α)}
    (distinct : (entries.map Prod.fst).Nodup) (fresh : key ∉ pairs.map Prod.fst) :
    overlay entries ((key, value) :: pairs) = overlay (set key value entries) pairs := by
  have unset : lookup key pairs = none := lookup_eq_none_iff.mpr fresh
  by_cases present : key ∈ entries.map Prod.fst
  · have keys : (set key value entries).map Prod.fst = entries.map Prod.fst := by
      rw [keys_set, if_pos present]
    rw [overlay, overlay, keys, set_of_mem distinct present, List.map_map]
    congr 1
    · apply List.map_congr_left
      intro e _
      by_cases same : e.1 = key
      · simp [lookup, same, unset]
      · simp [lookup, same, Ne.symm same]
    · simp [present]
  · have keys : (set key value entries).map Prod.fst = entries.map Prod.fst ++ [key] := by
      rw [keys_set, if_neg present]
    have others : pairs.filter (fun p => decide (p.1 ∉ entries.map Prod.fst ++ [key]))
        = pairs.filter fun p => decide (p.1 ∉ entries.map Prod.fst) := by
      apply List.filter_congr
      intro p member
      have different : p.1 ≠ key := by
        rintro rfl
        exact fresh (List.mem_map_of_mem member)
      simp [different]
    have kept : ∀ e ∈ entries, (lookup e.1 ((key, value) :: pairs)).getD e.2
        = (lookup e.1 pairs).getD e.2 := by
      intro e member
      have different : key ≠ e.1 := by
        rintro rfl
        exact present (List.mem_map_of_mem member)
      rw [lookup, if_neg different]
    rw [overlay, overlay, keys, others, set_of_not_mem present, List.map_append,
      List.map_congr_left fun e member => congrArg (Prod.mk e.1) (kept e member)]
    simp [present, unset]

/-- Setting pairs whose keys are distinct lays them over the map. -/
theorem entries_insertAll {m : OrderedMap α} {pairs : List (Text × α)}
    (distinct : (pairs.map Prod.fst).Nodup) :
    (m.insertAll pairs).entries = overlay m.entries pairs := by
  induction pairs generalizing m with
  | nil => simp [insertAll, overlay, lookup]
  | cons p rest ih =>
    obtain ⟨key, value⟩ := p
    rw [List.map_cons, List.nodup_cons] at distinct
    rw [overlay_cons m.nodup distinct.1]
    exact ih distinct.2

/-- What is laid over a map is what is found in it, and then what the map had. -/
theorem get?_insertAll {m : OrderedMap α} {pairs : List (Text × α)}
    (distinct : (pairs.map Prod.fst).Nodup) (key : Text) :
    (m.insertAll pairs).get? key = (lookup key pairs).or (m.get? key) := by
  induction pairs generalizing m with
  | nil => simp [insertAll, lookup]
  | cons p rest ih =>
    obtain ⟨k, v⟩ := p
    rw [List.map_cons, List.nodup_cons] at distinct
    have step : m.insertAll ((k, v) :: rest) = (m.insert k v).insertAll rest := rfl
    rw [step, ih distinct.2, get?_insert, lookup]
    by_cases same : k = key
    · subst same
      have unset : lookup k rest = none := lookup_eq_none_iff.mpr distinct.1
      simp [unset]
    · simp [same, Ne.symm same]

/-! ## Maps that agree -/

theorem lookup_eq_some_iff {κ : Type} [DecidableEq κ] {key : κ} {value : α}
    {entries : List (κ × α)}
    (distinct : (entries.map Prod.fst).Nodup) :
    lookup key entries = some value ↔ (key, value) ∈ entries := by
  induction entries with
  | nil => simp [lookup]
  | cons e rest ih =>
    obtain ⟨k, v⟩ := e
    rw [List.map_cons, List.nodup_cons] at distinct
    rw [lookup, List.mem_cons, Prod.mk.injEq]
    by_cases same : k = key
    · have once : (key, value) ∉ rest := by
        intro later
        exact distinct.1 (List.mem_map.mpr ⟨_, later, same.symm⟩)
      rw [if_pos same, Option.some.injEq, eq_comm (a := v)]
      exact ⟨fun equal => .inl ⟨same.symm, equal⟩, fun found => (found.resolve_right once).2⟩
    · rw [if_neg same, ih distinct.2]
      exact (or_iff_right fun found => same found.1.symm).symm

/-- Maps agree exactly if they have the same values, whatever the order of their keys. -/
theorem agrees_iff [DecidableEq α] {m n : OrderedMap α} :
    m.agrees n = true ↔ ∀ key, m.get? key = n.get? key := by
  have shared : (∀ key, m.get? key = n.get? key) ↔ ∀ e, e ∈ m.entries ↔ e ∈ n.entries := by
    simp only [Option.ext_iff, get?, lookup_eq_some_iff m.nodup, lookup_eq_some_iff n.nodup,
      Prod.forall]
  have included : (m.entries.all fun e => n.get? e.1 == some e.2) = true ↔
      m.entries ⊆ n.entries := by
    simp only [List.all_eq_true, beq_iff_eq, get?, lookup_eq_some_iff n.nodup]
    rfl
  have own : m.entries.Nodup := List.Nodup.of_map Prod.fst m.nodup
  have other : n.entries.Nodup := List.Nodup.of_map Prod.fst n.nodup
  rw [agrees, Bool.and_eq_true, beq_iff_eq, included, shared,
    ← List.perm_ext_iff_of_nodup own other]
  constructor
  · rintro ⟨length, subset⟩
    exact (List.subperm_of_subset own subset).perm_of_length_le (Nat.le_of_eq length.symm)
  · intro same
    exact ⟨same.length_eq, same.subset⟩

/-- The map of pairs whose keys are distinct has these pairs. -/
theorem entries_ofList {pairs : List (Text × α)} (distinct : (pairs.map Prod.fst).Nodup) :
    (ofList pairs).entries = pairs := by
  rw [ofList, entries_insertAll distinct]
  simp [overlay, empty]

end LogTemplate.OrderedMap
