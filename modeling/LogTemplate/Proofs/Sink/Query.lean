import LogTemplate.Proofs.Sink.Database

/-!
# Queries to tables of entries

Main statements: a query without conditions gives the cells of all rows, ordered by their line
numbers, and every query gives cells of rows.
-/

namespace LogTemplate.Sink

open Definition (sameName)

section

variable {ε α β : Type} {f : α → Except ε Bool} {l found : List α}

theorem filterM_map {γ : Type} {f : α → Except ε Bool} {g : γ → α} {p : γ → Bool} {l : List γ}
    (all : ∀ c ∈ l, f (g c) = .ok (p c)) : (l.map g).filterM f = .ok ((l.filter p).map g) := by
  have gathered : ∀ seen,
      (l.map g).filterAuxM f seen = .ok (((l.filter p).map g).reverse ++ seen) := by
    induction l with
    | nil => exact fun _ => rfl
    | cons c l ih =>
      intro seen
      rw [List.forall_mem_cons] at all
      rw [List.map_cons, List.filterAuxM, all.1, ok_bind, ih all.2]
      cases here : p c <;> simp [here]
  rw [List.filterM, gathered, ok_bind, List.append_nil, List.reverse_reverse]
  rfl

theorem subset_of_filterM (filtered : l.filterM f = .ok found) : found ⊆ l := by
  have gathered : ∀ {seen found}, l.filterAuxM f seen = .ok found → found ⊆ l ++ seen := by
    clear filtered
    induction l with
    | nil =>
      intro seen found same
      obtain rfl := Except.ok.inj same
      exact List.Subset.refl _
    | cons a l ih =>
      intro seen found same
      obtain ⟨b, _, rest⟩ := bind_eq_ok_iff.mp same
      refine List.Subset.trans (ih rest) ?_
      cases b
      · exact fun b member => List.mem_cons_of_mem a member
      · exact List.perm_middle.subset
  obtain ⟨kept, same, reversed⟩ := bind_eq_ok_iff.mp filtered
  obtain rfl := Except.ok.inj reversed
  intro a member
  simpa using gathered same (List.mem_reverse.mp member)

theorem mapM_eq_map {g : α → Except ε β} {h : α → β} (all : ∀ a ∈ l, g a = .ok (h a)) :
    l.mapM g = .ok (l.map h) := by
  induction l with
  | nil => rfl
  | cons a l ih =>
    rw [List.mapM_cons, all a List.mem_cons_self, ok_bind,
      ih fun b member => all b (List.mem_cons_of_mem a member)]
    rfl

end

namespace Wanted

variable {d : Database} {table : String} {t : Table}

theorem values_items (entries : t.definition = .entries) (s : Scope) (name : String) {row : Row}
    (whole : ∃ cells, row.cells = .integer row.id :: cells ∧ cells.length = 8) :
    Expression.values (s.within (t.relation.binding name row)) items = .ok row.entryCells := by
  obtain ⟨cells, shape, length⟩ := whole
  match cells, length with
  | [a, b, c, d, e, f, g, h], _ =>
    rw [Row.entryCells, shape, List.tail_cons]
    simp [items, Definition.entryColumns, Expression.values, Expression.value, Scope.within,
      Scope.find?, Relation.binding, Binding.find?, Table.relation, entries, Definition.entries,
      shape, sameName]
    rfl

theorem keys_entries (made : d.IsMade) (entries : t.definition = .entries) {key : Key}
    (member : key ∈ t.definition.keys ++ (d.indexesTo t.name).map Index.key) :
    key = Table.hashKey ∨ key = Database.uuidKey := by
  rcases List.mem_append.mp member with own | other
  · rw [entries] at own
    exact .inl (List.mem_singleton.mp own)
  · obtain ⟨i, known, rfl⟩ := List.mem_map.mp other
    exact .inr (made.indexes i (List.mem_of_mem_filter known)).2

/-- Without conditions no index is of use: none starts with the line number. -/
theorem way?_empty (made : d.IsMade) (entries : t.definition = .entries) :
    way? {} d t = none := by
  have free : isColumn t (fixes {}) = fun _ => false := by
    funext term
    rw [isColumn]
    split <;> simp [fixes, columns]
  have order : t.definition.order = [] := by
    rw [entries]
    rfl
  have useless : ∀ name, sameName "line_number" name = false →
      (0 < (wayAlong {} t { terms := [Definition.term name] }).fixed
        || (wayAlong {} t { terms := [Definition.term name] }).isByLine) = false := by
    intro name other
    simp [wayAlong, free, Term.extend, order, isColumn, Definition.term, other]
  rw [way?, List.filter_eq_nil_iff.mpr]
  · rfl
  · intro way member
    obtain ⟨key, known, rfl⟩ := List.mem_map.mp member
    rcases keys_entries made entries (List.mem_of_mem_filter (List.mem_reverse.mp known)) with
      rfl | rfl
    · exact Bool.eq_false_iff.mp (useless "content_hash" (by decide))
    · exact Bool.eq_false_iff.mp (useless "uuid" (by decide))

theorem passage_perm (w : Wanted) (d : Database) (t : Table) : (passage w d t).Perm t.rows := by
  rw [passage]
  split
  · exact List.Perm.refl _
  · refine (List.mergeSort_perm _ _).trans ?_
    split
    · exact List.reverse_perm _
    · exact List.Perm.refl _

/-- The cells of the rows that meet the conditions are found, ordered by their line numbers. -/
theorem select_eq {w : Wanted} {p : Row → Bool} (made : d.IsMade)
    (found : d.table? table = some t) (holds : ∀ row ∈ t.rows,
      Expression.holds (d.scope.within (t.relation.binding table row)) w.condition =
        .ok (p row)) :
    select w d table =
      .ok ((((passage w d t).filter p).map Row.entryCells).mergeSort
        (isUpToLine .utf8 .binary)) := by
  have own := made.tables t (Database.mem_of_table? found)
  have passed : ∀ row ∈ passage w d t, row ∈ t.rows := fun row => (passage_perm w d t).mem_iff.mp
  have columns : t.relation.columns = Definition.entries.columns := by
    rw [Table.relation, own.definition]
  have collation : ((Definition.entries.columns.find? (sameName ·.name "line_number")).map
      Column.collation).getD .binary = .binary := by decide
  have kept : ((passage w d t).map fun row =>
      d.scope.within (t.relation.binding table row)).filterM
        (fun scope => Expression.holds scope w.condition) =
      .ok (((passage w d t).filter p).map fun row =>
        d.scope.within (t.relation.binding table row)) :=
    filterM_map fun row member => holds row (passed row member)
  have cells : (((passage w d t).filter p).map fun row =>
      d.scope.within (t.relation.binding table row)).mapM
        (fun scope => Expression.values scope items) =
      .ok (((passage w d t).filter p).map Row.entryCells) := by
    rw [List.mapM_map]
    exact mapM_eq_map fun row member =>
      values_items own.definition d.scope table
        (own.whole row (passed row (List.mem_of_mem_filter member)))
  rw [select, found]
  simp only [ok_bind]
  refine bind_eq_ok_iff.mpr ⟨_, kept, bind_eq_ok_iff.mpr ⟨_, cells, ?_⟩⟩
  show Except.ok _ = _
  rw [columns, collation, made.form]

/-- Without conditions the cells of all rows are found, ordered by their line numbers. -/
theorem select_empty (made : d.IsMade) (found : d.table? table = some t) :
    select {} d table =
      .ok ((t.rows.map Row.entryCells).mergeSort (isUpToLine .utf8 .binary)) := by
  have own := made.tables t (Database.mem_of_table? found)
  have passed : passage {} d t = t.rows := by
    rw [passage, way?_empty made own.definition]
  rw [select_eq (p := fun _ => true) made found fun _ _ => rfl, passed, List.filter_true]

/-- Whatever the conditions, the cells that are found are those of rows. -/
theorem exists_row_of_select {w : Wanted} {cells : List (List Cell)} (made : d.IsMade)
    (found : d.table? table = some t) (selected : select w d table = .ok cells) :
    ∀ c ∈ cells, ∃ row ∈ t.rows, c = row.entryCells := by
  have own := made.tables t (Database.mem_of_table? found)
  rw [select, found] at selected
  simp only [ok_bind] at selected
  obtain ⟨kept, filtered, rest⟩ := bind_eq_ok_iff.mp selected
  obtain ⟨given, taken, sorted⟩ := bind_eq_ok_iff.mp rest
  obtain rfl := Except.ok.inj sorted
  have known := subset_of_filterM filtered
  have values : kept.mapM (fun scope => Expression.values scope items) =
      .ok (kept.map fun scope => (scope.bindings.head?.map fun b => b.row.entryCells).getD []) := by
    refine mapM_eq_map fun scope member => ?_
    obtain ⟨row, inside, rfl⟩ := List.mem_map.mp (known member)
    exact values_items own.definition d.scope table
      (own.whole row ((passage_perm w d t).mem_iff.mp inside))
  obtain rfl := Except.ok.inj (taken.symm.trans values)
  intro c member
  rw [List.mem_mergeSort] at member
  obtain ⟨scope, inside, rfl⟩ := List.mem_map.mp member
  obtain ⟨row, passed, rfl⟩ := List.mem_map.mp (known inside)
  exact ⟨row, (passage_perm w d t).mem_iff.mp passed, rfl⟩

end Wanted

end LogTemplate.Sink
