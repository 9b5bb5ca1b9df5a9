import LogTemplate.Proofs.Refusing
import LogTemplate.Sink.Change
import Mathlib.Data.List.TakeWhile

/-!
# Tables of entries

A table that a sink has made keeps each entry in a row of its own, in the order in which they came.
Main statement: to add an entry to such a table is to put a row behind the others, unless there is
one with its hash.
-/

namespace LogTemplate.Sink

open Definition (sameName)

/-- The cells of a row of a table of entries, but for its number. -/
def Row.entryCells (row : Row) : List Cell := row.cells.tail

namespace Table

/-- What the columns of a table of entries make of the cells that are given for them. -/
def stored (cells : List Cell) : List Cell :=
  (Definition.entries.columns.tail.zip cells).map fun (c, cell) => c.affinity.apply cell

/-- The cell of a row that holds the hash of its entry. -/
def hashCell (row : Row) : Cell := row.cells[8]?.getD .null

/-- Whether one of some rows has a hash; none has nothing for one. -/
def hasHash (rows : List Row) (hash : Cell) : Bool :=
  !hash.isNull && rows.any fun row => hash.same .utf8 .binary (hashCell row)

/-- The row of a number that holds given cells. -/
def entryRow (id : Int) (cells : List Cell) : Row := ⟨id, .integer id :: stored cells⟩

/-- A table with an entry of given cells, which goes by unless its hash is new.  A number is used up
for it in either case. -/
def keep (t : Table) (cells : List Cell) : Table :=
  let row := entryRow (t.lastId + 1) cells
  { t with
    lastId := t.lastId + 1
    rows := if hasHash t.rows (hashCell row) then t.rows else t.rows ++ [row] }

/-- A table as sinks make it: its rows have ascending numbers, the last of which is kept. -/
structure IsOfEntries (t : Table) : Prop where
  definition : t.definition = .entries
  sound : t.isBroken = false
  whole : ∀ row ∈ t.rows, ∃ cells, row.cells = .integer row.id :: cells ∧ cells.length = 8
  ascending : t.rows.Pairwise fun a b => a.id < b.id
  counted : ∀ row ∈ t.rows, row.id ≤ t.lastId
  started : 0 ≤ t.lastId

variable {t : Table}

/-- The row that is made of cells for all columns of entries. -/
theorem fill_entries (entries : t.definition = .entries) (s : Scope) (id : Int)
    {cells : List Cell} (whole : cells.length = 8) :
    t.fill s id (Definition.entryColumns.zip cells) = .ok (entryRow id cells) := by
  obtain ⟨a, b, c, d, e, f, g, h, rfl⟩ :
      ∃ a b c d e f g h, cells = [a, b, c, d, e, f, g, h] := by
    match cells, whole with
    | [a, b, c, d, e, f, g, h], _ => exact ⟨a, b, c, d, e, f, g, h, rfl⟩
  have filled : t.definition.columns.mapM
      (t.fillCell s id (Definition.entryColumns.zip [a, b, c, d, e, f, g, h])) =
        .ok (.integer id :: stored [a, b, c, d, e, f, g, h]) := by
    rw [entries]
    simp [fillCell, isIdColumn, given?, sameName, Definition.entries, entries,
      Definition.entryColumns, stored, List.mapM_cons, List.mapM_nil]
    rfl
  have plain : t.definition.columns.any (·.generated.isSome) = false := by
    rw [entries]
    rfl
  rw [fill, filled]
  simp [complete, plain, bind, Except.bind, entryRow]
  rfl

theorem given?_id {cells : List Cell} (whole : cells.length = 8) :
    given? (Definition.entryColumns.zip cells) "id" = none := by
  match cells, whole with
  | [_, _, _, _, _, _, _, _], _ => simp [given?, sameName, Definition.entryColumns]

/-- The key of a table of entries. -/
def hashKey : Key := { terms := [Definition.term "content_hash"] }

theorem anyM_eq_any {ε α : Type} {f : α → Except ε Bool} {p : α → Bool} {l : List α}
    (same : ∀ a, f a = .ok (p a)) : l.anyM f = .ok (l.any p) := by
  induction l with
  | nil => rfl
  | cons a l ih =>
    rw [List.anyM, same, ih, List.any_cons]
    cases p a <;> rfl

/-- A row clashes with others by the key of a table of entries exactly if one has its hash. -/
theorem clashes_hashKey (entries : t.definition = .entries) {s : Scope} (form : s.form = .utf8)
    (others : List Row) (row : Row) :
    t.clashes s others row hashKey = .ok (hasHash others (hashCell row)) := by
  have eighth : t.position? (Definition.term "content_hash") = some 8 := by
    rw [position?, entries]
    decide
  have same : ∀ other, (do
      if ← t.hasCells s other [(Definition.term "content_hash", some 8)] [hashCell row] then
        t.isUnder s hashKey other else return false) =
      (.ok ((hashCell row).same .utf8 .binary (hashCell other)) : Except Signal Bool) := by
    intro other
    have cell : t.termCell s (Definition.term "content_hash") (some 8) other =
        .ok (hashCell other) := rfl
    have collation : (Definition.term "content_hash").collation = .binary := rfl
    rw [hasCells, cell, form, collation]
    cases equal : (hashCell row).same .utf8 .binary (hashCell other) <;>
      simp [bind, Except.bind, pure, Except.pure, equal, hasCells, isUnder, hashKey]
  have cells : List.mapM (fun (e : Term × Option Nat) => t.termCell s e.1 e.2 row)
      [(Definition.term "content_hash", some 8)] = .ok [hashCell row] := rfl
  have under : t.isUnder s hashKey row = .ok true := rfl
  have terms : hashKey.terms = [Definition.term "content_hash"] := rfl
  rw [clashes, terms]
  simp only [List.map_cons, List.map_nil, eighth, cells, under, ok_bind]
  cases nothing : (hashCell row).isNull
  · simp [nothing, anyM_eq_any same, hasHash]
  · simp [nothing, hasHash, pure, Except.pure]

/-- The number of the next row of a table of entries. -/
theorem nextId?_entries (made : t.IsOfEntries) :
    t.nextId? = if t.lastId < greatestId then some (t.lastId + 1) else none := by
  have counted : t.definition.isCounted = true := by
    rw [made.definition]
    rfl
  have bounded : ∀ (rows : List Row) (n : Int), n ≤ t.lastId → (∀ row ∈ rows, row.id ≤ t.lastId) →
      rows.foldl (fun n row => max n row.id) n ≤ t.lastId := by
    intro rows
    induction rows with
    | nil => exact fun n below _ => below
    | cons row rows ih =>
      intro n below all
      exact ih _ (Int.max_le.mpr ⟨below, all row List.mem_cons_self⟩)
        fun other member => all other (List.mem_cons_of_mem row member)
  have first : (if t.rows.isEmpty then 0 else minInteger) ≤ t.lastId := by
    have started := made.started
    split
    · exact started
    · exact Int.le_trans (by decide) started
  have last := Int.max_eq_left (bounded t.rows _ first made.counted)
  rw [nextId?]
  simp only [counted, if_true, last]

/-- A row with a number that is greater than all is put behind the others. -/
theorem place_entries (entries : t.definition = .entries) {row : Row}
    (above : ∀ other ∈ t.rows, other.id < row.id) (form : TextForm) :
    t.place form row = { t with rows := t.rows ++ [row] } := by
  have numbered : t.definition.isNumbered = true := by
    rw [entries]
    rfl
  have before : ∀ other ∈ t.rows, t.precedes form other row = true := by
    intro other member
    simpa [precedes, numbered] using above other member
  rw [place, List.takeWhile_eq_self_iff.mpr before, List.dropWhile_eq_nil_iff.mpr before]

/-- The number of a row is noted: it is the last one. -/
theorem count_entries (entries : t.definition = .entries) {id : Int} (later : t.lastId ≤ id) :
    t.count id = { t with lastId := id } := by
  have counted : t.definition.isCounted = true := by
    rw [entries]
    rfl
  rw [count, if_pos counted, Int.max_eq_right later]

theorem count_name (t : Table) (id : Int) : (t.count id).name = t.name := by
  rw [count]
  split <;> rfl

theorem length_stored {cells : List Cell} (whole : cells.length = 8) :
    (stored cells).length = 8 := by
  rw [stored, List.length_map, List.length_zip, whole]
  rfl

theorem isOfEntries_keep (made : t.IsOfEntries) {cells : List Cell} (whole : cells.length = 8) :
    (t.keep cells).IsOfEntries where
  definition := made.definition
  sound := made.sound
  whole := by
    intro row member
    rw [keep] at member
    simp only at member
    split at member
    · exact made.whole row member
    · rcases List.mem_append.mp member with known | alone
      · exact made.whole row known
      · rw [List.mem_singleton] at alone
        rw [alone]
        exact ⟨stored cells, rfl, length_stored whole⟩
  ascending := by
    rw [keep]
    simp only
    split
    · exact made.ascending
    · refine List.pairwise_append.mpr ⟨made.ascending, List.pairwise_singleton _ _, ?_⟩
      intro row member new alone
      rw [List.mem_singleton] at alone
      rw [alone, entryRow]
      exact Int.lt_add_one_of_le (made.counted row member)
  counted := by
    intro row member
    have old : ∀ row ∈ t.rows, row.id ≤ t.lastId + 1 := fun row member =>
      Int.le_trans (made.counted row member) (Int.le_add_one (Int.le_refl _))
    rw [keep] at member ⊢
    simp only at member ⊢
    split at member
    · exact old row member
    · rcases List.mem_append.mp member with known | alone
      · exact old row known
      · rw [List.mem_singleton] at alone
        exact Int.le_of_eq (congrArg Row.id alone)
  started := Int.le_trans made.started (Int.le_add_one (Int.le_refl _))

/-! ## Entry after entry -/

/-- A table with entries of given cells, one after the other. -/
def keepAll (t : Table) (rows : List (List Cell)) : Table := rows.foldl keep t

@[simp] theorem keepAll_nil (t : Table) : t.keepAll [] = t := rfl

@[simp] theorem keepAll_cons (t : Table) (cells : List Cell) (rows : List (List Cell)) :
    t.keepAll (cells :: rows) = (t.keep cells).keepAll rows := rfl

theorem keepAll_append (t : Table) (rows more : List (List Cell)) :
    t.keepAll (rows ++ more) = (t.keepAll rows).keepAll more := List.foldl_append

@[simp] theorem name_keepAll (t : Table) (rows : List (List Cell)) :
    (t.keepAll rows).name = t.name := by
  induction rows generalizing t with
  | nil => rfl
  | cons cells rows ih => exact ih (t.keep cells)

/-- A row of a table to which entries were added is an old one, or holds one of them. -/
theorem mem_or_entryCells_mem_keepAll {t : Table} {rows : List (List Cell)} {row : Row}
    (inside : row ∈ (t.keepAll rows).rows) :
    row ∈ t.rows ∨ row.entryCells ∈ rows.map stored := by
  induction rows generalizing t with
  | nil => exact .inl inside
  | cons cells rows ih =>
    rw [List.map_cons, List.mem_cons]
    rcases ih inside with known | new
    · rw [keep] at known
      dsimp only at known
      split at known
      · exact .inl known
      · rcases List.mem_append.mp known with old | alone
        · exact .inl old
        · rw [List.mem_singleton] at alone
          exact .inr (.inl (congrArg Row.entryCells alone))
    · exact .inr (.inr new)

/-- Every entry uses up a number. -/
theorem lastId_keepAll (t : Table) (rows : List (List Cell)) :
    (t.keepAll rows).lastId = t.lastId + rows.length := by
  induction rows generalizing t with
  | nil => simp
  | cons cells rows ih =>
    rw [keepAll_cons, ih, keep, List.length_cons]
    push_cast
    omega

theorem isOfEntries_keepAll (made : t.IsOfEntries) {rows : List (List Cell)}
    (whole : ∀ cells ∈ rows, cells.length = 8) : (t.keepAll rows).IsOfEntries := by
  induction rows generalizing t with
  | nil => exact made
  | cons cells rows ih =>
    exact ih (isOfEntries_keep made (whole cells List.mem_cons_self))
      fun other member => whole other (List.mem_cons_of_mem cells member)

/-! ## Emptying a table -/

/-- A table without rows.  The numbers that they had are not given again. -/
def emptied (t : Table) : Table := { t with rows := [] }

theorem isOfEntries_emptied (made : t.IsOfEntries) : t.emptied.IsOfEntries where
  definition := made.definition
  sound := made.sound
  whole := fun _ member => absurd member (by simp [emptied])
  ascending := List.Pairwise.nil
  counted := fun _ member => absurd member (by simp [emptied])
  started := made.started

theorem remove_entries (entries : t.definition = .entries) (form : TextForm) (row : Row) :
    t.remove form row = { t with rows := t.rows.filter fun other => other.id != row.id } := by
  have numbered : t.definition.isNumbered = true := by
    rw [entries]
    rfl
  have same : ∀ other : Row, (!t.isSamePlace form other row) = (other.id != row.id) := by
    intro other
    rw [Bool.eq_iff_iff]
    simp only [isSamePlace, precedes, numbered, if_true, Bool.not_eq_true', Bool.and_eq_false_iff,
      Bool.not_eq_false', decide_eq_true_eq, bne_iff_ne]
    omega
  simp only [remove, same]

/-- Nothing is left once all rows are removed one by one. -/
theorem foldl_remove_entries (entries : t.definition = .entries) {form : TextForm}
    {rows : List Row} (all : ∀ row ∈ t.rows, row ∈ rows) :
    rows.foldl (fun t row => t.remove form row) t = t.emptied := by
  induction rows generalizing t with
  | nil =>
    have none : t.rows = [] := List.eq_nil_iff_forall_not_mem.mpr fun row member => by
      simpa using all row member
    rw [List.foldl_nil, emptied, ← none]
  | cons row rows ih =>
    rw [List.foldl_cons, remove_entries entries, ih]
    · rfl
    · exact entries
    · intro other member
      rw [List.mem_filter] at member
      refine (List.mem_cons.mp (all other member.1)).resolve_left ?_
      rintro rfl
      simp at member

end Table

end LogTemplate.Sink
