import LogTemplate.Proofs.Sink.Table
import LogTemplate.Sink.Session
import Mathlib.Data.List.Nodup

/-!
# Databases that sinks have made

Main statements: what it does to such a database to add an entry to one of its tables, and to empty
one.
-/

namespace LogTemplate.Sink

open Definition (sameName)

/-- What a name is told by: the case of its letters makes no difference. -/
def caseless (name : String) : List Char := name.toList.map Char.toLower

theorem sameName_iff {a b : String} : sameName a b = true ↔ caseless a = caseless b := by
  rw [sameName, beq_iff_eq, caseless, caseless]

namespace Database

/-- The key of the index that a sink makes. -/
def uuidKey : Key := { terms := [Definition.term "uuid"] }

/-- A database that holds nothing but what sinks make: tables of entries and indexes by UUIDs. -/
structure IsMade (d : Database) : Prop where
  views : d.views = []
  triggers : d.triggers = []
  form : d.form = .utf8
  isReadOnly : d.isReadOnly = false
  keepsLog : d.keepsLog = false
  isLogged : d.isLogged = false
  pageSize : d.pageSize = 4096
  tables : ∀ t ∈ d.tables, t.IsOfEntries
  distinct : (d.tables.map fun t => caseless t.name).Nodup
  indexes : ∀ i ∈ d.indexes, i.isUnique = false ∧ i.key = uuidKey

variable {d : Database} {table : String} {t : Table}

theorem isMade_empty : IsMade {} where
  views := rfl
  triggers := rfl
  form := rfl
  isReadOnly := rfl
  keepsLog := rfl
  isLogged := rfl
  pageSize := rfl
  tables := fun _ member => absurd member (by simp)
  distinct := List.nodup_nil
  indexes := fun _ member => absurd member (by simp)

/-! ## Tables by name -/

theorem isNamed_iff : isNamed table t = true ↔ caseless t.name = caseless table := sameName_iff

theorem isNamed_of_table? (found : d.table? table = some t) : isNamed table t = true :=
  List.find?_some found

theorem mem_of_table? (found : d.table? table = some t) : t ∈ d.tables :=
  List.mem_of_find?_eq_some found

theorem isNamed_congr {name other : String} (same : sameName name other = true) :
    isNamed name = isNamed other := by
  funext t
  rw [Bool.eq_iff_iff, isNamed_iff, isNamed_iff, sameName_iff.mp same]

theorem table?_congr {name other : String} (same : sameName name other = true) :
    d.table? name = d.table? other := by
  rw [table?, table?, isNamed_congr same]

theorem modify_congr {name other : String} (same : sameName name other = true)
    (f : Table → Table) : d.modify name f = d.modify other f := by
  rw [modify, modify, isNamed_congr same]

/-- No two tables have the same name. -/
theorem eq_of_isNamed (made : d.IsMade) (found : d.table? table = some t) {other : Table}
    (member : other ∈ d.tables) (named : isNamed table other = true) : other = t := by
  have names : caseless other.name = caseless t.name :=
    (isNamed_iff.mp named).trans (isNamed_iff.mp (isNamed_of_table? found)).symm
  exact List.inj_on_of_nodup_map made.distinct member (mem_of_table? found) names

/-- Changes that come to the same for the table of a name come to the same for the database. -/
theorem modify_eq_modify (made : d.IsMade) (found : d.table? table = some t) {f g : Table → Table}
    (same : f t = g t) : d.modify table f = d.modify table g := by
  have tables : ∀ other ∈ d.tables, (if isNamed table other then f other else other) =
      if isNamed table other then g other else other := by
    intro other member
    split
    · rename_i named
      rw [eq_of_isNamed made found member named, same]
    · rfl
  rw [modify, modify, List.map_congr_left tables]

theorem isNamed_of_keeps {f : Table → Table} (keeps : ∀ t, (f t).name = t.name) (t : Table)
    (name : String) : isNamed name (if isNamed table t then f t else t) = isNamed name t := by
  split
  · rw [isNamed, isNamed, keeps]
  · rfl

theorem table?_modify {f : Table → Table} (keeps : ∀ t, (f t).name = t.name) (name : String) :
    (d.modify table f).table? name =
      (d.table? name).map fun t => if isNamed table t then f t else t := by
  rw [table?, table?, modify, List.find?_map]
  exact congrArg _ (congrArg (List.find? · d.tables)
    (funext fun t => isNamed_of_keeps keeps t name))

theorem table?_modify_self (found : d.table? table = some t) {f : Table → Table}
    (keeps : ∀ t, (f t).name = t.name) : (d.modify table f).table? table = some (f t) := by
  rw [table?_modify keeps, found, Option.map_some, if_pos (isNamed_of_table? found)]

theorem modify_modify {f : Table → Table} (keeps : ∀ t, (f t).name = t.name)
    (g : Table → Table) :
    (d.modify table f).modify table g = d.modify table fun t => g (f t) := by
  simp only [modify, List.map_map]
  congr 1
  refine List.map_congr_left fun t _ => ?_
  rw [Function.comp_apply, isNamed_of_keeps keeps]
  split <;> rfl

/-- A database is still one that sinks have made when a table of it is changed to another one of
entries. -/
theorem isMade_modify (made : d.IsMade) {f : Table → Table} (keeps : ∀ t, (f t).name = t.name)
    (entries : ∀ t ∈ d.tables, isNamed table t = true → (f t).IsOfEntries) :
    (d.modify table f).IsMade where
  views := made.views
  triggers := made.triggers
  form := made.form
  isReadOnly := made.isReadOnly
  keepsLog := made.keepsLog
  isLogged := made.isLogged
  pageSize := made.pageSize
  tables := by
    intro t member
    obtain ⟨old, known, rfl⟩ := List.mem_map.mp member
    split
    · exact entries old known (by assumption)
    · exact made.tables old known
  distinct := by
    have names : (d.modify table f).tables.map (fun t => caseless t.name) =
        d.tables.map fun t => caseless t.name := by
      rw [modify, List.map_map]
      refine List.map_congr_left fun t _ => ?_
      rw [Function.comp_apply]
      split
      · rw [keeps]
      · rfl
    rw [names]
    exact made.distinct
  indexes := made.indexes

/-! ## Adding an entry -/

/-- A database without triggers does nothing by itself. -/
theorem reaction_eq (isLenient : Bool) (quiet : d.triggers = []) (start : Database) (time : Time)
    (event : Event) (name : String) (old new : Option Row) :
    Change.reaction isLenient start d time event name old new = .ok d := by
  rw [Change.reaction, Change.reactAt]
  simp only [quiet]
  rfl

theorem isAwaited_eq_false (quiet : d.triggers = []) (time : Time) (event : Event)
    (name : String) : d.isAwaited time event name = false := by
  rw [isAwaited, quiet]
  rfl

theorem unique_eq_nil (made : d.IsMade) (name : String) :
    (d.indexesTo name).filter Index.isUnique = [] := by
  rw [List.filter_eq_nil_iff]
  intro i member
  rw [(made.indexes i (List.mem_of_mem_filter member)).1]
  decide

/-- A row is admitted to a table of entries exactly if its hash is new there. -/
theorem admitted_entries (form : d.form = .utf8)
    (unique : (d.indexesTo t.name).filter Index.isUnique = [])
    (entries : t.definition = .entries) (id : Int) (cells : List Cell) (others : List Row)
    (above : ∀ row ∈ others, row.id < id) :
    Change.admitted true d t others (Table.entryRow id cells) =
      if Table.hasHash others (Table.hashCell (Table.entryRow id cells)) then .error (.ignored d)
      else .ok () := by
  have lacking : t.isLacking (Table.entryRow id cells) = false := by
    have optional : ∀ c ∈ Definition.entries.columns, c.isRequired = false := by decide
    rw [Table.isLacking, entries, List.any_eq_false]
    rintro ⟨c, cell⟩ member
    simp [optional c (List.of_mem_zip member).1]
  have mistyped : t.isMistyped (Table.entryRow id cells) = false := by
    rw [Table.isMistyped, entries]
    rfl
  have checks : t.definition.checks = [] := by
    rw [entries]
    rfl
  have fresh : others.any (·.id == (Table.entryRow id cells).id) = false := by
    rw [List.any_eq_false]
    intro row member same
    exact Int.ne_of_lt (above row member) (beq_iff_eq.mp same)
  have keys : t.definition.keys = [Table.hashKey] := by
    rw [entries]
    rfl
  have clashes := Table.clashes_hashKey entries (s := d.scope) form others
    (Table.entryRow id cells)
  rw [Change.admitted]
  simp only [lacking, mistyped, checks, keys, unique]
  generalize Table.entryRow id cells = row at fresh clashes ⊢
  simp [fresh, clashes, Change.valueIn, Change.refuse]
  cases Table.hasHash others (Table.hashCell row) <;> rfl

/-- No number is asked for where an entry is added. -/
theorem askedId_entries (made : d.IsMade) (found : d.table? table = some t) {cells : List Cell}
    (whole : cells.length = 8) :
    Change.askedId d t (Definition.entryColumns.zip cells) = .ok none := by
  have column : t.definition.idColumn = some "id" := by
    rw [(made.tables t (mem_of_table? found)).definition]
    rfl
  rw [Change.askedId, column, Option.bind_some, Table.given?_id whole]

/-- An entry gets the next number, and its row is ignored if its hash is there already. -/
theorem insertInto_entries (made : d.IsMade) (found : d.table? table = some t) {cells : List Cell}
    (whole : cells.length = 8) :
    Change.insertInto (Change.reaction true d) true d t (Definition.entryColumns.zip cells) =
      if t.lastId < Table.greatestId then
        if Table.hasHash t.rows (Table.hashCell (Table.entryRow (t.lastId + 1) cells)) then
          .error (.ignored (d.modify table (·.count (t.lastId + 1))))
        else .ok (d.modify table fun other => (other.count (t.lastId + 1)).place .utf8
          (Table.entryRow (t.lastId + 1) cells))
      else .error (.failed .full .abort d) := by
  have named : sameName t.name table = true := isNamed_of_table? found
  have self : d.table? t.name = some t := (table?_congr named).trans found
  have entries := made.tables t (mem_of_table? found)
  have filled := fun (d : Database) id => Table.fill_entries entries.definition d.scope id whole
  have next := Table.nextId?_entries entries
  rw [Change.insertInto, askedId_entries made found whole]
  simp only [ok_bind, filled, Change.valueIn, isAwaited_eq_false made.triggers,
    reaction_eq true made.triggers, self, Option.getD_some, Option.orElse_none]
  rw [if_neg (by simp)]
  by_cases room : t.lastId < Table.greatestId
  · rw [if_pos room] at next ⊢
    have above : ∀ row ∈ t.rows, row.id < t.lastId + 1 := fun row member =>
      Int.lt_add_one_of_le (entries.counted row member)
    have admitted := admitted_entries (d := d.modify t.name (·.count (t.lastId + 1)))
      made.form (unique_eq_nil made t.name) entries.definition (t.lastId + 1) cells t.rows above
    simp only [next, admitted]
    split
    · rw [modify_congr named]
      rfl
    · rw [modify_modify (fun _ => Table.count_name _ _), modify_congr named]
      have form : (d.modify t.name (·.count (t.lastId + 1))).form = .utf8 := made.form
      rw [ok_bind, form]
      exact reaction_eq true (d := d.modify table _) made.triggers _ _ _ _ _ _
  · rw [if_neg room] at next ⊢
    simp only [next]
    rfl

/-- An entry is added to a table of entries unless its hash is there already; a number is used up
for it in either case.  Nothing is done once there is no greater number. -/
theorem add_entry (made : d.IsMade) (found : d.table? table = some t) {cells : List Cell}
    (whole : cells.length = 8) :
    d.add table (Definition.entryColumns.zip cells) =
      if t.lastId < Table.greatestId then (some (d.modify table (·.keep cells)), none)
      else (some d, some .full) := by
  have entries := made.tables t (mem_of_table? found)
  have counted := Table.count_entries entries.definition
    (Int.le_add_one (Int.le_refl t.lastId))
  rw [add, Change.insert, found]
  simp only [insertInto_entries made found whole]
  split
  · split
    · rename_i known
      rw [Change.outcome, modify_eq_modify made found (g := (·.keep cells))]
      simp [Table.keep, counted, known]
    · rename_i new
      have above : ∀ row ∈ t.rows, row.id < (Table.entryRow (t.lastId + 1) cells).id :=
        fun row member => Int.lt_add_one_of_le (entries.counted row member)
      have placed := Table.place_entries (t := { t with lastId := t.lastId + 1 })
        entries.definition above .utf8
      rw [Change.outcome, modify_eq_modify made found (g := (·.keep cells))]
      simp [Table.keep, counted, placed, new]
  · rfl

/-! ## Emptying a table -/

theorem relation?_of_table? (found : d.table? table = some t) :
    d.relation? table = some t.relation := by
  rw [relation?, relationAt?.eq_def]
  simp only [found]

/-- To remove rows one by one is to change nothing but their table. -/
theorem forEach_delete (quiet : d.triggers = []) (found : d.table? table = some t)
    (rows : List Row) :
    Change.forEach d rows (fun d row => Change.delete (Change.reaction false d) d table row) =
      .ok (d.modify table fun t => rows.foldl (fun t row => t.remove d.form row) t) := by
  induction rows generalizing d t with
  | nil =>
    have same : (d.modify table fun t => t) = d := by simp [modify]
    simp only [List.foldl_nil, same]
    rfl
  | cons row rows ih =>
    have keeps : ∀ t : Table, (t.remove d.form row).name = t.name := fun _ => rfl
    have removed : Change.delete (Change.reaction false d) d table row =
        .ok (d.modify table (·.remove d.form row)) := by
      rw [Change.delete, found]
      simp only [reaction_eq false quiet, ok_bind]
      exact reaction_eq false (d := d.modify table _) quiet _ _ _ _ _ _
    have rest := ih (d := d.modify table (·.remove d.form row)) quiet
      (table?_modify_self found keeps)
    rw [modify_modify keeps] at rest
    rw [Change.forEach, List.foldlM_cons, removed]
    exact rest

/-- To empty a table is to leave it without rows. -/
theorem clear_entries (made : d.IsMade) (found : d.table? table = some t) :
    d.clear table = (some (d.modify table Table.emptied), none) := by
  have entries := made.tables t (mem_of_table? found)
  have none_left := @Table.foldl_remove_entries t entries.definition d.form t.rows
    fun _ member => member
  rw [clear, relation?_of_table? found]
  simp only [Option.map_some, Option.getD_some]
  rw [show t.relation.rows = t.rows from rfl, forEach_delete made.triggers found, Change.outcome,
    modify_eq_modify made found none_left]

/-! ## What statements make sense -/

theorem hasTable_eq (made : d.IsMade) (name : String) :
    d.hasTable name = (d.table? name).isSome := by
  rw [hasTable, view?, made.views]
  simp

theorem canFollow_made (made : d.IsMade) (event : Event) (name : String) :
    d.canFollow event name = true := by
  rw [canFollow, canFollowAt, made.triggers]
  rfl

theorem takesAny_entries (made : d.IsMade) (found : d.table? table = some t) :
    d.takesAny table = true := by
  have entries := made.tables t (mem_of_table? found)
  have rules : t.definition.checks ++ t.definition.columns.filterMap (fun c =>
      c.generated.map Generated.value) = [] := by
    rw [entries.definition]
    rfl
  rw [takesAny, found]
  simp only [rules]
  rfl

/-- Entries can be added to a table of a sink, and selected from it. -/
theorem seenIn_entries (made : d.IsMade) (found : d.table? table = some t) :
    Session.seenIn d table = ⟨true, true⟩ := by
  have entries := made.tables t (mem_of_table? found)
  have columns : t.relation.columns = Definition.entries.columns := by
    rw [Table.relation, entries.definition]
  have selects : Wanted.canSelect t.relation = true := by
    rw [Wanted.canSelect, columns]
    decide
  have fits : hasColumns t.relation Definition.entryColumns = true := by
    rw [hasColumns, columns]
    decide
  rw [Session.seenIn, canAdd, relation?_of_table? found, takesAny_entries made found,
    canFollow_made made]
  simp [selects, fits]

theorem relation?_of_none (made : d.IsMade) (absent : d.table? table = none) :
    d.relation? table = none := by
  rw [relation?, relationAt?.eq_def]
  simp only [absent, view?, made.views]
  rfl

/-- No statement makes sense for a table that is not there. -/
theorem seenIn_of_none (made : d.IsMade) (absent : d.table? table = none) :
    Session.seenIn d table = ⟨false, false⟩ := by
  rw [Session.seenIn, canAdd, relation?_of_none made absent]
  rfl

/-! ## Adding tables and indexes -/

theorem table?_addTable (d : Database) (name other : String) :
    (d.addTable name).table? other =
      (d.table? other).or (if sameName name other then some { name } else none) := by
  rw [table?, table?, addTable, List.find?_append, List.find?_cons, List.find?_nil]
  simp only [isNamed]
  cases sameName name other <;> rfl

theorem isMade_take (made : d.IsMade) (count : Nat) : (d.take count).IsMade := by
  cases made
  constructor <;> assumption

theorem isMade_changed (made : d.IsMade) : d.changed.IsMade := by
  cases made
  constructor <;> assumption

theorem isOfEntries_new (name : String) : Table.IsOfEntries { name } where
  definition := rfl
  sound := rfl
  whole := fun _ member => absurd member (by simp)
  ascending := List.Pairwise.nil
  counted := fun _ member => absurd member (by simp)
  started := Int.le_refl 0

theorem isMade_addTable (made : d.IsMade) (absent : d.table? table = none) :
    (d.addTable table).IsMade := by
  have new : ∀ t ∈ d.tables, caseless t.name ≠ caseless table := fun t member same =>
    List.find?_eq_none.mp absent t member (isNamed_iff.mpr same)
  have taken := isMade_take made
    (2 + (if d.hasCounts then 0 else 1) + (if d.stamp.pages = 0 then 1 else 0))
  exact { taken with
    tables := by
      intro t member
      rcases List.mem_append.mp member with known | alone
      · exact made.tables t known
      · rw [List.mem_singleton.mp alone]
        exact isOfEntries_new table
    distinct := by
      rw [addTable, List.map_append, List.map_singleton]
      refine List.nodup_append.mpr ⟨made.distinct, List.nodup_singleton _, ?_⟩
      intro name known other alone
      obtain ⟨t, member, rfl⟩ := List.mem_map.mp known
      exact List.mem_singleton.mp alone ▸ new t member }

theorem isMade_addIndex (made : d.IsMade) (name : String) : (d.addIndex name).IsMade := by
  have taken := isMade_take made 1
  exact { taken with
    indexes := by
      intro i member
      rcases List.mem_append.mp member with known | alone
      · exact made.indexes i known
      · rw [List.mem_singleton.mp alone]
        exact ⟨rfl, rfl⟩ }

end Database

end LogTemplate.Sink
