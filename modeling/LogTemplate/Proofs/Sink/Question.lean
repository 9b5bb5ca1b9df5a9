import LogTemplate.Proofs.Sink.EntryRow
import LogTemplate.Proofs.Sink.JsonLines
import LogTemplate.Proofs.Sink.Occurrence

/-!
# Questions about entries

A query can ask for the UUID of the match of an entry, and for whether there is a match.  Main
statements: a file of lines gives the entries that have what is asked for, and so does a table,
unless it is asked for those that have no UUID: then it gives none.
-/

namespace LogTemplate

theorem Document.same_ofText? (s t : Option Text) : (ofText? s).same (ofText? t) = (t == s) := by
  cases s <;> cases t <;> simp [ofText?, same, Bool.beq_comm]

theorem Document.same_bool (a b : Bool) : (bool a).same (bool b) = (b == a) := by
  cases a <;> cases b <;> rfl

namespace Sink

/-- What is asked of entries: the UUID of the match, none for those without one, and whether there
is a match. -/
structure Question where
  uuid : Option (Option Text) := none
  matched : Option Bool := none

namespace Question

/-- No half stands alone in the UUID that is asked for. -/
def IsWhole (q : Question) : Prop :=
  ∀ asked ∈ q.uuid, ∀ t ∈ asked, Text.isWhole t.toList = true

/-- The filter that asks a question. -/
def filter (q : Question) : JsonLines.Filter :=
  ⟨q.uuid.map Document.ofText?, q.matched.map Document.bool⟩

/-- Whether an entry has what is asked for. -/
def admits (q : Question) (e : Entry) : Bool :=
  q.uuid.all (· == e.found.map (·.uuid.text)) && q.matched.all (· == e.found.isSome)

/-! ## Lines -/

theorem meets_document (key : String) (wanted : Option Document) (e : Entry) :
    JsonLines.meets key wanted e.document =
      .ok (wanted.all fun d => (e.document.get key).same d) := by
  cases wanted <;> rfl

/-- The record of an entry passes the filter of a question exactly if the entry has what is asked
for. -/
theorem admits_document (q : Question) (e : Entry) :
    q.filter.admits e.document = .ok (q.admits e) := by
  have uuid : (q.filter.uuid.all fun d => (e.document.get "uuid").same d) =
      q.uuid.all (· == e.found.map (·.uuid.text)) := by
    have member : e.document.get "uuid" = Document.ofText? (e.found.map (·.uuid.text)) := rfl
    rw [filter, Option.all_map, member]
    simp only [Document.same_ofText?]
  have matched : (q.filter.matched.all fun d => (e.document.get "matched").same d) =
      q.matched.all (· == e.found.isSome) := by
    have member : e.document.get "matched" = .bool e.found.isSome := rfl
    rw [filter, Option.all_map, member]
    simp only [Document.same_bool]
  rw [JsonLines.Filter.admits, meets_document, meets_document, uuid, matched, ok_bind, admits]
  cases q.uuid.all (· == e.found.map (·.uuid.text)) <;> rfl

/-- Of the entries on the lines of a file those are found that have what is asked for. -/
theorem query_lines [Nesting] {entries : List Entry} (fit : ∀ e ∈ entries, fits e.number = true)
    (whole : ∀ e ∈ entries, e.IsWhole) (q : Question) :
    JsonLines.query q.filter (JsonLines.bytesOf (entries.map Entry.document)) =
      .ok ((entries.filter q.admits).map Entry.document) :=
  JsonLines.query_bytesOf_map (fun e member => Entry.isKept_document (fit e member))
    (fun e member => Entry.isWhole_document_iff.mpr (whole e member))
    fun e _ => admits_document q e

/-! ## Rows -/

/-- The cells that are looked for. -/
def wanted (q : Question) : Wanted :=
  ⟨q.uuid.map Cell.ofText?, q.matched.map fun b => if b then 1 else 0⟩

theorem mapM_integerOf_filter (q : Question) :
    q.filter.matched.mapM integerOf = .ok q.wanted.matched := by
  obtain ⟨_, _ | _⟩ := q <;> rfl

/-- What is asked for can be bound exactly if no half stands alone in it. -/
theorem wantedOf_filter (q : Question) :
    (q.IsWhole → Session.wantedOf q.filter.uuid q.wanted.matched = .ok q.wanted)
      ∧ (¬ q.IsWhole → ∃ e, Session.wantedOf q.filter.uuid q.wanted.matched = .error e) := by
  obtain ⟨uuid, matched⟩ := q
  constructor
  · intro whole
    have fit : (matched.map fun b => if b then (1 : Int) else 0).any (!fits ·) = false := by
      rcases matched with _ | _ | _ <;> rfl
    have bound : (uuid.map Document.ofText?).mapM (fun d => Sink.bind "uuid" (some d)) =
        .ok (uuid.map Cell.ofText?) := by
      cases uuid with
      | none => rfl
      | some asked =>
        rw [Option.map_some, Option.mapM_some, bind_ofText? "uuid" (whole asked rfl)]
        rfl
    simp only [Session.wantedOf, filter, wanted, bound, fit, ok_bind]
    rfl
  · intro broken
    cases bound : (uuid.map Document.ofText?).mapM (fun d => Sink.bind "uuid" (some d)) with
    | error e => exact ⟨e, by rw [Session.wantedOf, filter, bound]; rfl⟩
    | ok cells =>
      refine absurd ?_ broken
      rintro _ ⟨⟩ t ⟨⟩
      rw [Option.map_some, Option.mapM_some] at bound
      obtain ⟨cell, text, -⟩ := bind_eq_ok_iff.mp bound
      obtain ⟨found, rfl, -⟩ := bind_text_eq_ok_iff.mp text
      exact Text.isWhole_map_char _

theorem truth?_ofBool (b : Bool) : (Cell.ofBool b).truth? = some b := by
  cases b <;> rfl

/-- Two conditions hold together if both do. -/
theorem holds_both {s : Scope} {a b : Expression} {p q : Bool}
    (first : Expression.holds s a = .ok p) (second : Expression.holds s b = .ok q) :
    Expression.holds s (.both a b) = .ok (p && q) := by
  obtain ⟨x, valued, same⟩ := bind_eq_ok_iff.mp first
  obtain ⟨y, valued', same'⟩ := bind_eq_ok_iff.mp second
  obtain rfl := Except.ok.inj same
  obtain rfl := Except.ok.inj same'
  simp only [Expression.holds, Expression.both, Expression.value, valued, valued', ok_bind,
    Expression.applyOperator, beq_self_eq_true, Bool.true_and]
  rcases x.truth? with _ | _ | _ <;> rcases y.truth? with _ | _ | _ <;> rfl

/-- A column holds what is looked for if neither is nothing and they are the same once the column
has converted both. -/
theorem holds_column {s : Scope} {name : String} {found : Found}
    (here : s.find? none name = some found) (cell : Cell) :
    Expression.holds s (Wanted.holds name cell) =
      .ok (!(found.cell.isNull || cell.isNull)
        && (Expression.converted found.affinity none found.cell).same s.form found.collation
          (Expression.converted found.affinity none cell)) := by
  have affinity : Expression.affinity? s (.column none name false) = found.affinity := by
    rw [Expression.affinity?, here]
    rfl
  have collation : Expression.collation s (.column none name false) (.constant cell) =
      found.collation := by
    simp [Expression.collation, Expression.namedCollation?, Expression.columnCollation?, here]
  have constant : Expression.affinity? s (.constant cell) = none := rfl
  have plain : (Operator.comparison .equal == Operator.both) = false := rfl
  simp only [Expression.holds, Wanted.holds, Expression.compared, Expression.value, here, ok_bind,
    Expression.applyOperator, Expression.compareValues, affinity, collation, constant, plain,
    Bool.false_and, Bool.false_eq_true, if_false, Cell.same]
  cases nothing : found.cell.isNull || cell.isNull with
  | true => rfl
  | false =>
    simp only [Bool.and_false, Bool.false_eq_true, if_false, truth?_ofBool, Expression.outcome]
    refine congrArg Except.ok ?_
    simp

/-- A column of texts holds what is looked for if that is something and stands there. -/
theorem holds_uuid {s : Scope} (form : s.form = .utf8) {given asked : Option Text}
    (found : s.find? none "uuid" = some ⟨Cell.ofText? given, some .text, .binary⟩)
    (whole : ∀ t ∈ given, Text.isWhole t.toList = true)
    (whole' : ∀ t ∈ asked, Text.isWhole t.toList = true) :
    Expression.holds s (Wanted.holds "uuid" (Cell.ofText? asked)) =
      .ok (asked.isSome && asked == given) := by
  rw [holds_column found, form]
  cases asked with
  | none =>
    have nothing : (Cell.ofText? none).isNull = true := rfl
    simp [nothing]
  | some asked =>
    obtain ⟨asked, rfl⟩ := Text.exists_string_of_isWhole (whole' asked rfl)
    cases given with
    | none =>
      have nothing : (Cell.ofText? none).isNull = true := rfl
      simp [nothing]
    | some given =>
      obtain ⟨given, rfl⟩ := Text.exists_string_of_isWhole (whole given rfl)
      have same : (Cell.text given).same .utf8 .binary (.text asked) = (asked == given) := by
        rw [Bool.eq_iff_iff, Table.same_text, beq_iff_eq, eq_comm]
      rw [Cell.ofText?_ofString, Cell.ofText?_ofString]
      refine congrArg Except.ok (same.trans ?_)
      rw [Bool.eq_iff_iff]
      simp

theorem holds_matched {s : Scope} {given : Bool}
    (found : s.find? none "matched" = some ⟨Cell.ofBool given, some .integer, .binary⟩)
    (asked : Bool) :
    Expression.holds s (Wanted.holds "matched" (.integer (if asked then 1 else 0))) =
      .ok (asked == given) := by
  rw [holds_column found]
  cases asked <;> cases given <;> rfl

section

variable {d : Database} {table : String} {t : Table} {row : Row} {e : Entry}

theorem find?_entryCells (definition : t.definition = .entries)
    (cells : row.cells = .integer row.id :: entryCells e) (s : Scope) (name : String) :
    (s.within (t.relation.binding name row)).find? none "uuid" =
        some ⟨Cell.ofText? (e.found.map (·.uuid.text)), some .text, .binary⟩
      ∧ (s.within (t.relation.binding name row)).find? none "matched" =
        some ⟨.ofBool e.found.isSome, some .integer, .binary⟩ := by
  constructor <;>
    simp [Scope.within, Scope.find?, Relation.binding, Binding.find?, Table.relation, definition,
      Definition.entries, cells, entryCells, Definition.sameName]

/-- Of the row of an entry the conditions hold exactly if the entry has what is asked for and that
is not nothing. -/
theorem holds_condition (form : d.form = .utf8) (definition : t.definition = .entries)
    (cells : row.cells = .integer row.id :: entryCells e) {q : Question} (whole : q.IsWhole) :
    Expression.holds (d.scope.within (t.relation.binding table row)) q.wanted.condition =
      .ok (q.uuid != some none && q.admits e) := by
  obtain ⟨uuidFound, matchedFound⟩ := find?_entryCells definition cells d.scope table
  generalize scope : d.scope.within (t.relation.binding table row) = s at uuidFound matchedFound
  have form' : s.form = .utf8 := scope ▸ form
  obtain ⟨uuid, matched⟩ := q
  have first : Expression.holds s (((uuid.map Cell.ofText?).map (Wanted.holds "uuid")).getD .yes) =
      .ok (uuid != some none && uuid.all (· == e.found.map (·.uuid.text))) := by
    cases uuid with
    | none => rfl
    | some asked =>
      refine (holds_uuid form' uuidFound isWhole_of_mem_uuid (whole asked rfl)).trans
        (congrArg Except.ok ?_)
      cases asked <;> rfl
  cases matched with
  | none =>
    refine Eq.trans first (congrArg Except.ok ?_)
    simp [admits]
  | some asked =>
    refine (holds_both first (holds_matched matchedFound asked)).trans (congrArg Except.ok ?_)
    simp [admits, Bool.and_assoc]

/-- The rows of a table that holds the cells of entries stand for these entries. -/
theorem forall₂_of_map_entryCells {rows : List Row} {entries : List Entry}
    (whole : ∀ row ∈ rows, ∃ cells, row.cells = .integer row.id :: cells ∧ cells.length = 8)
    (holds : rows.map Row.entryCells = entries.map entryCells) :
    rows.Forall₂ (fun row e => row.cells = .integer row.id :: entryCells e) entries := by
  induction rows generalizing entries with
  | nil =>
    obtain rfl := List.map_eq_nil_iff.mp holds.symm
    exact .nil
  | cons row rows ih =>
    cases entries with
    | nil => cases holds
    | cons e entries =>
      rw [List.forall_mem_cons] at whole
      obtain ⟨first, rest⟩ := List.cons.inj holds
      obtain ⟨cells, shape, -⟩ := whole.1
      rw [Row.entryCells, shape, List.tail_cons] at first
      exact .cons (first ▸ shape) (ih whole.2 rest)

/-- Rows that stand for entries with ascending numbers, in whatever order, are ordered by these. -/
theorem mergeSort_of_perm {found entries : List Entry} (same : found.Perm entries)
    (ascending : entries.Pairwise fun e f => e.number < f.number) :
    (found.map entryCells).mergeSort (Wanted.isUpToLine .utf8 .binary) =
      entries.map entryCells := by
  have upTo : ∀ e f : Entry, decide (e.number ≤ f.number) =
      Wanted.isUpToLine .utf8 .binary (entryCells e) (entryCells f) := by
    intro e f
    rw [Bool.eq_iff_iff, decide_eq_true_eq, Wanted.isUpToLine, bne_iff_ne]
    exact Int.isLE_compare.symm.trans Ordering.isLE_iff_ne_gt
  have sorted := @List.pairwise_mergeSort _ (fun e f : Entry => decide (e.number ≤ f.number))
    (fun a b c => by simpa using Int.le_trans) (fun a b => by simpa using Int.le_total _ _) found
  have distinct : (entries.map Entry.number).Nodup :=
    List.pairwise_map.mpr (ascending.imp fun less => ne_of_lt less)
  have perm := (List.mergeSort_perm found fun e f => decide (e.number ≤ f.number)).trans same
  have ordered : found.mergeSort (fun e f : Entry => decide (e.number ≤ f.number)) = entries := by
    refine perm.eq_of_pairwise ?_ sorted
      (ascending.imp fun less => decide_eq_true (Int.le_of_lt less))
    intro e f first second ef fe
    have number := Int.le_antisymm (of_decide_eq_true ef) (of_decide_eq_true fe)
    exact List.inj_on_of_nodup_map distinct (perm.mem_iff.mp first) second number
  rw [← ordered, List.map_mergeSort fun e _ f _ => upTo e f]

/-- Of a table of entries with ascending numbers those are selected that have what is asked for, in
their order, unless nothing is asked for. -/
theorem select_wanted (made : d.IsMade) (found : d.table? table = some t) {entries : List Entry}
    (ascending : entries.Pairwise fun e f => e.number < f.number)
    (holds : t.rows.map Row.entryCells = entries.map entryCells) {q : Question}
    (whole : q.IsWhole) :
    q.wanted.select d table =
      .ok ((entries.filter fun e => q.uuid != some none && q.admits e).map entryCells) := by
  have own := made.tables t (Database.mem_of_table? found)
  let admits := fun e => q.uuid != some none && q.admits e
  let condition := fun row =>
    Expression.holds (d.scope.within (t.relation.binding table row)) q.wanted.condition
  let p := fun row => (condition row).toOption.getD false
  have stand := forall₂_of_map_entryCells own.whole holds
  have looked : ∀ row e, row.cells = .integer row.id :: entryCells e →
      condition row = .ok (admits e) :=
    fun row e cells => holds_condition made.form own.definition cells whole
  have read : ∀ row ∈ t.rows, condition row = .ok (p row) := by
    intro row member
    obtain ⟨e, -, same⟩ := List.mem_map.mp (holds ▸ List.mem_map_of_mem member)
    obtain ⟨cells, shape, -⟩ := own.whole row member
    rw [Row.entryCells, shape, List.tail_cons] at same
    simp only [p, looked row e (same ▸ shape)]
    rfl
  have kept : (t.rows.filter p).Forall₂ (fun row e => row.cells = .integer row.id :: entryCells e)
      (entries.filter admits) := by
    refine List.rel_filter (fun row e cells => ?_) stand
    simp only [p, looked row e cells]
    rfl
  obtain ⟨passed, shown, same⟩ :=
    List.perm_comp_forall₂ ((Wanted.passage_perm q.wanted d t).filter p) kept
  have cells : (((Wanted.passage q.wanted d t).filter p).map Row.entryCells) =
      passed.map entryCells := by
    have each : List.Forall₂ (· = ·)
        (((Wanted.passage q.wanted d t).filter p).map Row.entryCells) (passed.map entryCells) := by
      rw [List.forall₂_map_left_iff, List.forall₂_map_right_iff]
      exact shown.imp fun row e cells => by rw [Row.entryCells, cells, List.tail_cons]
    rwa [List.forall₂_eq_eq_eq] at each
  rw [Wanted.select_eq made found read, cells, mergeSort_of_perm same (ascending.filter _)]

end

end Question

end Sink

end LogTemplate
