import LogTemplate.Proofs.Sink.Table
import LogTemplate.Sink.Row

/-!
# Records as rows

Which cells are bound for a record, and which of them tell it from others.
-/

namespace LogTemplate.Sink

/-- The hash that a record has, if it has one that is a text. -/
def hash? (record : Document) : Option Text := (record.get? "content_hash").bind Document.text?

/-- The cells that are bound for a prepared record; none if one cannot be. -/
def Prepared.row (p : Prepared) : List Cell := (p.cells.toOption.getD []).map Prod.snd

/-- The cells that are bound for a record; none if one cannot be. -/
def cellsOf (record : Document) : List Cell := ((prepare record).toOption.map Prepared.row).getD []

/-- What the columns of a table of entries hold for a record. -/
def storedCells (record : Document) : List Cell := Table.stored (cellsOf record)

/-- A text is bound as its characters, if no half in it stands alone. -/
theorem bind_text_eq_ok_iff {column : String} {s : Text} {cell : Cell} :
    bind column (some (.text s)) = .ok cell ↔ ∃ found : String, s = found ∧ cell = .text found := by
  rw [bind]
  constructor
  · intro bound
    split at bound
    · rename_i found same
      have chars : s = Text.ofString (.ofList found) := Text.toList_inj.mp (by
        rw [Text.toList_ofString, String.toList_ofList]
        exact Text.chars_eq_ok_iff.mp same)
      exact ⟨_, chars, (Except.ok.inj bound).symm⟩
    · cases bound
  · rintro ⟨found, rfl, rfl⟩
    rw [Text.chars_eq_ok_iff.mpr (Text.toList_ofString found)]
    simp

/-- The cells of a prepared record are bound member by member, and as texts what was prepared. -/
theorem Prepared.exists_of_cells {p : Prepared} {given : List (String × Cell)}
    (bound : p.cells = .ok given) :
    ∃ (number line uuid name : Cell) (values tags : String) (hash : Cell),
      bind "line_number" (p.record.get? "line_number") = .ok number
      ∧ bind "line" (p.record.get? "line") = .ok line ∧ fits p.matched = true
      ∧ bind "uuid" (p.record.get? "uuid") = .ok uuid
      ∧ bind "name" (p.record.get? "name") = .ok name
      ∧ p.values = values ∧ p.tags = tags
      ∧ bind "content_hash" (p.record.get? "content_hash") = .ok hash
      ∧ given = [("line_number", number), ("line", line), ("matched", .integer p.matched),
        ("uuid", uuid), ("name", name), ("values", .text values), ("tags", .text tags),
        ("content_hash", hash)] := by
  rw [cells] at bound
  obtain ⟨number, first, bound⟩ := bind_eq_ok_iff.mp bound
  obtain ⟨line, second, bound⟩ := bind_eq_ok_iff.mp bound
  split at bound
  · cases bound
  rename_i small
  obtain ⟨uuid, fourth, bound⟩ := bind_eq_ok_iff.mp bound
  obtain ⟨name, fifth, bound⟩ := bind_eq_ok_iff.mp bound
  obtain ⟨_, sixth, bound⟩ := bind_eq_ok_iff.mp bound
  obtain ⟨values, values', rfl⟩ := bind_text_eq_ok_iff.mp sixth
  obtain ⟨_, seventh, bound⟩ := bind_eq_ok_iff.mp bound
  obtain ⟨tags, tags', rfl⟩ := bind_text_eq_ok_iff.mp seventh
  obtain ⟨hash, last, bound⟩ := bind_eq_ok_iff.mp bound
  exact ⟨number, line, uuid, name, values, tags, hash, first, second, by simpa using small, fourth,
    fifth, values', tags', last, (Except.ok.inj bound).symm⟩

/-- The cells of a prepared record are those of the columns of entries, in their order. -/
theorem eq_zip_of_cells {p : Prepared} {given : List (String × Cell)}
    (bound : p.cells = .ok given) :
    given = Definition.entryColumns.zip (given.map Prod.snd) ∧ (given.map Prod.snd).length = 8 := by
  obtain ⟨_, _, _, _, _, _, _, -, -, -, -, -, -, -, -, rfl⟩ := Prepared.exists_of_cells bound
  exact ⟨rfl, rfl⟩

/-- Whether all cells of a prepared record can be bound. -/
def Prepared.IsBound (p : Prepared) : Prop := ∃ given, p.cells = .ok given

theorem Prepared.cells_eq_zip {p : Prepared} (bound : p.IsBound) :
    p.cells = .ok (Definition.entryColumns.zip p.row) ∧ p.row.length = 8 := by
  obtain ⟨given, bound⟩ := bound
  have row : p.row = given.map Prod.snd := by simp [row, bound, Except.toOption]
  obtain ⟨zip, whole⟩ := eq_zip_of_cells bound
  rw [row, bound, ← zip]
  exact ⟨rfl, whole⟩

/-- Whether an error says what keeps a record from being prepared. -/
def Error.isOfRecord : Error → Bool
  | .notRecord | .missingMember _ | .notInteger _ | .numeral _ | .notANumber | .infinite => true
  | _ => false

theorem isUnbound_of_isOfRecord {e : Error} (kind : e.isOfRecord = true) :
    e.isUnbound = false := by
  cases e <;> simp_all [Error.isOfRecord, Error.isUnbound]

theorem refusesWith_prepare (record : Document) :
    RefusesWith (fun e => e.isOfRecord = true) (prepare record) := by
  have member (key : String) :
      RefusesWith (fun e => e.isOfRecord = true) (Sink.member record key) := by
    unfold Sink.member
    split
    · exact refusesWith_ok _
    · exact refusesWith_error rfl
  unfold prepare
  split
  · refine (member _).bind fun found => RefusesWith.bind ?_ fun _ => (member _).bind fun _ =>
      (member _).bind fun _ => refusesWith_ok _
    unfold integerOf
    split
    any_goals exact refusesWith_ok _
    any_goals exact refusesWith_error rfl
    · split
      · exact refusesWith_ok _
      · exact refusesWith_error rfl
    · refine ⟨fun refused => ?_⟩
      obtain ⟨cause, -, rfl⟩ := mapError_eq_error_iff.mp refused
      rfl
  · exact refusesWith_error rfl

/-- The record that is prepared is kept beside what is prepared of it. -/
theorem record_of_prepare {record : Document} {p : Prepared} (prepared : prepare record = .ok p) :
    p.record = record := by
  cases record with
  | mapping entries =>
    obtain ⟨_, _, rest⟩ := bind_eq_ok_iff.mp prepared
    obtain ⟨_, _, rest⟩ := bind_eq_ok_iff.mp rest
    obtain ⟨_, _, rest⟩ := bind_eq_ok_iff.mp rest
    obtain ⟨_, _, rest⟩ := bind_eq_ok_iff.mp rest
    obtain rfl := Except.ok.inj rest
    rfl
  | _ => cases prepared

/-- The first cell of a record holds its line number, and the last one its hash. -/
theorem ends_of_row {p : Prepared} (bound : p.IsBound) :
    ∃ number hash, bind "line_number" (p.record.get? "line_number") = .ok number
      ∧ bind "content_hash" (p.record.get? "content_hash") = .ok hash
      ∧ p.row[0]? = some number ∧ p.row[7]? = some hash := by
  obtain ⟨given, bound⟩ := bound
  have row : p.row = given.map Prod.snd := by simp [Prepared.row, bound, Except.toOption]
  obtain ⟨number, _, _, _, _, _, hash, first, -, -, -, -, -, -, last, rfl⟩ :=
    Prepared.exists_of_cells bound
  exact ⟨number, hash, first, last, by rw [row]; rfl, by rw [row]; rfl⟩

/-- The line number of a record, if it has one that is an integer. -/
def lineNumber? (record : Document) : Option Int :=
  match record.get? "line_number" with
  | some (.int n) => some n
  | _ => none

/-- A record that has a text for its hash and a whole number of 64 bits for its line. -/
structure IsNumbered (record : Document) : Prop where
  hash : (hash? record).isSome
  number : ∃ n, lineNumber? record = some n ∧ fits n = true

/-- A record of which cells can be bound. -/
def IsBound (record : Document) : Prop := ∃ p, prepare record = .ok p ∧ p.IsBound

theorem cellsOf_eq {record : Document} {p : Prepared} (prepared : prepare record = .ok p) :
    cellsOf record = p.row := by
  rw [cellsOf, prepared]
  rfl

theorem map_cellsOf {records : List Document} {prepared : List Prepared}
    (all : records.mapM prepare = .ok prepared) :
    records.map cellsOf = prepared.map Prepared.row := by
  induction records generalizing prepared with
  | nil =>
    obtain rfl := Except.ok.inj all
    rfl
  | cons record records ih =>
    obtain ⟨p, others, first, later, rfl⟩ := mapM_cons_eq_ok_iff.mp all
    rw [List.map_cons, List.map_cons, ih later, cellsOf_eq first]

/-- Records can be bound exactly if they can be prepared, and what is prepared can be bound. -/
theorem forall_isBound_iff {records : List Document} :
    (∀ record ∈ records, IsBound record) ↔
      ∃ prepared, records.mapM prepare = .ok prepared ∧ ∀ p ∈ prepared, p.IsBound := by
  induction records with
  | nil =>
    refine ⟨fun _ => ⟨[], rfl, ?_⟩, fun _ => ?_⟩ <;>
      exact fun _ member => absurd member (by simp)
  | cons record records ih =>
    rw [List.forall_mem_cons, ih]
    constructor
    · rintro ⟨⟨p, first, bound⟩, prepared, rest, others⟩
      exact ⟨p :: prepared, mapM_cons_eq_ok_iff.mpr ⟨p, prepared, first, rest, rfl⟩,
        List.forall_mem_cons.mpr ⟨bound, others⟩⟩
    · rintro ⟨all, prepared, bound⟩
      obtain ⟨p, others, first, later, rfl⟩ := mapM_cons_eq_ok_iff.mp prepared
      rw [List.forall_mem_cons] at bound
      exact ⟨⟨p, first, bound.1⟩, others, later, bound.2⟩

/-- The columns of a table hold nothing for a record that cannot be bound. -/
theorem storedCells_eq_nil {record : Document} (unbound : ¬ IsBound record) :
    storedCells record = [] := by
  rw [storedCells, cellsOf]
  cases prepared : prepare record with
  | error _ => rfl
  | ok p =>
    cases bound : p.cells with
    | error _ =>
      have row : p.row = [] := by simp [Prepared.row, bound, Except.toOption]
      exact congrArg Table.stored row
    | ok given => exact absurd ⟨p, prepared, given, bound⟩ unbound

theorem length_cellsOf {record : Document} (bound : IsBound record) :
    (cellsOf record).length = 8 := by
  obtain ⟨p, prepared, bound⟩ := bound
  rw [cellsOf_eq prepared]
  exact (Prepared.cells_eq_zip bound).2

theorem getElem?_stored {cells : List Cell} (whole : cells.length = 8) :
    (Table.stored cells)[0]? = cells[0]?.map Cell.asNumber
      ∧ (Table.stored cells)[7]? = cells[7]?.map Cell.asText := by
  match cells, whole with
  | [_, _, _, _, _, _, _, _], _ => exact ⟨rfl, rfl⟩

/-- The row of a record holds the hash of the record. -/
theorem getElem?_storedCells_hash {record : Document} (bound : IsBound record) {hash : Text}
    (has : hash? record = some hash) :
    ∃ found : String, hash = found ∧ (storedCells record)[7]? = some (.text found) := by
  have whole := length_cellsOf bound
  obtain ⟨p, prepared, bound⟩ := bound
  obtain ⟨_, cell, _, last, _, place⟩ := ends_of_row bound
  have member : record.get? "content_hash" = some (.text hash) := by
    obtain ⟨d, found, text⟩ := Option.bind_eq_some_iff.mp has
    cases d <;> simp_all [Document.text?]
  rw [record_of_prepare prepared, member] at last
  obtain ⟨found, same, rfl⟩ := bind_text_eq_ok_iff.mp last
  refine ⟨found, same, ?_⟩
  rw [storedCells, (getElem?_stored whole).2, cellsOf_eq prepared, place]
  rfl

/-- The row of a record starts with the line number of the record. -/
theorem getElem?_storedCells_number {record : Document} (bound : IsBound record) {n : Int}
    (has : lineNumber? record = some n) : (storedCells record)[0]? = some (.integer n) := by
  have whole := length_cellsOf bound
  obtain ⟨p, prepared, bound⟩ := bound
  obtain ⟨cell, _, first, _, place, _⟩ := ends_of_row bound
  have member : record.get? "line_number" = some (.int n) := by
    rw [lineNumber?] at has
    split at has <;> simp_all
  rw [record_of_prepare prepared, member, bind] at first
  split at first
  · obtain rfl := Except.ok.inj first
    rw [storedCells, (getElem?_stored whole).1, cellsOf_eq prepared, place]
    rfl
  · cases first

end LogTemplate.Sink
