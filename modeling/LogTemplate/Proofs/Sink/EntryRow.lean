import LogTemplate.Proofs.Entry
import LogTemplate.Proofs.Sink.Query
import LogTemplate.Proofs.Sink.Row
import LogTemplate.Sink.Transfer

/-!
# Entries as rows

Which row a table holds for an entry, and which record is made of that.  Main statement: the record
is that of the entry with its values in the order of their keys.
-/

namespace LogTemplate

namespace OrderedMap

variable {α : Type}

/-- The map with its entries in the order of their keys. -/
def sorted (m : OrderedMap α) : OrderedMap α :=
  ⟨Json.sortByKey m.entries,
    ((Json.sortByKey_perm m.entries).map Prod.fst).nodup_iff.mpr m.nodup⟩

theorem sorted_empty : (empty : OrderedMap α).sorted = empty := by
  simp [sorted, empty, Json.sortByKey]

theorem agrees_sorted [DecidableEq α] (m : OrderedMap α) : m.sorted.agrees m = true :=
  agrees_of_perm (Json.sortByKey_perm m.entries)

end OrderedMap

theorem Json.sorted_ofTexts_eq (m : OrderedMap Text) :
    sorted (Document.ofTexts m) = Document.ofTexts m.sorted := by
  have sort := map_sortByKey (f := fun e => (e.1, Document.text e.2)) (fun _ => rfl) m.entries
  rw [sorted_ofTexts, ← sort]
  rfl

namespace Entry

/-- The entry with its values in the order of their keys. -/
def inOrder (e : Entry) : Entry :=
  { e with found := e.found.map fun found => { found with values := found.values.sorted } }

theorem values_inOrder (e : Entry) : e.inOrder.values = e.values.sorted := by
  obtain ⟨_, _, _ | _⟩ := e
  · exact OrderedMap.sorted_empty.symm
  · rfl

/-- The order of the values has no part in the hash. -/
theorem hash_inOrder (e : Entry) : e.inOrder.hash = e.hash := by
  have same : e.inOrder.hashText = e.hashText := by
    refine hashText_eq_of_agrees rfl rfl ?_ ?_
    · obtain ⟨_, _, _ | _⟩ := e <;> rfl
    · rw [values_inOrder]
      exact OrderedMap.agrees_sorted e.values
  rw [hash_eq, hash_eq, same]

/-- The document of an entry with something else for its tags. -/
def documentWith (e : Entry) (tags : Document) : Document :=
  .mapping [
    ("line_number", .int e.number), ("line", .text e.line), ("matched", .bool e.found.isSome),
    ("uuid", Document.ofText? (e.uuid?.map (·.text))),
    ("name", Document.ofText? (e.found.map (·.name))), ("values", Document.ofTexts e.values),
    ("tags", tags), ("content_hash", .text e.hash)]

theorem document_eq_documentWith (e : Entry) :
    e.document = e.documentWith (Document.ofTags e.tags) := e.document_eq

/-- What is hashed for a line that nothing matches. -/
theorem hashText_unmatched (number : Int) (line : Text) :
    (⟨number, line, none⟩ : Entry).hashText = Json.write Json.canonical.inOrder (.mapping [
      ("line", .text line), ("line_number", .int number), ("uuid", .null),
      ("values", .mapping [])]) := by
  have none :
      Json.sorted (Document.ofTexts (⟨number, line, none⟩ : Entry).values) = .mapping [] := by
    rw [Json.sorted_ofTexts_eq]
    exact congrArg Document.ofTexts OrderedMap.sorted_empty
  rw [hashText_eq, sorted_hashed, none]
  rfl

theorem isExact_ofTags (s : TagSet) : Json.IsExact (Document.ofTags s) := by
  refine Json.areExact_iff.mpr fun d member => ?_
  obtain ⟨_, _, rfl⟩ := List.mem_map.mp member
  trivial

/-- A document that is written for an entry loses nothing in its text. -/
theorem isExact_document {e : Entry} (fits : Sink.fits e.number = true) :
    Json.IsExact e.document := by
  rw [document_eq]
  simp only [Json.IsExact, Json.HaveExact]
  exact ⟨by simp, length_int_le fits, trivial, trivial, isExact_ofText? _, isExact_ofText? _,
    isExact_ofTexts _, isExact_ofTags _, trivial, trivial⟩

theorem depth_ofTexts (m : OrderedMap Text) : Json.depth (Document.ofTexts m) = 1 := by
  have flat : ∀ entries : List (Text × Text),
      (Json.demandOfEntries (entries.map fun e => (e.1, Document.text e.2))).depth = 0 := by
    intro entries
    induction entries with
    | nil => rfl
    | cons e entries ih => exact (Nat.zero_max _).trans ih
  exact congrArg (· + 1) (flat m.entries)

theorem texts_ofTags (s : TagSet) : (Document.ofTags s).texts = s.tags := by
  rw [Document.ofTags, Document.texts, Json.itemTexts_eq_flatMap, List.flatMap_map]
  exact List.flatMap_singleton' s.tags

theorem depth_ofTags (s : TagSet) : Json.depth (Document.ofTags s) = 1 := Json.depth_texts _

/-- There are lists and mappings in the document of an entry, but none inside those. -/
theorem depth_document (e : Entry) : Json.depth e.document = 2 := by
  have scalar : ∀ s, Json.depth (Document.ofText? s) = 0 := by
    rintro (_ | _) <;> rfl
  have whole : Json.depth e.document =
      max 0 (max 0 (max 0 (max (Json.depth (Document.ofText? (e.found.map (·.uuid.text))))
        (max (Json.depth (Document.ofText? (e.found.map (·.name))))
          (max (Json.depth (Document.ofTexts e.values))
            (max (Json.depth (Document.ofTags e.tags)) 0)))))) + 1 := rfl
  rw [whole, scalar, scalar, depth_ofTexts, depth_ofTags]
  rfl

variable [Nesting]

theorem isKept_ofTexts (m : OrderedMap Text) : Json.IsKept (Document.ofTexts m) :=
  ⟨isExact_ofTexts m, (depth_ofTexts m).trans_le (Nat.le_of_succ_le Nesting.two_le_json)⟩

theorem isKept_ofTags (s : TagSet) : Json.IsKept (Document.ofTags s) :=
  ⟨isExact_ofTags s, (depth_ofTags s).trans_le (Nat.le_of_succ_le Nesting.two_le_json)⟩

/-- A document that is written for an entry can be read back as it is. -/
theorem isKept_document {e : Entry} (fits : Sink.fits e.number = true) : Json.IsKept e.document :=
  ⟨isExact_document fits, (depth_document e).trans_le Nesting.two_le_json⟩

end Entry

namespace Sink

open Entry

theorem isNumbered_document {e : Entry} (fits : fits e.number = true) : IsNumbered e.document :=
  ⟨rfl, e.number, rfl, fits⟩

theorem isWhole_of_mem_uuid {e : Entry} :
    ∀ t ∈ e.found.map (·.uuid.text), Text.isWhole t.toList = true := by
  intro shown member
  obtain ⟨found, -, rfl⟩ := Option.map_eq_some_iff.mp member
  exact found.uuid.isWhole_text

theorem isWhole_of_mem_name {e : Entry} (bindable : e.IsBindable) :
    ∀ t ∈ e.found.map (·.name), Text.isWhole t.toList = true := by
  intro shown member
  obtain ⟨found, known, rfl⟩ := Option.map_eq_some_iff.mp member
  exact bindable.name found known

/-- A text, or nothing, as a cell. -/
def Cell.ofText? (s : Option Text) : Cell := (s.map Cell.ofText).getD .null

theorem Cell.ofText_ofString (s : String) : Cell.ofText (s : Text) = .text s := by
  rw [Cell.ofText, Text.string?_ofString]

theorem Cell.ofText?_ofString (s : String) : Cell.ofText? (some (s : Text)) = .text s :=
  Cell.ofText_ofString s

theorem bind_text (column : String) {s : Text} (whole : Text.isWhole s.toList = true) :
    bind column (some (.text s)) = .ok (Cell.ofText s) := by
  obtain ⟨found, rfl⟩ := Text.exists_string_of_isWhole whole
  rw [Cell.ofText_ofString]
  exact bind_text_eq_ok_iff.mpr ⟨found, rfl, rfl⟩

theorem bind_ofText? (column : String) {s : Option Text}
    (whole : ∀ t ∈ s, Text.isWhole t.toList = true) :
    bind column (some (Document.ofText? s)) = .ok (Cell.ofText? s) := by
  cases s with
  | none => rfl
  | some t => exact bind_text column (whole t rfl)

/-- The row that a table of entries holds for an entry. -/
def entryCells (e : Entry) : List Cell :=
  [.integer e.number, .ofText e.line, .ofBool e.found.isSome,
    Cell.ofText? (e.found.map (·.uuid.text)), Cell.ofText? (e.found.map (·.name)),
    .ofText (Json.writeText valuesStyle (Document.ofTexts e.values)),
    .ofText (Json.writeText tagsStyle (Document.ofTags e.tags)), .ofText e.hash]

theorem isWhole_writeText (style : Json.Style) {d : Document}
    (whole : style.asciiOnly = true ∨ d.isWhole = true) :
    Text.isWhole (Json.writeText style d).toList = true := by
  rw [Json.writeText, Text.toList_ofList, Json.isWhole_write, Bool.or_eq_true]
  exact whole

/-- The cells of an entry can be bound. -/
theorem exists_prepare_document {e : Entry} (fits : fits e.number = true)
    (bindable : e.IsBindable) :
    ∃ p, prepare e.document = .ok p
      ∧ p.cells = .ok (Definition.entryColumns.zip (entryCells e)) := by
  refine ⟨⟨e.document, if e.found.isSome then 1 else 0,
    Json.writeText valuesStyle (Document.ofTexts e.values),
    Json.writeText tagsStyle (Document.ofTags e.tags)⟩, rfl, ?_⟩
  have number : bind "line_number" (e.document.get? "line_number") = .ok (.integer e.number) :=
    if_pos fits
  have line : bind "line" (e.document.get? "line") = .ok (.ofText e.line) :=
    bind_text _ bindable.line
  have uuid : bind "uuid" (e.document.get? "uuid") =
      .ok (Cell.ofText? (e.found.map (·.uuid.text))) :=
    bind_ofText? _ isWhole_of_mem_uuid
  have name : bind "name" (e.document.get? "name") = .ok (Cell.ofText? (e.found.map (·.name))) :=
    bind_ofText? _ (isWhole_of_mem_name bindable)
  have values := bind_text "values" (isWhole_writeText valuesStyle
    (.inr (isWhole_ofTexts_iff.mpr bindable.values)))
  have tags := bind_text "tags" (isWhole_writeText tagsStyle
    (d := Document.ofTags e.tags) (.inl rfl))
  have hash : bind "content_hash" (e.document.get? "content_hash") = .ok (.ofText e.hash) :=
    bind_text _ e.isWhole_hash
  have small : Sink.fits (if e.found.isSome then 1 else 0) = true := by
    split <;> rfl
  simp only [Prepared.cells, number, line, uuid, name, values, tags, hash, ok_bind, small]
  rfl

theorem isBound_document {e : Entry} (fits : fits e.number = true) (bindable : e.IsBindable) :
    IsBound e.document := by
  obtain ⟨p, prepared, bound⟩ := exists_prepare_document fits bindable
  exact ⟨p, prepared, _, bound⟩

/-- If the cells of an entry can be bound, no half stands alone in its name. -/
theorem isBindable_of_isBound {e : Entry} (whole : e.IsHashable) (bound : IsBound e.document) :
    e.IsBindable := by
  refine ⟨whole, fun found has => ?_⟩
  obtain ⟨p, prepared, given, bound⟩ := bound
  obtain ⟨_, _, _, _, _, _, _, -, -, -, -, name, -⟩ := Prepared.exists_of_cells bound
  have member : e.document.get? "name" = some (.text found.name) := by
    obtain ⟨_, _, _⟩ := e
    obtain rfl := has
    rfl
  rw [record_of_prepare prepared, member] at name
  obtain ⟨text, same, -⟩ := bind_text_eq_ok_iff.mp name
  rw [same]
  exact Text.isWhole_map_char _

theorem asText_ofText (s : Text) : (Cell.ofText s).asText = Cell.ofText s := by
  rw [Cell.ofText]
  split <;> rfl

theorem asText_ofText? (s : Option Text) : (Cell.ofText? s).asText = Cell.ofText? s := by
  cases s with
  | none => rfl
  | some t => exact asText_ofText t

/-- The columns of a table of entries hold the cells of an entry as they are. -/
theorem stored_entryCells (e : Entry) : Table.stored (entryCells e) = entryCells e := by
  have columns : Table.stored (entryCells e) = [.integer e.number, (Cell.ofText e.line).asText,
      .ofBool e.found.isSome, (Cell.ofText? (e.found.map (·.uuid.text))).asText,
      (Cell.ofText? (e.found.map (·.name))).asText,
      (Cell.ofText (Json.writeText valuesStyle (Document.ofTexts e.values))).asText,
      (Cell.ofText (Json.writeText tagsStyle (Document.ofTags e.tags))).asText,
      (Cell.ofText e.hash).asText] := by
    obtain ⟨_, _, _ | _⟩ := e <;> rfl
  rw [columns]
  simp only [asText_ofText, asText_ofText?]
  rfl

theorem storedCells_document {e : Entry} (fits : fits e.number = true) (bindable : e.IsBindable) :
    storedCells e.document = entryCells e := by
  obtain ⟨p, prepared, bound⟩ := exists_prepare_document fits bindable
  have row : p.row = entryCells e := by
    rw [Prepared.row, bound]
    rfl
  rw [storedCells, cellsOf_eq prepared, row, stored_entryCells]

theorem document?_ofText {s : Text} (whole : Text.isWhole s.toList = true) :
    (Cell.ofText s).document? = some (.text s) := by
  obtain ⟨found, rfl⟩ := Text.exists_string_of_isWhole whole
  exact congrArg Cell.document? (Cell.ofText_ofString found)

theorem document?_ofText? {s : Option Text} (whole : ∀ t ∈ s, Text.isWhole t.toList = true) :
    (Cell.ofText? s).document? = some (Document.ofText? s) := by
  cases s with
  | none => rfl
  | some t => exact document?_ofText (whole t rfl)

theorem readBack_writeText [Nesting] {style : Json.Style} {d : Document} (kept : Json.IsKept d)
    (whole : style.asciiOnly = true ∨ d.isWhole = true) (keeps : style.Keeps d.texts) :
    (Cell.ofText (Json.writeText style d)).readBack = .ok (Json.readBack style d) := by
  obtain ⟨found, same⟩ := Text.exists_string_of_isWhole
    (isWhole_writeText style whole)
  have read := @Json.read_write _ style d kept keeps [] (by simp)
  have text : Json.write style d = (found : Text).toList := congrArg Text.toList same
  rw [List.append_nil, text] at read
  rw [same, Cell.ofText_ofString, Cell.readBack, read]
  rfl

/-- The record of a row of an entry is that of the entry with its values in order, and with the tags
that are read back. -/
theorem recordOf_entryCells_eq [Nesting] {e : Entry} (bindable : e.IsBindable) :
    recordOf (entryCells e) =
      (Cell.ofText (Json.writeText tagsStyle (Document.ofTags e.tags))).readBack.map fun tags =>
        some (e.inOrder.documentWith tags) := by
  have values : (Cell.ofText (Json.writeText valuesStyle (Document.ofTexts e.values))).readBack =
      .ok (Document.ofTexts e.inOrder.values) := by
    have whole := isWhole_ofTexts_iff.mpr bindable.values
    rw [readBack_writeText (isKept_ofTexts _) (.inr whole) (valuesStyle.keeps_of_isWhole whole),
      values_inOrder, ← Json.sorted_ofTexts_eq]
    rfl
  have matched : (Cell.ofBool e.found.isSome).isTrue = e.found.isSome := by
    cases e.found.isSome <;> rfl
  rw [entryCells, recordOf, values]
  simp only [ok_bind, document?_ofText bindable.line, document?_ofText? isWhole_of_mem_uuid,
    document?_ofText? (isWhole_of_mem_name bindable), document?_ofText e.isWhole_hash, matched]
  cases (Cell.ofText (Json.writeText tagsStyle (Document.ofTags e.tags))).readBack with
  | error _ => rfl
  | ok tags =>
    simp only [Except.map, documentWith, hash_inOrder e]
    obtain ⟨_, _, _ | _⟩ := e <;> rfl

/-- The record of a row of an entry is that of the entry with its values in order. -/
theorem recordOf_entryCells [Nesting] {e : Entry} (storable : e.IsStorable) :
    recordOf (entryCells e) = .ok (some e.inOrder.document) := by
  have tags : (Cell.ofText (Json.writeText tagsStyle (Document.ofTags e.tags))).readBack =
      .ok (Document.ofTags e.tags) :=
    readBack_writeText (isKept_ofTags _) (.inl rfl) fun _ => texts_ofTags e.tags ▸ storable.tags
  rw [recordOf_entryCells_eq storable.toIsBindable, tags, document_eq_documentWith]
  obtain ⟨_, _, _ | _⟩ := e <;> rfl

/-! ## The records of rows -/

theorem mapM_id_map_some {α : Type} (l : List α) : (l.map some).mapM id = some l := by
  induction l with
  | nil => rfl
  | cons a l ih => rw [List.map_cons, List.mapM_cons, ih]; rfl

theorem eq_map_some_of_mapM_id {α : Type} {l : List (Option α)} {found : List α}
    (all : l.mapM id = some found) : l = found.map some := by
  induction l generalizing found with
  | nil =>
    obtain rfl := Option.some.inj all
    rfl
  | cons a l ih =>
    rw [List.mapM_cons] at all
    obtain ⟨first, rfl, rest⟩ := Option.bind_eq_some_iff.mp all
    obtain ⟨others, later, whole⟩ := Option.bind_eq_some_iff.mp rest
    obtain rfl := Option.some.inj whole
    rw [ih later, List.map_cons]

theorem exists_of_mapM {ε α β : Type} {f : α → Except ε β} {l : List α} {found : List β}
    (all : l.mapM f = .ok found) : ∀ b ∈ found, ∃ a ∈ l, f a = .ok b := by
  induction l generalizing found with
  | nil =>
    obtain rfl := Except.ok.inj all
    exact fun _ member => absurd member (by simp)
  | cons a l ih =>
    obtain ⟨first, others, here, later, rfl⟩ := mapM_cons_eq_ok_iff.mp all
    rw [List.forall_mem_cons]
    refine ⟨⟨a, List.mem_cons_self, here⟩, fun b member => ?_⟩
    obtain ⟨other, inside, same⟩ := ih later b member
    exact ⟨other, List.mem_cons_of_mem a inside, same⟩

/-- Every record that is found has been made of a row. -/
theorem exists_row_of_recordsOf [Nesting] {rows : List (List Cell)} {records : List Document}
    (found : recordsOf rows = .ok records) :
    ∀ record ∈ records, ∃ row ∈ rows, recordOf row = .ok (some record) := by
  rw [recordsOf] at found
  split at found
  · cases found
  obtain ⟨read, all, found⟩ := bind_eq_ok_iff.mp found
  split at found
  · rename_i whole
    obtain rfl := Except.ok.inj found
    obtain rfl := eq_map_some_of_mapM_id whole
    exact fun record member => exists_of_mapM all _ (List.mem_map_of_mem member)
  · cases found

/-- Every record that is found in a table has been made of one of its rows. -/
theorem exists_row_of_recordsIn [Nesting] {d : Database} {table : String} {wanted : Wanted}
    {records : List Document} (made : d.IsMade)
    (found : Session.recordsIn d table wanted = .ok records) :
    ∀ record ∈ records, ∃ t ∈ d.tables, ∃ row ∈ t.rows,
      recordOf row.entryCells = .ok (some record) := by
  rw [Session.recordsIn] at found
  split at found
  · cases found
  split at found
  · rename_i rows selected
    cases known : d.table? table with
    | none =>
      rw [Wanted.select, known, Database.relation?_of_none made known] at selected
      cases selected
    | some t =>
      intro record member
      obtain ⟨cells, inside, read⟩ := exists_row_of_recordsOf found record member
      obtain ⟨row, stands, rfl⟩ := Wanted.exists_row_of_select made known selected cells inside
      exact ⟨t, Database.mem_of_table? known, row, stands, read⟩
  · cases found
  · cases found

/-- No cell of an entry holds bytes. -/
theorem isSome_document?_of_mem {e : Entry} (storable : e.IsStorable) :
    ∀ cell ∈ entryCells e, cell.document?.isSome = true := by
  have values := document?_ofText (isWhole_writeText valuesStyle
    (.inr (isWhole_ofTexts_iff.mpr storable.values)))
  have tags := document?_ofText (isWhole_writeText tagsStyle
    (d := Document.ofTags e.tags) (.inl rfl))
  simp only [entryCells, List.forall_mem_cons, document?_ofText storable.line,
    document?_ofText? isWhole_of_mem_uuid,
    document?_ofText? (isWhole_of_mem_name storable.toIsBindable), values, tags,
    document?_ofText e.isWhole_hash, Option.isSome_some, true_and]
  exact ⟨rfl, rfl, List.forall_mem_nil _⟩

theorem recordsOf_entryCells [Nesting] {entries : List Entry}
    (storable : ∀ e ∈ entries, e.IsStorable) :
    recordsOf (entries.map entryCells) = .ok (entries.map fun e => e.inOrder.document) := by
  have read : (entries.map entryCells).mapM recordOf =
      .ok (entries.map fun e => some e.inOrder.document) := by
    rw [List.mapM_map]
    exact mapM_eq_map fun e member => recordOf_entryCells (storable e member)
  have found : (entries.map fun e => some e.inOrder.document).mapM id =
      some (entries.map fun e => e.inOrder.document) := by
    rw [← mapM_id_map_some, List.map_map]
    rfl
  rw [recordsOf, if_neg, read, ok_bind, found]
  · rfl
  · rw [Bool.not_eq_true, List.any_eq_false]
    intro cells member
    obtain ⟨e, known, rfl⟩ := List.mem_map.mp member
    rw [Bool.not_eq_true, List.any_eq_false]
    intro cell inside
    have shown := isSome_document?_of_mem (storable e known) cell inside
    cases cell <;> first | exact Bool.false_ne_true | cases shown

end Sink

end LogTemplate
