import LogTemplate.Proofs.Sink.EntryRow

/-!
# Records as they are listed

A record comes back from a table with its members in the columns' types, its values and tags read
from their texts.  Main statement: what it says comes back, the values in the order of their keys.
-/

namespace LogTemplate.Sink

/-- A record comes back: members that are texts or null, the line number, the hash and whether the
line matched as they were, tags as they were, and values in the order of their keys. -/
structure IsListedAs (record shown : Document) : Prop where
  number : lineNumber? shown = lineNumber? record
  hash : hash? shown = hash? record
  texts : ∀ key ∈ ["line", "uuid", "name"], ∀ s, record.get? key = some (.ofText? s) →
    shown.get? key = some (.ofText? s)
  matched : ∀ b, record.get? "matched" = some (.bool b) → shown.get? "matched" = some (.bool b)
  values : (record.get? "values").map Json.sorted = shown.get? "values"
  tags : record.get? "tags" = shown.get? "tags"

/-- Nothing of a record's values and tags is lost in texts, and these can be read.  Tags are written
in ASCII, where two halves side by side become a character. -/
structure KeepsTexts [Nesting] (record : Document) : Prop where
  values : ∀ d, record.get? "values" = some d → Json.IsKept d
  tags : ∀ d, record.get? "tags" = some d → Json.IsKept d ∧ tagsStyle.Keeps d.texts

theorem exists_of_prepare {record : Document} {p : Prepared} (prepared : prepare record = .ok p) :
    ∃ matched values tags, record.get? "matched" = some matched
      ∧ integerOf matched = .ok p.matched
      ∧ record.get? "values" = some values ∧ p.values = Json.writeText valuesStyle values
      ∧ record.get? "tags" = some tags ∧ p.tags = Json.writeText tagsStyle tags := by
  have member_ok : ∀ {key : String} {d : Document}, member record key = .ok d →
      record.get? key = some d := by
    intro key d found
    rw [member] at found
    split at found
    · rename_i there
      exact there.trans (congrArg some (Except.ok.inj found))
    · cases found
  cases record with
  | mapping entries =>
    obtain ⟨matched, first, rest⟩ := bind_eq_ok_iff.mp prepared
    obtain ⟨n, counted, rest⟩ := bind_eq_ok_iff.mp rest
    obtain ⟨values, second, rest⟩ := bind_eq_ok_iff.mp rest
    obtain ⟨tags, third, rest⟩ := bind_eq_ok_iff.mp rest
    obtain rfl := Except.ok.inj rest
    exact ⟨matched, values, tags, member_ok first, counted, member_ok second, rfl,
      member_ok third, rfl⟩
  | _ => cases prepared

/-- What a column of texts holds for a member can be shown, and a text or null as it was. -/
theorem exists_document?_of_bind {column : String} {found : Option Document} {cell : Cell}
    (bound : bind column found = .ok cell) :
    ∃ shown, cell.asText.document? = some shown
      ∧ ∀ s, found = some (.ofText? s) → shown = .ofText? s := by
  cases found with
  | none => cases bound
  | some d =>
    cases d with
    | null =>
      obtain rfl := Except.ok.inj bound
      refine ⟨_, rfl, ?_⟩
      rintro (_ | _) same <;> cases same
      rfl
    | bool b =>
      obtain rfl := Except.ok.inj bound
      refine ⟨_, rfl, ?_⟩
      rintro (_ | _) same <;> cases same
    | int n =>
      rw [bind] at bound
      split at bound
      · obtain rfl := Except.ok.inj bound
        refine ⟨_, rfl, ?_⟩
        rintro (_ | _) same <;> cases same
      · cases bound
    | float x =>
      have shown : ∃ shown, cell.asText.document? = some shown := by
        cases x <;> (obtain rfl := Except.ok.inj bound; exact ⟨_, rfl⟩)
      obtain ⟨shown, there⟩ := shown
      refine ⟨shown, there, ?_⟩
      rintro (_ | _) same <;> cases same
    | text t =>
      obtain ⟨found, rfl, rfl⟩ := bind_text_eq_ok_iff.mp bound
      refine ⟨_, rfl, ?_⟩
      rintro (_ | _) same <;> cases same
      rfl
    | list | mapping => cases bound

theorem Cell.not_garbled_of_document? {c : Cell} {d : Document} :
    c.document? = some d → (c matches .garbled _) = false := by
  intro there
  cases c with
  | garbled => cases there
  | _ => rfl

/-- If the text of a document is one of characters, no half in the document stands alone, unless it
is written in ASCII. -/
theorem isWhole_of_writeText_eq {style : Json.Style} {d : Document} {found : String}
    (same : Json.writeText style d = found) : (style.asciiOnly || d.isWhole) = true := by
  rw [← Json.isWhole_write, ← Text.toList_ofList (Json.write style d), ← Json.writeText, same]
  exact Text.isWhole_map_char _

/-- What a query makes of the row of a record. -/
theorem exists_listed [Nesting] {record : Document} (bound : IsBound record)
    (numbered : IsNumbered record) (keeps : KeepsTexts record) :
    ∃ shown, recordOf (storedCells record) = .ok (some shown) ∧ IsListedAs record shown
      ∧ (storedCells record).any (· matches .garbled _) = false := by
  obtain ⟨p, prepared, given, cells⟩ := bound
  obtain ⟨matched, values, tags, hasMatched, counted, hasValues, writesValues, hasTags,
    writesTags⟩ := exists_of_prepare prepared
  obtain ⟨number, line, uuid, name, valuesText, tagsText, hash, bindNumber, bindLine, fits,
    bindUuid, bindName, sameValues, sameTags, bindHash, rfl⟩ := Prepared.exists_of_cells cells
  rw [record_of_prepare prepared] at bindNumber bindLine bindUuid bindName bindHash
  obtain ⟨n, hasNumber, small⟩ := numbered.number
  obtain ⟨h, hasHash⟩ := Option.isSome_iff_exists.mp numbered.hash
  have row : storedCells record = [number.asNumber, line.asText, .integer p.matched, uuid.asText,
      name.asText, .text valuesText, .text tagsText, hash.asText] := by
    rw [storedCells, cellsOf_eq prepared, Prepared.row, cells]
    rfl
  have isNumber : number.asNumber = .integer n := by
    have first := getElem?_storedCells_number ⟨p, prepared, _, cells⟩ hasNumber
    rw [row] at first
    exact Option.some.inj first
  obtain ⟨h, rfl, last⟩ := getElem?_storedCells_hash ⟨p, prepared, _, cells⟩ hasHash
  have isHash : hash.asText = .text h := by
    rw [row] at last
    exact Option.some.inj last
  obtain ⟨shownLine, documentLine, keepsLine⟩ := exists_document?_of_bind bindLine
  obtain ⟨shownUuid, documentUuid, keepsUuid⟩ := exists_document?_of_bind bindUuid
  obtain ⟨shownName, documentName, keepsName⟩ := exists_document?_of_bind bindName
  have wholeValues : values.isWhole = true :=
    @isWhole_of_writeText_eq valuesStyle _ _ (writesValues.symm.trans sameValues)
  have backValues := @readBack_writeText _ valuesStyle _ (keeps.values values hasValues)
    (.inr wholeValues) (valuesStyle.keeps_of_isWhole wholeValues)
  have backTags := @readBack_writeText _ tagsStyle _ (keeps.tags tags hasTags).1 (.inl rfl)
    (keeps.tags tags hasTags).2
  rw [← writesValues, sameValues, Cell.ofText_ofString] at backValues
  rw [← writesTags, sameTags, Cell.ofText_ofString] at backTags
  refine ⟨.mapping [("line_number", .int n), ("line", shownLine),
    ("matched", .bool (Cell.integer p.matched).isTrue), ("uuid", shownUuid), ("name", shownName),
    ("values", Json.sorted values), ("tags", tags), ("content_hash", .text h)], ?_, ?_, ?_⟩
  · rw [row, recordOf, backValues, backTags, isNumber, isHash]
    simp only [ok_bind, documentLine, documentUuid, documentName]
    rfl
  · refine ⟨hasNumber.symm, hasHash.symm, ?_, ?_, by rw [hasValues]; rfl, hasTags⟩
    · intro key member s has
      simp only [List.mem_cons, List.not_mem_nil, or_false] at member
      rcases member with rfl | rfl | rfl
      · exact congrArg some (keepsLine s has)
      · exact congrArg some (keepsUuid s has)
      · exact congrArg some (keepsName s has)
    · rintro b has
      rw [hasMatched] at has
      obtain rfl := Option.some.inj has
      obtain rfl | rfl := Bool.eq_false_or_eq_true b <;>
        (obtain same := Except.ok.inj counted; rw [← same]; rfl)
  · rw [row, isNumber, isHash]
    simp only [List.any_cons, List.any_nil, Bool.or_false, Bool.false_or, Bool.or_eq_false_iff]
    exact ⟨Cell.not_garbled_of_document? documentLine, Cell.not_garbled_of_document? documentUuid,
      Cell.not_garbled_of_document? documentName⟩

/-- A query of the rows of records gives these back. -/
theorem exists_recordsOf [Nesting] {records : List Document}
    (bound : ∀ record ∈ records, IsBound record) (numbered : ∀ record ∈ records, IsNumbered record)
    (keeps : ∀ record ∈ records, KeepsTexts record) :
    ∃ shown, recordsOf (records.map storedCells) = .ok shown
      ∧ records.Forall₂ IsListedAs shown := by
  obtain ⟨shown, read, listed, clean⟩ : ∃ shown,
      (records.map storedCells).mapM recordOf = .ok (shown.map some)
        ∧ records.Forall₂ IsListedAs shown
        ∧ ∀ record ∈ records, (storedCells record).any (· matches .garbled _) = false := by
    induction records with
    | nil => exact ⟨[], rfl, .nil, fun _ member => absurd member (by simp)⟩
    | cons record records ih =>
      rw [List.forall_mem_cons] at bound numbered keeps
      obtain ⟨first, made, same, clean⟩ := exists_listed bound.1 numbered.1 keeps.1
      obtain ⟨rest, read, listed, others⟩ := ih bound.2 numbered.2 keeps.2
      refine ⟨first :: rest, ?_, .cons same listed, List.forall_mem_cons.mpr ⟨clean, others⟩⟩
      rw [List.map_cons, List.mapM_cons, made, read]
      rfl
  refine ⟨shown, ?_, listed⟩
  rw [recordsOf, if_neg, read, ok_bind, mapM_id_map_some]
  · rfl
  · rw [Bool.not_eq_true, List.any_eq_false]
    intro cells member
    obtain ⟨record, inside, rfl⟩ := List.mem_map.mp member
    exact Bool.not_eq_true _ ▸ clean record inside

end LogTemplate.Sink
