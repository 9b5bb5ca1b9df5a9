import LogTemplate.Proofs.Json.RoundTrip
import LogTemplate.Proofs.Text.Lines
import LogTemplate.Proofs.Text.Utf8
import LogTemplate.Sink.JsonLines

/-!
# Records, written as lines and read

Main statement: the records that are written to a file of lines are those that are read from it.
-/

namespace LogTemplate.Sink.JsonLines

open Json (IsExact IsKept)

theorem keeps_plain (d : Document) : Json.plain.Keeps d.texts :=
  Json.Style.keeps_of_asciiOnly rfl d.texts

theorem not_mem_write {style : Json.Style} {d : Document} (exact : IsExact d) {c : CodePoint}
    (control : c.toNat < 0x20) : c ∉ Json.write style d := fun member =>
  Nat.not_lt.mpr (Json.isPrinted_write style exact c member) control

/-! ## What a file of lines holds -/

/-- The lines of records. -/
def text (records : List Document) : List CodePoint := records.flatMap line

/-- The bytes of the lines of records. -/
def bytesOf (records : List Document) : List UInt8 := Text.Utf8.encodeText (text records)

theorem bytesOf_append (records batch : List Document) :
    bytesOf (records ++ batch) = bytesOf records ++ bytesOf batch := by
  simp [bytesOf, text, Text.Utf8.encodeText]

theorem isWhole_line {d : Document} : Text.isWhole (line d) = d.isWhole := by
  rw [line, Text.isWhole_append, Json.isWhole_write]
  exact Bool.and_true _

theorem isWhole_text {records : List Document} (whole : ∀ d ∈ records, d.isWhole = true) :
    Text.isWhole (text records) = true := by
  rw [Text.isWhole, text, List.all_flatMap, List.all_eq_true]
  exact fun d member => isWhole_line.trans (whole d member)

/-- The records before the first one in which a half stands alone. -/
def encodable (records : List Document) : List Document := records.takeWhile Document.isWhole

/-- The lines of records are encoded up to the first record in which a half stands alone. -/
theorem encode_eq (records : List Document) :
    (encode records).1 = bytesOf (encodable records)
      ∧ if ∀ d ∈ records, d.isWhole = true then (encode records).2 = .ok ()
        else ∃ stray, (encode records).2 = .error (.unencodable stray) := by
  induction records with
  | nil => exact ⟨rfl, rfl⟩
  | cons d records ih =>
    rw [encode, encodable, List.takeWhile_cons]
    cases encoded : Text.chars (line d) with
    | error stray =>
      have broken : d.isWhole ≠ true := by
        intro whole
        obtain ⟨found, same⟩ := Text.exists_chars_of_isWhole (isWhole_line.trans whole)
        rw [Text.chars_eq_ok_iff.mpr same] at encoded
        cases encoded
      have fails : ¬ ∀ other ∈ d :: records, other.isWhole = true :=
        fun whole => broken (whole d List.mem_cons_self)
      rw [if_neg broken, if_neg fails]
      exact ⟨rfl, stray, rfl⟩
    | ok found =>
      have same := Text.chars_eq_ok_iff.mp encoded
      have whole : d.isWhole = true := by
        rw [← isWhole_line, same]
        exact Text.isWhole_map_char found
      have bytes : bytesOf [d] = Text.Utf8.encode found := by
        rw [bytesOf, text, List.flatMap_singleton, same, Text.Utf8.encodeText_map_char]
      rw [if_pos whole, ← List.singleton_append, bytesOf_append, bytes]
      refine ⟨congrArg (_ ++ ·) ih.1, ?_⟩
      simpa only [List.singleton_append, List.forall_mem_cons, whole, true_and] using ih.2

theorem exists_stray_of_encode {records : List Document} {e : Error}
    (failed : (encode records).2 = .error e) : ∃ stray, e = .unencodable stray := by
  have outcome := (encode_eq records).2
  rw [failed] at outcome
  split at outcome
  · cases outcome
  · obtain ⟨stray, same⟩ := outcome
    exact ⟨stray, Except.error.inj same⟩

/-- The lines of records are encoded if no half in the records stands alone. -/
theorem encode_of_isWhole {records : List Document} (whole : ∀ d ∈ records, d.isWhole = true) :
    encode records = (bytesOf records, .ok ()) := by
  obtain ⟨bytes, outcome⟩ := encode_eq records
  rw [if_pos whole] at outcome
  rw [encodable, List.takeWhile_eq_self_iff.mpr whole] at bytes
  exact Prod.ext bytes outcome

/-- The lines of records, without their line feeds. -/
theorem text_eq_ended (records : List Document) :
    text records = Text.ended (records.map (Json.write Json.plain)) := by
  rw [text, Text.ended, List.flatMap_map]
  rfl

/-- There is no line end inside the line of a record. -/
theorem not_mem_lines {records : List Document} (exact : ∀ d ∈ records, IsExact d) {c : CodePoint}
    (control : c.toNat < 0x20) : ∀ written ∈ records.map (Json.write Json.plain), c ∉ written := by
  intro written member
  obtain ⟨d, known, rfl⟩ := List.mem_map.mp member
  exact not_mem_write (exact d known) control

theorem linesWithEnds_text {records : List Document} (exact : ∀ d ∈ records, IsExact d) :
    Text.linesWithEnds (Text.unifyBreaks (text records)) = records.map line := by
  have unbroken := not_mem_lines exact (show (CodePoint.char '\r').toNat < 0x20 by decide)
  have whole := not_mem_lines exact (show (CodePoint.char '\n').toNat < 0x20 by decide)
  rw [text_eq_ended, Text.unifyBreaks_of_not_mem (Text.not_mem_ended unbroken (by decide)),
    Text.linesWithEnds_ended whole, List.map_map]
  rfl

variable [Nesting]

/-- The records are read line by line from the text of a file. -/
theorem map_read_fileLines_text {records : List Document} (kept : ∀ d ∈ records, IsKept d) :
    (Text.fileLines (text records)).map Json.read = records.map .ok := by
  have exact := fun d member => (kept d member).exact
  have unbroken := not_mem_lines exact (show (CodePoint.char '\r').toNat < 0x20 by decide)
  have whole := not_mem_lines exact (show (CodePoint.char '\n').toNat < 0x20 by decide)
  rw [text_eq_ended, Text.fileLines_ended whole unbroken, List.map_map]
  refine List.map_congr_left fun d member => ?_
  have read := @Json.read_write _ Json.plain d (kept d member) (keeps_plain d) []
    (List.forall_mem_nil _)
  rwa [List.append_nil] at read

/-- The line of a record is not blank, and the record is read from it. -/
theorem read_line {d : Document} (kept : IsKept d) :
    Text.isAllBlank (line d) = false ∧ Json.read (line d) = .ok d := by
  constructor
  · obtain ⟨c, more, first, start⟩ := Json.exists_start_write kept.exact (keeps_plain d)
    simp [line, first, Text.isAllBlank, start.1]
  · exact Json.read_write kept (keeps_plain d) (by simp [Json.isSpace])

section

variable {α : Type} {f : Filter} {record : α → Document} {p : α → Bool} {l : List α}

/-- The records that pass a filter are read from the lines of all. -/
theorem select_map_line (kept : ∀ a ∈ l, IsKept (record a))
    (admits : ∀ a ∈ l, f.admits (record a) = .ok (p a)) :
    select f ((l.map record).map line) = .ok ((l.filter p).map record) := by
  induction l with
  | nil => rfl
  | cons a l ih =>
    rw [List.forall_mem_cons] at kept admits
    obtain ⟨filled, read⟩ := read_line kept.1
    rw [List.map_cons, List.map_cons, select, filled, read, ih kept.2 admits.2]
    refine bind_eq_ok_iff.mpr ⟨record a, rfl, bind_eq_ok_iff.mpr ⟨p a, admits.1, ?_⟩⟩
    rw [List.filter_cons]
    cases p a <;> rfl

/-- The records that pass a filter are read from the file to which all are written. -/
theorem query_bytesOf_map (kept : ∀ a ∈ l, IsKept (record a))
    (whole : ∀ a ∈ l, (record a).isWhole = true)
    (admits : ∀ a ∈ l, f.admits (record a) = .ok (p a)) :
    query f (bytesOf (l.map record)) = .ok ((l.filter p).map record) := by
  have exact := List.forall_mem_map.mpr fun a member => (kept a member).exact
  have text := Text.Utf8.decodeText_encodeText (isWhole_text (List.forall_mem_map.mpr whole))
  simp only [query, bytesOf, text, linesWithEnds_text exact, select_map_line kept admits]

end

/-- The records that are written to a file are read from it. -/
theorem query_bytesOf {records : List Document} (kept : ∀ d ∈ records, IsKept d)
    (whole : ∀ d ∈ records, d.isWhole = true) : query {} (bytesOf records) = .ok records := by
  have all := @query_bytesOf_map _ _ {} id (fun _ => true) records kept whole fun _ _ => rfl
  rwa [List.filter_true, List.map_id] at all

/-- A filter leaves some of the records that are there. -/
theorem sublist_of_select {f : Filter} {lines : List (List CodePoint)} {all found : List Document}
    (whole : select {} lines = .ok all) (selected : select f lines = .ok found) :
    found.Sublist all := by
  induction lines generalizing all found with
  | nil =>
    obtain rfl := Except.ok.inj selected
    exact List.nil_sublist all
  | cons line rest ih =>
    rw [select] at whole selected
    split at whole
    · rename_i blank
      rw [if_pos blank] at selected
      exact ih whole selected
    · rename_i filled
      rw [if_neg filled] at selected
      obtain ⟨record, read, whole⟩ := bind_eq_ok_iff.mp whole
      obtain ⟨isAdmitted, admits, whole⟩ := bind_eq_ok_iff.mp whole
      obtain rfl : true = isAdmitted := Except.ok.inj admits
      obtain ⟨others, later, whole⟩ := bind_eq_ok_iff.mp whole
      obtain rfl := Except.ok.inj whole
      rw [read, ok_bind] at selected
      obtain ⟨isAdmitted, -, selected⟩ := bind_eq_ok_iff.mp selected
      obtain ⟨kept, later', selected⟩ := bind_eq_ok_iff.mp selected
      obtain rfl := Except.ok.inj selected
      have further := ih later later'
      cases isAdmitted
      · exact further.cons record
      · exact further.cons_cons record

theorem sublist_of_query {f : Filter} {bytes : List UInt8} {all found : List Document}
    (whole : query {} bytes = .ok all) (selected : query f bytes = .ok found) :
    found.Sublist all := by
  rw [query] at whole selected
  split at whole
  · cases whole
  · rename_i text decoded
    rw [decoded] at selected
    exact sublist_of_select whole selected

end LogTemplate.Sink.JsonLines
