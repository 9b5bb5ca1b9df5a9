import LogTemplate.Proofs.Library.Order
import LogTemplate.Proofs.OrderedMap
import LogTemplate.Proofs.Record.Member
import LogTemplate.Record.Writer

/-!
# Loading what was written

Each member of a written record is read back as what was written, so that the record of a pattern
with a name is without a fault, and describes that pattern.  Main statement: the records of the
patterns of a loaded library, in their order, load to the same library, and nothing is reported on
them.
-/

namespace LogTemplate

namespace TagSet

theorem place_of_forall_lt {tag : Text} {tags : List Text}
    (above : ∀ other ∈ tags, other < tag) : place tag tags = tags ++ [tag] := by
  induction tags with
  | nil => rfl
  | cons other rest ih =>
    rw [List.forall_mem_cons] at above
    have different : tag ≠ other := fun same => Text.lt_irrefl _ (same ▸ above.1)
    have behind : ¬ tag < other := fun before => Text.lt_irrefl _ (Text.lt_trans before above.1)
    rw [place, if_neg different, if_neg behind, ih above.2, List.cons_append]

/-- Texts in ascending order that are added one by one come behind those there are. -/
theorem tags_foldl_insert {s : TagSet} {tags : List Text}
    (ascending : (s.tags ++ tags).Pairwise (· < ·)) :
    (tags.foldl insert s).tags = s.tags ++ tags := by
  induction tags generalizing s with
  | nil => simp
  | cons tag rest ih =>
    have above : ∀ other ∈ s.tags, other < tag := by
      intro other member
      exact (List.pairwise_append.mp ascending).2.2 other member tag List.mem_cons_self
    have inserted : (s.insert tag).tags = s.tags ++ [tag] := place_of_forall_lt above
    rw [List.foldl_cons, ih, inserted, List.append_assoc, List.singleton_append]
    rwa [inserted, List.append_assoc, List.singleton_append]

theorem ext_tags {s t : TagSet} (same : s.tags = t.tags) : s = t := by
  cases s
  cases t
  cases same
  rfl

/-- A set is made again from the list of its members. -/
theorem ofList_tags (s : TagSet) : ofList s.tags = s := by
  have same : (ofList s.tags).tags = s.tags := tags_foldl_insert s.ascending
  exact ext_tags same

end TagSet

/-- A map is made again from its entries. -/
theorem OrderedMap.ofList_entries {α : Type} (m : OrderedMap α) : ofList m.entries = m := by
  have same := entries_ofList m.nodup
  generalize ofList m.entries = made at same
  cases m
  cases made
  cases same
  rfl

namespace Record

/-! ## Parts of a record -/

theorem readTexts_map_text (entries : List (Text × Text)) :
    readTexts (entries.map fun (key, value) => (key, .text value)) = .ok entries := by
  induction entries with
  | nil => rfl
  | cons e entries ih =>
    rw [List.map_cons, readTexts, ih]
    rfl

theorem readValues_ofTexts (m : OrderedMap Text) : readValues (Document.ofTexts m) = .ok m := by
  rw [Document.ofTexts, readValues, readTexts_map_text, Except.map, OrderedMap.ofList_entries]

theorem readTagItems_map_text (tags : List Text) :
    readTagItems (tags.map .text) = .ok tags := by
  induction tags with
  | nil => rfl
  | cons tag tags ih =>
    rw [List.map_cons, readTagItems, ih]
    rfl

theorem readTags_ofTags (s : TagSet) : readTags (Document.ofTags s) = .ok s := by
  rw [Document.ofTags, readTags, readTagItems_map_text, Except.map, TagSet.ofList_tags]

/-- An example is read back from its document, with its tags only if it has some to say. -/
theorem readExample_writeExample (index : Nat) (e : Example) :
    readExample index (writeExample e) = .ok e := by
  have text : exampleLine? (writeExample e) = some e.line := rfl
  have values : (writeExample e).get? "values" = some (Document.ofTexts e.values) := rfl
  have tags : (writeExample e).get "tags" = (e.tags.map Document.ofTags).getD .null := rfl
  obtain ⟨entries, mapping⟩ : ∃ entries, writeExample e = .mapping entries := ⟨_, rfl⟩
  rw [mapping] at text values tags ⊢
  simp only [readExample, text, values, tags, Option.getD_some, readValues_ofTexts]
  obtain ⟨line, _, none | s⟩ := e
  · rfl
  · rw [Option.map_some, Option.getD_some, readTags_ofTags]
    rfl

theorem readExamplesFrom_map_writeExample (index : Nat) (examples : List Example) :
    readExamplesFrom index (examples.map writeExample) = .ok examples := by
  induction examples generalizing index with
  | nil => rfl
  | cons e rest ih =>
    rw [List.map_cons, readExamplesFrom, readExample_writeExample, ih]
    rfl

end Record

namespace Pattern

/-- The record of a pattern whose name is not blank is without a fault. -/
theorem isFaultless_record {p : Pattern} (named : Text.isAllBlank p.name.toList = false) :
    Record.IsFaultless p.record p where
  mapping := ⟨_, rfl⟩
  name := ⟨rfl, named⟩
  uuid := ⟨p.uuid.text, rfl, p.uuid.isWrittenAs_text⟩
  template := ⟨p.template.source, rfl, Template.compile_eq_ok_iff.mpr rfl⟩
  values := .inr (Record.readValues_ofTexts p.defaults)
  tags := .inr (Record.readTags_ofTags p.tags)
  examples := .inr (Record.readExamplesFrom_map_writeExample 0 p.examples)

theorem pattern?_record {p : Pattern} (named : Text.isAllBlank p.name.toList = false) :
    Record.pattern? p.record = some p ∧ ∀ index, (Record.read index p.record).2 = [] := by
  have faultless := fun index => (Record.isFaultless_iff index).mp (isFaultless_record named)
  exact ⟨(faultless 0).1, fun index => (faultless index).2⟩

end Pattern

/-! ## The records of a library -/

/-- A pattern that a record describes has a name that is not blank. -/
theorem Record.isAllBlank_name_of_pattern? {record : Document} {p : Pattern}
    (described : pattern? record = some p) : Text.isAllBlank p.name.toList = false := by
  cases record with
  | mapping entries =>
    obtain ⟨name, -⟩ := Members.pattern?_eq_some_iff.mp described
    exact (readName_eq_ok_iff.mp (required_eq_ok_iff.mp name).2).2
  | _ => cases described

namespace Library

theorem isAllBlank_name_of_mem_load {records : List Document} {p : Pattern}
    (member : p ∈ (load records).library.patterns) : Text.isAllBlank p.name.toList = false := by
  obtain ⟨i, origin⟩ := mem_patterns_load.mp member
  obtain ⟨record, -, described⟩ := origin.described
  rw [Record.fst_read] at described
  exact Record.isAllBlank_name_of_pattern? described

/-- A library whose patterns have names is loaded again from their records. -/
theorem load_map_record {library : Library}
    (named : ∀ p ∈ library.patterns, Text.isAllBlank p.name.toList = false) :
    load (library.patterns.map Pattern.record) = ⟨library, []⟩ := by
  have described : (library.patterns.map Pattern.record).filterMap Record.pattern? =
      library.patterns := by
    rw [List.filterMap_map]
    calc library.patterns.filterMap (Record.pattern? ∘ Pattern.record)
        = library.patterns.filterMap some :=
          List.filterMap_congr fun p member => (Pattern.pattern?_record (named p member)).1
      _ = library.patterns := List.filterMap_some
  have distinct : HasDistinctUuids (library.patterns.map Pattern.record) := by
    rw [HasDistinctUuids, described]
    exact library.distinct
  obtain ⟨patterns, reported⟩ := load_of_hasDistinctUuids distinct
  have silent : (load (library.patterns.map Pattern.record)).diagnostics = [] := by
    rw [← List.map_eq_nil_iff (f := Diagnostic.unplaced), reported, List.flatMap_eq_nil_iff]
    intro record member
    obtain ⟨p, present, rfl⟩ := List.mem_map.mp member
    exact (Pattern.pattern?_record (named p present)).2 0
  have same := ext_patterns (patterns.trans described)
  generalize load (library.patterns.map Pattern.record) = loaded at same silent
  cases loaded
  cases same
  cases silent
  rfl

/-- What was loaded from some records is loaded again from the records of its patterns: the same
patterns in the same order, without a report. -/
theorem load_written (records : List Document) :
    load ((load records).library.patterns.map Pattern.record) = ⟨(load records).library, []⟩ :=
  load_map_record fun _ => isAllBlank_name_of_mem_load

/-- A pattern that is loaded and written is loaded again. -/
example :
    let record : Document := .mapping [("name", .text "A"),
      ("uuid", .text "9a5e4f2c-6d1b-4c8e-9f3a-2b7d1e0c5a41"), ("pattern", .text "user @ANY:u@")]
    (load ((load [record]).library.patterns.map Pattern.record)).library.patterns.map
      Pattern.name = ["A"] := by
  decide +kernel

end Library

end LogTemplate
