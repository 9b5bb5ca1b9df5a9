import LogTemplate.Entry
import LogTemplate.Proofs.Json.RoundTrip
import LogTemplate.Proofs.Uuid
import LogTemplate.Sink.Affinity
import Mathlib.Data.List.Sort

/-!
# What the hash of an entry covers

Main statement: the texts that are hashed for two entries are the same exactly if the entries have
the same number, line, UUID and values.
-/

namespace LogTemplate

/-! ## Sorted entries -/

namespace OrderedMap

variable {α : Type}

theorem lookup_map {β : Type} (f : α → β) (key : Text) (entries : List (Text × α)) :
    lookup key (entries.map fun e => (e.1, f e.2)) = (lookup key entries).map f := by
  induction entries with
  | nil => rfl
  | cons e entries ih =>
    rw [List.map_cons, lookup, lookup, ih]
    split <;> rfl

theorem lookup_of_perm {key : Text} {entries others : List (Text × α)}
    (distinct : (entries.map Prod.fst).Nodup) (same : others.Perm entries) :
    lookup key others = lookup key entries := by
  have distinct' : (others.map Prod.fst).Nodup := ((same.map Prod.fst).nodup_iff).mpr distinct
  ext value
  rw [lookup_eq_some_iff distinct, lookup_eq_some_iff distinct', same.mem_iff]

theorem perm_of_agrees [DecidableEq α] {m n : OrderedMap α} (same : m.agrees n = true) :
    m.entries.Perm n.entries := by
  have own : m.entries.Nodup := List.Nodup.of_map Prod.fst m.nodup
  have other : n.entries.Nodup := List.Nodup.of_map Prod.fst n.nodup
  rw [List.perm_ext_iff_of_nodup own other]
  rintro ⟨key, value⟩
  rw [← lookup_eq_some_iff m.nodup, ← lookup_eq_some_iff n.nodup]
  exact iff_of_eq (congrArg (· = some value) (agrees_iff.mp same key))

theorem agrees_of_perm [DecidableEq α] {m n : OrderedMap α} (same : m.entries.Perm n.entries) :
    m.agrees n = true :=
  agrees_iff.mpr fun _ => lookup_of_perm n.nodup same

end OrderedMap

namespace Json

/-- Entries with distinct keys come to the same order when they are sorted. -/
theorem sortByKey_eq_of_perm {α : Type} {entries others : List (Text × α)}
    (distinct : (entries.map Prod.fst).Nodup) (same : entries.Perm others) :
    sortByKey entries = sortByKey others := by
  have ordered : ∀ l : List (Text × α), (sortByKey l).Pairwise fun a b => a.1 ≤ b.1 := by
    intro l
    have sorted := @List.pairwise_mergeSort _ (fun a b : Text × α => decide (a.1 ≤ b.1))
      (fun a b c ab bc => by
        simp only [decide_eq_true_eq] at ab bc ⊢
        exact Text.le_trans ab bc)
      (fun a b => by simpa using Text.le_total a.1 b.1) l
    exact sorted.imp fun le => by simpa using le
  have perm : (sortByKey entries).Perm (sortByKey others) :=
    (sortByKey_perm entries).trans (same.trans (sortByKey_perm others).symm)
  refine perm.eq_of_pairwise ?_ (ordered entries) (ordered others)
  intro a b first second ab ba
  have keys : a.1 = b.1 := Text.le_antisymm ab ba
  have first' : a ∈ entries := (sortByKey_perm entries).mem_iff.mp first
  have second' : b ∈ entries := same.mem_iff.mpr ((sortByKey_perm others).mem_iff.mp second)
  exact List.inj_on_of_nodup_map distinct first' second' keys

/-- A mapping of texts, once it is sorted. -/
theorem sorted_ofTexts (m : OrderedMap Text) :
    sorted (Document.ofTexts m) =
      .mapping (sortByKey (m.entries.map fun e => (e.1, .text e.2))) := by
  rw [Document.ofTexts, sorted, sortedEntries_eq_map, List.map_map]
  rfl

/-- Mappings of texts are the same once they are sorted exactly if the maps agree. -/
theorem sorted_ofTexts_eq_iff {m n : OrderedMap Text} :
    sorted (Document.ofTexts m) = sorted (Document.ofTexts n) ↔ m.agrees n = true := by
  have keys : ∀ m : OrderedMap Text,
      ((m.entries.map fun e => (e.1, Document.text e.2)).map Prod.fst).Nodup := by
    intro m
    rw [List.map_map]
    exact m.nodup
  constructor
  · intro same
    refine OrderedMap.agrees_iff.mpr fun key => ?_
    have value := congrArg (Document.get? key) same
    rw [sorted_ofTexts, sorted_ofTexts, Document.get?, Document.get?,
      OrderedMap.lookup_of_perm (keys m) (sortByKey_perm _),
      OrderedMap.lookup_of_perm (keys n) (sortByKey_perm _), OrderedMap.lookup_map,
      OrderedMap.lookup_map] at value
    exact Option.map_injective (fun _ _ same => Document.text.inj same) value
  · intro same
    rw [sorted_ofTexts, sorted_ofTexts,
      sortByKey_eq_of_perm (keys m) ((OrderedMap.perm_of_agrees same).map _)]

end Json

namespace Entry

/-- The UUID of the pattern that matches the line. -/
def uuid? (e : Entry) : Option Uuid := e.found.map (·.uuid)

/-- The values that are found in the line; none without a match. -/
def values (e : Entry) : OrderedMap Text := (e.found.map (·.values)).getD {}

/-- The tags of the pattern that matches the line; none without a match. -/
def tags (e : Entry) : TagSet := (e.found.map (·.tags)).getD {}

/-- The text that is hashed for an entry. -/
def hashText (e : Entry) : List CodePoint := Json.write Json.canonical (hashed e.document)

theorem hash_eq (e : Entry) : e.hash = Sha256.hex (Text.Utf8.encodeText e.hashText) := rfl

/-- The members of the document of an entry. -/
theorem document_eq (e : Entry) :
    e.document = .mapping [
      ("line_number", .int e.number), ("line", .text e.line), ("matched", .bool e.found.isSome),
      ("uuid", Document.ofText? (e.uuid?.map (·.text))),
      ("name", Document.ofText? (e.found.map (·.name))), ("values", Document.ofTexts e.values),
      ("tags", Document.ofTags e.tags), ("content_hash", .text e.hash)] := by
  obtain ⟨number, line, found⟩ := e
  cases found <;> rfl

/-- The document that is hashed for an entry. -/
theorem hashed_document (e : Entry) :
    hashed e.document = .mapping [
      ("line_number", .int e.number), ("line", .text e.line),
      ("uuid", Document.ofText? (e.uuid?.map (·.text))),
      ("values", Document.ofTexts e.values)] := by
  obtain ⟨number, line, found⟩ := e
  cases found <;> rfl

theorem length_int_le {n : Int} (fits : Sink.fits n = true) :
    (toString n.natAbs).length ≤ Numeral.digitLimit := by
  have bounds : n.natAbs < 10 ^ 19 := by
    rw [Sink.fits, Bool.and_eq_true, decide_eq_true_eq, decide_eq_true_eq] at fits
    have low : (-0x8000000000000000 : Int) ≤ n := fits.1
    have limit : (10 : Nat) ^ 19 = 10000000000000000000 := rfl
    omega
  have length := (Nat.length_repr_le_iff (by decide)).mpr bounds
  rw [Nat.toString_eq_repr]
  exact length.trans (by decide)

theorem isExact_ofText? (s : Option Text) : Json.IsExact (Document.ofText? s) := by
  cases s <;> trivial

theorem isExact_ofTexts (m : OrderedMap Text) : Json.IsExact (Document.ofTexts m) := by
  refine ⟨?_, Json.haveExact_iff.mpr ?_⟩
  · rw [List.map_map]
    exact m.nodup
  · intro e member
    obtain ⟨_, _, rfl⟩ := List.mem_map.mp member
    trivial

theorem distinct_hashed {number line uuid values : Document} :
    (([("line_number", number), ("line", line), ("uuid", uuid), ("values", values)] :
      List (Text × Document)).map Prod.fst).Nodup := by
  simp

theorem isExact_hashed {e : Entry} (fits : Sink.fits e.number = true) :
    Json.IsExact (hashed e.document) := by
  rw [hashed_document]
  simp only [Json.IsExact, Json.HaveExact]
  exact ⟨distinct_hashed, length_int_le fits, trivial, isExact_ofText? _, isExact_ofTexts _,
    trivial⟩

/-! ## Entries without halves that stand alone -/

/-- No half stands alone in what the hash of an entry covers: the line and the values. -/
structure IsHashable (e : Entry) : Prop where
  line : Text.isWhole e.line.toList = true
  values : ∀ entry ∈ e.values.entries,
    Text.isWhole entry.1.toList = true ∧ Text.isWhole entry.2.toList = true

/-- No half stands alone in the line, the values and the name of an entry.  The tags need not be
whole to become a cell: they are written in ASCII to a table. -/
structure IsBindable (e : Entry) : Prop extends e.IsHashable where
  name : ∀ found ∈ e.found, Text.isWhole found.name.toList = true

/-- No half stands alone in an entry. -/
structure IsWhole (e : Entry) : Prop extends e.IsBindable where
  tags : ∀ tag ∈ e.tags, Text.isWhole tag.toList = true

instance (e : Entry) : Decidable e.IsWhole :=
  decidable_of_iff (Text.isWhole e.line.toList = true
      ∧ (∀ entry ∈ e.values.entries,
        Text.isWhole entry.1.toList = true ∧ Text.isWhole entry.2.toList = true)
      ∧ (∀ found ∈ e.found, Text.isWhole found.name.toList = true)
      ∧ ∀ tag ∈ e.tags.tags, Text.isWhole tag.toList = true)
    ⟨fun ⟨line, values, name, tags⟩ => ⟨⟨⟨line, values⟩, name⟩, tags⟩,
      fun whole => ⟨whole.line, whole.values, whole.name, whole.tags⟩⟩

/-- An entry can be bound, and no two halves in a tag make a character. -/
structure IsStorable (e : Entry) : Prop extends e.IsBindable where
  tags : ∀ tag ∈ e.tags, Json.IsUnjoined tag.toList

/-- A line that nothing matches makes an entry of its own text. -/
theorem isWhole_unmatched (number : Int) (line : String) :
    (⟨number, line, none⟩ : Entry).IsWhole :=
  ⟨⟨⟨Text.isWhole_map_char _, List.forall_mem_nil _⟩, nofun⟩, List.forall_mem_nil _⟩

theorem IsWhole.isStorable {e : Entry} (whole : e.IsWhole) : e.IsStorable :=
  ⟨whole.toIsBindable, fun tag member => Json.isUnjoined_of_isWhole (whole.tags tag member)⟩

theorem isWhole_ofTexts_iff {m : OrderedMap Text} :
    (Document.ofTexts m).isWhole = true ↔ ∀ entry ∈ m.entries,
      Text.isWhole entry.1.toList = true ∧ Text.isWhole entry.2.toList = true := by
  rw [Document.ofTexts, Json.isWhole_mapping, List.all_map, List.all_eq_true]
  refine forall₂_congr fun entry _ => ?_
  simp [Document.isWhole, Document.texts]

theorem isWhole_ofText?_iff {s : Option Text} :
    (Document.ofText? s).isWhole = true ↔ ∀ t ∈ s, Text.isWhole t.toList = true := by
  cases s <;> simp [Document.ofText?, Document.isWhole, Document.texts]

theorem isWhole_ofTags_iff {s : TagSet} :
    (Document.ofTags s).isWhole = true ↔ ∀ tag ∈ s, Text.isWhole tag.toList = true := by
  rw [Document.ofTags, Json.isWhole_list, List.all_map, List.all_eq_true]
  refine forall₂_congr fun tag _ => ?_
  simp [Document.isWhole, Document.texts]

theorem isWhole_ofUuid? (u : Option Uuid) :
    (Document.ofText? (u.map (·.text))).isWhole = true := by
  refine isWhole_ofText?_iff.mpr fun shown member => ?_
  obtain ⟨u, -, rfl⟩ := Option.map_eq_some_iff.mp member
  exact u.isWhole_text

theorem isWhole_hash (e : Entry) : Text.isWhole e.hash.toList = true := Sha256.isWhole_hex _

/-- What is hashed is kept by every style. -/
theorem keeps_hashed {e : Entry} (whole : e.IsHashable) (style : Json.Style) :
    style.Keeps (hashed e.document).texts := by
  refine style.keeps_of_isWhole ?_
  have keys : ∀ key ∈ ["line_number", "line", "uuid", "values"],
      Text.isWhole (Text.toList key) = true := fun _ _ => Text.isWhole_map_char _
  simp only [List.forall_mem_cons] at keys
  have line : (Document.text e.line).isWhole = true := by
    simpa [Document.isWhole, Document.texts] using whole.line
  have number : (Document.int e.number).isWhole = true := rfl
  rw [hashed_document, Json.isWhole_mapping]
  simp only [List.all_cons, keys, number, line, isWhole_ofUuid?,
    isWhole_ofTexts_iff.mpr whole.values, List.all_nil, Bool.and_self]

/-- No half stands alone in the document of an entry exactly if none does in the entry. -/
theorem isWhole_document_iff {e : Entry} : e.document.isWhole = true ↔ e.IsWhole := by
  have keys : ∀ key ∈ ["line_number", "line", "matched", "uuid", "name", "values", "tags",
      "content_hash"], Text.isWhole (Text.toList key) = true := fun _ _ => Text.isWhole_map_char _
  simp only [List.forall_mem_cons] at keys
  have number : (Document.int e.number).isWhole = true := rfl
  have matched : (Document.bool e.found.isSome).isWhole = true := rfl
  have line : (Document.text e.line).isWhole = Text.isWhole e.line.toList := Bool.and_true _
  have hash : (Document.text e.hash).isWhole = true := (Bool.and_true _).trans e.isWhole_hash
  have members : e.document.isWhole = true ↔ Text.isWhole e.line.toList = true
      ∧ (Document.ofText? (e.found.map (·.name))).isWhole = true
      ∧ (Document.ofTexts e.values).isWhole = true ∧ (Document.ofTags e.tags).isWhole = true := by
    rw [document_eq, Json.isWhole_mapping]
    simp only [List.all_cons, keys, number, matched, line, hash, isWhole_ofUuid?, List.all_nil,
      Bool.and_true, Bool.true_and, Bool.and_eq_true]
  rw [members, isWhole_ofText?_iff, isWhole_ofTexts_iff, isWhole_ofTags_iff]
  simp only [Option.mem_def, Option.map_eq_some_iff, forall_exists_index, and_imp,
    forall_apply_eq_imp_iff₂]
  exact ⟨fun ⟨line, name, values, tags⟩ => ⟨⟨⟨line, values⟩, name⟩, tags⟩,
    fun whole => ⟨whole.line, whole.name, whole.values, whole.tags⟩⟩

theorem forall_isWhole_document_iff {entries : List Entry} :
    (∀ d ∈ entries.map Entry.document, d.isWhole = true) ↔ ∀ e ∈ entries, e.IsWhole := by
  rw [List.forall_mem_map]
  exact forall₂_congr fun _ _ => isWhole_document_iff

theorem ofText?_injective {s t : Option Text} (same : Document.ofText? s = Document.ofText? t) :
    s = t := by
  cases s <;> cases t <;> simp_all [Document.ofText?]

theorem sorted_ofText? (s : Option Text) :
    Json.sorted (Document.ofText? s) = Document.ofText? s := by
  cases s <;> rfl

/-- The document that is hashed for an entry, once its members are in the order of their keys. -/
theorem sorted_hashed (e : Entry) :
    Json.sorted (hashed e.document) = .mapping [
      ("line", .text e.line), ("line_number", .int e.number),
      ("uuid", Document.ofText? (e.uuid?.map (·.text))),
      ("values", Json.sorted (Document.ofTexts e.values))] := by
  have keys : (["line", "line_number", "uuid", "values"] : List Text).Pairwise
      fun key other => decide (key ≤ other) = true := by
    decide
  have ordered : Json.sortByKey [("line", Document.text e.line), ("line_number", .int e.number),
      ("uuid", Document.ofText? (e.uuid?.map (·.text))),
      ("values", Json.sorted (Document.ofTexts e.values))] = _ :=
    List.mergeSort_of_pairwise ((List.pairwise_map (f := Prod.fst)
      (R := fun key other : Text => decide (key ≤ other) = true)).mp keys)
  rw [hashed_document, Json.sorted]
  simp only [Json.sortedEntries, sorted_ofText?]
  rw [Json.sortByKey_eq_of_perm distinct_hashed (List.Perm.swap _ _ _), ← ordered]
  rfl

theorem hashText_eq (e : Entry) :
    e.hashText = Json.write Json.canonical.inOrder (Json.sorted (hashed e.document)) :=
  Json.write_of_sortedKeys rfl _

/-- The name, the tags and the order of the values have no part in what is hashed. -/
theorem hashText_eq_of_agrees {e f : Entry} (number : e.number = f.number) (line : e.line = f.line)
    (uuid : e.uuid? = f.uuid?) (values : e.values.agrees f.values = true) :
    e.hashText = f.hashText := by
  rw [hashText_eq, hashText_eq, sorted_hashed, sorted_hashed, number, line, uuid,
    Json.sorted_ofTexts_eq_iff.mpr values]

/-- The texts that are hashed for two entries are the same exactly if their numbers, lines, UUIDs
and values are. -/
theorem hashText_eq_iff {e f : Entry} (fits : Sink.fits e.number = true) (whole : e.IsHashable)
    (fits' : Sink.fits f.number = true) (whole' : f.IsHashable) :
    e.hashText = f.hashText ↔
      e.number = f.number ∧ e.line = f.line ∧ e.uuid? = f.uuid?
        ∧ e.values.agrees f.values = true := by
  let deepest := max (Json.depth (hashed e.document)) (Json.depth (hashed f.document))
  have read : ∀ {e : Entry}, Sink.fits e.number = true → e.IsHashable →
      Json.depth (hashed e.document) ≤ deepest →
      Json.readWithin deepest e.hashText = .ok (Json.sorted (hashed e.document)) := by
    intro e fits whole shallow
    have text := @Json.readWithin_write Json.canonical _ (isExact_hashed fits)
      (keeps_hashed whole _) _ shallow [] (by simp)
    rwa [List.append_nil] at text
  constructor
  · intro same
    have first := read fits whole (Nat.le_max_left _ _)
    have second := read fits' whole' (Nat.le_max_right _ _)
    rw [same] at first
    have sorted : Json.sorted (hashed e.document) = Json.sorted (hashed f.document) :=
      Except.ok.inj (first.symm.trans second)
    simp only [sorted_hashed, Document.mapping.injEq, List.cons.injEq, Prod.mk.injEq, true_and,
      and_true, Document.text.injEq, Document.int.injEq] at sorted
    obtain ⟨line, number, uuid, values⟩ := sorted
    have uuid' : e.uuid? = f.uuid? :=
      Option.map_injective (fun _ _ => Uuid.text_injective) (ofText?_injective uuid)
    exact ⟨number, line, uuid', Json.sorted_ofTexts_eq_iff.mp values⟩
  · rintro ⟨number, line, uuid, values⟩
    exact hashText_eq_of_agrees number line uuid values

/-! ## The entries of lines -/

theorem length_ofLines (index : Index) (workers first : Int) (lines : List (List CodePoint)) :
    (ofLines index workers first lines).length = lines.length := by
  induction lines generalizing first with
  | nil => rw [ofLines_nil, List.length_nil, List.length_nil]
  | cons line lines ih => rw [ofLines_cons, List.length_cons, ih, List.length_cons]

/-- How many workers share the lines makes no difference. -/
theorem ofLines_eq_of_workers (index : Index) (workers other first : Int)
    (lines : List (List CodePoint)) :
    ofLines index workers first lines = ofLines index other first lines := by
  rw [ofLines, ofLines, Index.matchAll_eq_map, Index.matchAll_eq_map]

/-- Lines that are cut in two are numbered on behind the cut. -/
theorem ofLines_append (index : Index) (workers first : Int)
    (lines others : List (List CodePoint)) :
    ofLines index workers first (lines ++ others) =
      ofLines index workers first lines
        ++ ofLines index workers (first + lines.length) others := by
  induction lines generalizing first with
  | nil =>
    rw [ofLines_nil, List.nil_append, List.nil_append, List.length_nil]
    exact congrArg (ofLines index workers · others) (Int.add_zero first).symm
  | cons line lines ih =>
    have next : first + 1 + lines.length = first + (line :: lines).length := by
      rw [List.length_cons]
      push_cast
      omega
    rw [List.cons_append, ofLines_cons, ofLines_cons, ih, next, List.cons_append]

/-- Lines are numbered one after the other. -/
theorem number_bounds {index : Index} {workers first : Int} {lines : List (List CodePoint)} :
    ∀ e ∈ ofLines index workers first lines,
      first ≤ e.number ∧ e.number < first + lines.length := by
  induction lines generalizing first with
  | nil => rw [ofLines_nil]; exact fun _ member => absurd member (by simp)
  | cons line lines ih =>
    rw [ofLines_cons, List.length_cons, List.forall_mem_cons]
    refine ⟨⟨Int.le_refl _, by push_cast; omega⟩, fun e member => ?_⟩
    have bounds := ih e member
    push_cast
    omega

theorem pairwise_number {index : Index} {workers first : Int} {lines : List (List CodePoint)} :
    (ofLines index workers first lines).Pairwise fun e f => e.number < f.number := by
  induction lines generalizing first with
  | nil => rw [ofLines_nil]; exact List.Pairwise.nil
  | cons line lines ih =>
    rw [ofLines_cons]
    refine List.pairwise_cons.mpr ⟨fun e member => ?_, ih⟩
    have bounds := number_bounds e member
    dsimp only
    omega

theorem fits_number {index : Index} {workers : Int} {lines : List (List CodePoint)}
    (few : lines.length < 2 ^ 63) :
    ∀ e ∈ ofLines index workers 1 lines, Sink.fits e.number = true := by
  intro e member
  have bounds := number_bounds e member
  rw [Sink.fits, Bool.and_eq_true, decide_eq_true_eq, decide_eq_true_eq]
  have low : (Sink.minInteger : Int) ≤ 1 := by decide
  constructor <;> omega

/-- Entries with different numbers have different hashes, as long as no two texts have the same. -/
theorem hash_ne {e f : Entry} (fits : Sink.fits e.number = true) (whole : e.IsHashable)
    (fits' : Sink.fits f.number = true) (whole' : f.IsHashable)
    (apart : e.hash = f.hash → e.hashText = f.hashText)
    (other : e.number ≠ f.number) : e.hash ≠ f.hash := fun same =>
  other ((hashText_eq_iff fits whole fits' whole').mp (apart same)).1

end Entry

end LogTemplate
