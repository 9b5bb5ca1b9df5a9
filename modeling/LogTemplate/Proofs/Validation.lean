import LogTemplate.Proofs.Library.Winner
import LogTemplate.Proofs.Library.Origin
import LogTemplate.Validation

/-!
# Valid libraries

A library is valid if nothing is reported on its records and all its examples pass.  Main statement:
this is so exactly if each record is without a fault, no two of them have the same UUID, and each
record confirms its own examples.
-/

namespace LogTemplate

theorem TagSet.isEmpty_without_iff {s t : TagSet} :
    (s.without t).tags.isEmpty = true ↔ ∀ tag ∈ s, tag ∈ t := by
  rw [List.isEmpty_iff, List.eq_nil_iff_forall_not_mem]
  constructor
  · intro missing tag member
    by_contra absent
    exact missing tag (mem_without.mpr ⟨member, absent⟩)
  · intro carried tag member
    obtain ⟨own, absent⟩ := mem_without.mp member
    exact absent (carried tag own)

/-- A pattern confirms an example: its template extracts from the line the values that the example
expects and no others, and it has the tags that the example expects. -/
structure Pattern.Confirms (p : Pattern) (e : Example) : Prop where
  values : ∃ extracted, p.extract e.line.toList = some extracted
    ∧ ∀ key, OrderedMap.lookup key extracted = e.values.get? key
  tags : ∀ expected, e.tags = some expected → ∀ tag ∈ expected, tag ∈ p.tags

/-! ## Records of which nothing is reported -/

namespace Library

/-- Nothing is reported on a record exactly if it is kept and without a fault. -/
theorem reports_eq_nil_iff {library : Library} {index : Nat} {record : Document} :
    library.reports index record = [] ↔
      ∃ p, library.fate record = .kept p ∧ Record.IsFaultless record p := by
  rw [reports, List.append_eq_nil_iff, Option.toList_eq_nil_iff]
  constructor
  · rintro ⟨silent, free⟩
    cases fate : library.fate record with
    | refused =>
      obtain ⟨d, member⟩ := Record.exists_mem_read index (fate_eq_refused_iff.mp fate)
      rw [silent] at member
      cases member
    | kept p =>
      have described := (fate_eq_kept_iff.mp fate).1
      exact ⟨p, rfl, (Record.isFaultless_iff index).mpr ⟨described, silent⟩⟩
    | taken p holder =>
      rw [fate] at free
      cases free
  · rintro ⟨p, kept, faultless⟩
    refine ⟨((Record.isFaultless_iff index).mp faultless).2, ?_⟩
    rw [kept]
    rfl

theorem forall₂_concat_left_iff {α β : Type} {R : α → β → Prop} {l : List α} {a : α} {u : List β} :
    List.Forall₂ R (l ++ [a]) u ↔ ∃ v b, List.Forall₂ R l v ∧ R a b ∧ u = v ++ [b] := by
  constructor
  · intro related
    have backwards := List.forall₂_reverse_iff.mpr related
    rw [List.reverse_concat, List.forall₂_cons_left_iff] at backwards
    obtain ⟨b, v, last, earlier, reversed⟩ := backwards
    refine ⟨v.reverse, b, ?_, last, ?_⟩
    · rw [← List.forall₂_reverse_iff, List.reverse_reverse]
      exact earlier
    · rw [← List.reverse_eq_cons_iff, reversed]
  · rintro ⟨v, b, earlier, last, rfl⟩
    exact List.rel_append earlier (.cons last .nil)

/-- Nothing is reported on records exactly if they are without a fault and have different UUIDs, and
the library then has the pattern of each. -/
theorem diagnostics_load_eq_nil_iff {records : List Document} {patterns : List Pattern} :
    (load records).diagnostics = [] ∧ (load records).library.patterns = patterns ↔
      List.Forall₂ Record.IsFaultless records patterns ∧ (patterns.map Pattern.uuid).Nodup := by
  induction records using List.reverseRecOn generalizing patterns with
  | nil =>
    rw [List.forall₂_nil_left_iff]
    constructor
    · rintro ⟨-, rfl⟩
      exact ⟨rfl, List.nodup_nil⟩
    · rintro ⟨rfl, -⟩
      exact ⟨rfl, rfl⟩
  | append_singleton records record ih =>
    obtain ⟨gained, reported⟩ := load_concat records record
    rw [gained, reported, List.append_eq_nil_iff, reports_eq_nil_iff]
    constructor
    · rintro ⟨⟨silent, p, kept, faultless⟩, rfl⟩
      have distinct := (load (records ++ [record])).library.distinct
      rw [gained] at distinct
      refine ⟨?_, distinct⟩
      rw [kept]
      exact forall₂_concat_left_iff.mpr ⟨_, p, (ih.mp ⟨silent, rfl⟩).1, faultless, rfl⟩
    · rintro ⟨faultless, distinct⟩
      obtain ⟨earlier, p, before, own, rfl⟩ := forall₂_concat_left_iff.mp faultless
      rw [List.map_append, List.nodup_append] at distinct
      obtain ⟨silent, same⟩ := ih.mpr ⟨before, distinct.1⟩
      have free : (load records).library.get? p.uuid = none := by
        rw [get?_eq_none_iff, same]
        intro held
        exact distinct.2.2 p.uuid held p.uuid List.mem_cons_self rfl
      have described := ((Record.isFaultless_iff 0).mp own).1
      have kept := fate_eq_kept_iff.mpr ⟨described, free⟩
      refine ⟨⟨silent, p, kept, own⟩, ?_⟩
      rw [kept, same]
      rfl

end Library

/-! ## Examples that pass -/

namespace Validation

theorem verdict_runExample_eq_pass_iff {p : Pattern} {index : Nat} {e : Example} :
    (runExample p index e).verdict = .pass ↔ p.Confirms e := by
  have carried : ((e.tags.getD {}).without p.tags).tags.isEmpty = true ↔
      ∀ expected, e.tags = some expected → ∀ tag ∈ expected, tag ∈ p.tags := by
    rw [TagSet.isEmpty_without_iff]
    cases e.tags with
    | none =>
      constructor
      · nofun
      · intro _ tag member
        cases member
    | some expected => simp
  rw [runExample]
  cases extracts : p.extract e.line.toList with
  | none =>
    constructor
    · nofun
    · rintro ⟨⟨extracted, found, -⟩, -⟩
      rw [extracts] at found
      cases found
  | some extracted =>
    have entries := OrderedMap.entries_ofList (Pattern.nodup_of_extract extracts)
    have agreed : (OrderedMap.ofList extracted).agrees e.values = true ↔
        ∀ key, OrderedMap.lookup key extracted = e.values.get? key := by
      simp only [OrderedMap.agrees_iff, OrderedMap.get?, entries]
    have passes : ∀ passes : Bool,
        (if passes = true then Verdict.pass else .fail) = .pass ↔ passes = true := by
      decide
    simp only [passes, Bool.and_eq_true, agreed, carried]
    constructor
    · rintro ⟨values, tags⟩
      exact ⟨⟨extracted, extracts, values⟩, tags⟩
    · rintro ⟨⟨other, again, values⟩, tags⟩
      obtain rfl : extracted = other := Option.some.inj (extracts.symm.trans again)
      exact ⟨values, tags⟩

/-- An example is not matched exactly if the template does not match its line. -/
theorem verdict_runExample_eq_noMatch_iff {p : Pattern} {index : Nat} {e : Example} :
    (runExample p index e).verdict = .noMatch ↔ p.extract e.line.toList = none := by
  rw [runExample]
  cases p.extract e.line.toList with
  | none => simp
  | some extracted =>
    dsimp only
    split
    · simp
    · simp

theorem getElem?_ofPattern {p : Pattern} {index : Nat} {e : Example}
    (given : p.examples[index]? = some e) :
    (ofPattern p)[index]? = some (runExample p index e) := by
  simp [ofPattern, given]

theorem mem_ofPattern {p : Pattern} {o : Outcome} :
    o ∈ ofPattern p ↔ ∃ index e, p.examples[index]? = some e ∧ runExample p index e = o := by
  simp only [ofPattern, List.mem_map, Prod.exists, List.mem_zipIdx_iff_getElem?]
  exact exists_comm

/-- A library is valid if nothing is reported and each pattern confirms its own examples. -/
theorem isValid_report_iff {library : Library} {diagnostics : List Diagnostic} :
    (report library diagnostics).isValid = true ↔
      diagnostics = [] ∧ ∀ p ∈ library.patterns, ∀ e ∈ p.examples, p.Confirms e := by
  have passing : (report library diagnostics).failures = [] ↔
      ∀ p ∈ library.patterns, ∀ e ∈ p.examples, p.Confirms e := by
    simp only [Report.failures, report, outcomes, List.filter_eq_nil_iff, bne_iff_ne, ne_eq,
      not_not, List.mem_flatMap, mem_ofPattern]
    constructor
    · intro pass p member e own
      obtain ⟨index, found⟩ := List.mem_iff_getElem?.mp own
      exact verdict_runExample_eq_pass_iff.mp (pass _ ⟨p, member, index, e, found, rfl⟩)
    · rintro confirmed o ⟨p, member, index, e, found, rfl⟩
      exact verdict_runExample_eq_pass_iff.mpr (confirmed p member e (List.mem_of_getElem? found))
  rw [Report.isValid, Bool.and_eq_true, List.isEmpty_iff, List.isEmpty_iff, passing]
  rfl

/-- Loaded records validate exactly if each of them is without a fault, no two of them have the same
UUID, and each pattern confirms its own examples. -/
theorem isValid_load_iff (records : List Document) :
    (report (Library.load records).library (Library.load records).diagnostics).isValid = true ↔
      ∃ patterns, List.Forall₂ Record.IsFaultless records patterns
        ∧ (patterns.map Pattern.uuid).Nodup
        ∧ ∀ p ∈ patterns, ∀ e ∈ p.examples, p.Confirms e := by
  rw [isValid_report_iff]
  constructor
  · rintro ⟨silent, confirmed⟩
    obtain ⟨faultless, distinct⟩ := Library.diagnostics_load_eq_nil_iff.mp ⟨silent, rfl⟩
    exact ⟨_, faultless, distinct, confirmed⟩
  · rintro ⟨patterns, faultless, distinct, confirmed⟩
    obtain ⟨silent, rfl⟩ := Library.diagnostics_load_eq_nil_iff.mpr ⟨faultless, distinct⟩
    exact ⟨silent, confirmed⟩

end Validation

end LogTemplate
