import LogTemplate.Proofs.Validation

/-!
# The outcomes of a library

Validation runs the examples of all patterns, one pattern after the other.  Main statement: there is
one outcome for each example, in the order of the patterns and of their examples, it is named by the
UUID of its pattern and its place, and no other pattern has a part in it.
-/

namespace LogTemplate

/-- The pattern of a library is found by its UUID. -/
theorem Library.get?_of_mem {library : Library} {p : Pattern} (member : p ∈ library.patterns) :
    library.get? p.uuid = some p := by
  cases held : library.get? p.uuid with
  | none => exact absurd (List.mem_map_of_mem member) (get?_eq_none_iff.mp held)
  | some q =>
    have present := List.mem_of_find?_eq_some held
    exact congrArg some
      (List.inj_on_of_nodup_map library.distinct present member (uuid_of_get? held))

section

variable {α β : Type} (f : α → List β)

/-- What one item of a list gives stands behind what the items before it give. -/
theorem getElem?_flatMap {l : List α} {k : Nat} {a : α} (found : l[k]? = some a) {i : Nat}
    (inside : i < (f a).length) :
    (l.flatMap f)[((l.take k).map fun a => (f a).length).sum + i]? = (f a)[i]? := by
  induction l generalizing k with
  | nil => cases found
  | cons b l ih =>
    cases k with
    | zero =>
      obtain rfl : b = a := Option.some.inj found
      rw [List.take_zero, List.map_nil, List.sum_nil, Nat.zero_add, List.flatMap_cons,
        List.getElem?_append_left inside]
    | succ k =>
      rw [List.take_succ_cons, List.map_cons, List.sum_cons, List.flatMap_cons, Nat.add_assoc,
        List.getElem?_append_right (Nat.le_add_right ..), Nat.add_sub_cancel_left]
      exact ih found

end

namespace Validation

/-- An outcome is that of the example at a place of a pattern: whether the template matches the line
at all, whether it extracts what the example expects and the pattern has the tags that the example
expects, and if not, which of these tags the pattern lacks. -/
structure Outcome.Judges (o : Outcome) (p : Pattern) (index : Nat) (e : Example) : Prop where
  uuid : o.uuid = p.uuid
  index : o.index = index
  expected : o.expected = e.values
  actual : o.actual.map OrderedMap.entries = p.extract e.line.toList
  noMatch : o.verdict = .noMatch ↔ p.extract e.line.toList = none
  pass : o.verdict = .pass ↔ p.Confirms e
  fail : o.verdict = .fail ↔ p.extract e.line.toList ≠ none ∧ ¬ p.Confirms e
  missing : o.verdict = .fail → ∀ tag, tag ∈ o.missingTags ↔
    (∃ expected, e.tags = some expected ∧ tag ∈ expected) ∧ tag ∉ p.tags

/-- The tags that an example expects and the pattern lacks. -/
theorem mem_without_iff {e : Example} {p : Pattern} {tag : Text} :
    tag ∈ (e.tags.getD {}).without p.tags ↔
      (∃ expected, e.tags = some expected ∧ tag ∈ expected) ∧ tag ∉ p.tags := by
  rw [TagSet.mem_without]
  cases e.tags with
  | none => simpa using fun member => nomatch member
  | some expected => simp

theorem judges_runExample (p : Pattern) (index : Nat) (e : Example) :
    (runExample p index e).Judges p index e := by
  have noMatch := @verdict_runExample_eq_noMatch_iff p index e
  have pass := @verdict_runExample_eq_pass_iff p index e
  have fail : (runExample p index e).verdict = .fail ↔
      p.extract e.line.toList ≠ none ∧ ¬ p.Confirms e := by
    rw [Ne, ← noMatch, ← pass]
    cases (runExample p index e).verdict <;> decide
  have copied : (runExample p index e).uuid = p.uuid ∧ (runExample p index e).index = index
      ∧ (runExample p index e).expected = e.values := by
    rw [runExample]
    cases p.extract e.line.toList <;> exact ⟨rfl, rfl, rfl⟩
  refine ⟨copied.1, copied.2.1, copied.2.2, ?_, noMatch, pass, fail, fun failed tag => ?_⟩
  · rw [runExample]
    cases extracts : p.extract e.line.toList with
    | none => rfl
    | some extracted =>
      exact congrArg some (OrderedMap.entries_ofList (Pattern.nodup_of_extract extracts))
  · obtain ⟨extracted, extracts⟩ := Option.ne_none_iff_exists'.mp (fail.mp failed).1
    rw [runExample, extracts]
    exact mem_without_iff

theorem length_ofPattern (p : Pattern) : (ofPattern p).length = p.examples.length := by
  rw [ofPattern, List.length_map, List.length_zipIdx]

theorem uuid_of_mem_ofPattern {p : Pattern} {o : Outcome} (member : o ∈ ofPattern p) :
    o.uuid = p.uuid := by
  obtain ⟨index, e, -, rfl⟩ := mem_ofPattern.mp member
  exact (judges_runExample p index e).uuid

/-- The outcomes of a pattern are those of the places of its examples. -/
theorem map_index_ofPattern (p : Pattern) :
    (ofPattern p).map Outcome.index = List.range' 0 p.examples.length := by
  rw [ofPattern, List.map_map, ← List.zipIdx_map_snd 0 p.examples]
  exact List.map_congr_left fun given _ => (judges_runExample p given.2 given.1).index

/-- Outcomes are told apart by the UUID of the pattern and the place of the example. -/
def Outcome.key (o : Outcome) : Uuid × Nat := (o.uuid, o.index)

theorem nodup_map_key_outcomes (library : Library) :
    ((outcomes library).map Outcome.key).Nodup := by
  rw [outcomes, List.Nodup, List.pairwise_map, List.pairwise_flatMap]
  constructor
  · intro p _
    have places : ((ofPattern p).map Outcome.index).Nodup := by
      rw [map_index_ofPattern]
      exact List.nodup_range'
    exact (List.pairwise_map.mp places).imp fun other same => other (Prod.mk.inj same).2
  · refine (List.pairwise_map.mp library.distinct).imp ?_
    intro p q other o first o' second same
    exact other ((uuid_of_mem_ofPattern first).symm.trans
      ((Prod.mk.inj same).1.trans (uuid_of_mem_ofPattern second)))

/-- How many examples the patterns before a place have. -/
def examplesBefore (library : Library) (k : Nat) : Nat :=
  ((library.patterns.take k).map (·.examples.length)).sum

/-- The outcome of an example stands behind those of all patterns before and of the examples before
of the same pattern. -/
theorem getElem?_outcomes {library : Library} {k index : Nat} {p : Pattern} {e : Example}
    (found : library.patterns[k]? = some p) (given : p.examples[index]? = some e) :
    (outcomes library)[examplesBefore library k + index]? = some (runExample p index e) := by
  have inside : index < (ofPattern p).length := by
    rw [length_ofPattern]
    exact (List.getElem?_eq_some_iff.mp given).1
  have behind := getElem?_flatMap ofPattern found inside
  simp only [length_ofPattern, getElem?_ofPattern given] at behind
  exact behind

theorem length_outcomes (library : Library) :
    (outcomes library).length = examplesBefore library library.size := by
  rw [outcomes, List.length_flatMap, examplesBefore, Library.size, List.take_length]
  simp only [length_ofPattern]

/-- Of all outcomes, those of some patterns are the outcomes of these patterns alone. -/
theorem filter_outcomes (library : Library) (kept : Uuid → Bool) :
    (outcomes library).filter (fun o => kept o.uuid) =
      (library.patterns.filter fun p => kept p.uuid).flatMap ofPattern := by
  rw [outcomes, List.filter_flatMap]
  induction library.patterns with
  | nil => rfl
  | cons p patterns ih =>
    have own : ∀ o ∈ ofPattern p, kept o.uuid = kept p.uuid := fun o member =>
      congrArg kept (uuid_of_mem_ofPattern member)
    rw [List.flatMap_cons, ih, List.filter_congr own, List.filter_cons]
    cases kept p.uuid <;> simp

/-- The outcomes of a library: there is one for each example, in the order of the patterns and of
their examples, and no two have the same UUID and place; each of them is the outcome of the example
at its place in the pattern that the library has under its UUID. -/
structure IsAccount (library : Library) (all : List Outcome) : Prop where
  length : all.length = examplesBefore library library.size
  inOrder : ∀ k p, library.patterns[k]? = some p → ∀ index e, p.examples[index]? = some e →
    ∃ o, all[examplesBefore library k + index]? = some o ∧ o.Judges p index e
  distinct : (all.map Outcome.key).Nodup
  known : ∀ o ∈ all, ∃ p e, library.get? o.uuid = some p ∧ p.examples[o.index]? = some e
    ∧ o.Judges p o.index e

theorem isAccount_outcomes (library : Library) : IsAccount library (outcomes library) where
  length := length_outcomes library
  inOrder _ _ found _ _ given := ⟨_, getElem?_outcomes found given, judges_runExample ..⟩
  distinct := nodup_map_key_outcomes library
  known := by
    intro o member
    obtain ⟨p, known, own⟩ := List.mem_flatMap.mp member
    obtain ⟨index, e, given, rfl⟩ := mem_ofPattern.mp own
    have judges := judges_runExample p index e
    rw [judges.uuid, judges.index]
    exact ⟨p, e, Library.get?_of_mem known, given, judges⟩

/-- Validation accounts for every example of a library, so that the pattern of an example that does
not pass is always found, and libraries that have the same patterns under some UUIDs have the same
outcomes under them, whatever their other patterns are. -/
theorem outcomes_complete_and_local (library : Library) :
    IsAccount library (outcomes library)
      ∧ (∀ diagnostics, ∀ o ∈ (report library diagnostics).failures,
        ∃ p, library.get? o.uuid = some p)
      ∧ ∀ (other : Library) (kept : Uuid → Bool),
        (other.patterns.filter fun p => kept p.uuid) =
            (library.patterns.filter fun p => kept p.uuid) →
          (outcomes other).filter (fun o => kept o.uuid) =
            (outcomes library).filter (fun o => kept o.uuid) := by
  refine ⟨isAccount_outcomes library, fun diagnostics o failed => ?_, fun other kept same => ?_⟩
  · obtain ⟨p, -, found, -⟩ := (isAccount_outcomes library).known o (List.mem_filter.mp failed).1
    exact ⟨p, found⟩
  · rw [filter_outcomes, filter_outcomes, same]

end Validation

end LogTemplate
