import Mathlib.Data.List.Nodup
import LogTemplate.Library.Match
import LogTemplate.Proofs.Library.Index
import LogTemplate.Proofs.OrderedMap
import LogTemplate.Proofs.Uuid

/-!
# The winner among patterns

Of the patterns that match a line the first one in a fixed order wins.  Main statement: the match of
a line, which tries only the patterns that the index does not leave out, is that of the pattern that
comes first among all patterns of the library that match.
-/

namespace LogTemplate

namespace Pattern

/-- A pattern precedes another one if its literals are longer, or as long and its UUID, as a text,
is not greater. -/
def Precedes (p q : Pattern) : Prop :=
  q.template.literalLength < p.template.literalLength
    ∨ q.template.literalLength = p.template.literalLength ∧ p.uuid.text ≤ q.uuid.text

theorem precedes_iff {p q : Pattern} :
    p.Precedes q ↔ q.template.literalLength < p.template.literalLength
      ∨ q.template.literalLength = p.template.literalLength ∧ p.uuid.value ≤ q.uuid.value := by
  unfold Precedes
  rw [← Text.not_lt, Uuid.text_lt_text_iff, Nat.not_lt]

theorem precedes_refl (p : Pattern) : p.Precedes p :=
  precedes_iff.mpr (.inr ⟨rfl, Nat.le_refl _⟩)

theorem Precedes.trans {p q r : Pattern} (first : p.Precedes q) (second : q.Precedes r) :
    p.Precedes r := by
  rw [precedes_iff] at first second ⊢
  omega

/-- A pattern precedes those that do not win over it. -/
theorem precedes_iff_outranks {p q : Pattern} : p.Precedes q ↔ q.outranks p = false := by
  rw [precedes_iff, outranks, Bool.or_eq_false_iff, Bool.and_eq_false_iff]
  simp only [decide_eq_false_iff_not, beq_eq_false_iff_ne]
  omega

theorem precedes_of_outranks {p q : Pattern} (wins : p.outranks q = true) : p.Precedes q := by
  rw [outranks, Bool.or_eq_true, Bool.and_eq_true, decide_eq_true_eq, decide_eq_true_eq,
    beq_iff_eq] at wins
  rw [precedes_iff]
  omega

theorem uuid_eq_of_precedes {p q : Pattern} (first : p.Precedes q) (second : q.Precedes p) :
    p.uuid = q.uuid := by
  rw [precedes_iff] at first second
  have values : p.uuid.value = q.uuid.value := by omega
  cases hp : p.uuid
  cases hq : q.uuid
  rw [hp, hq] at values
  cases values
  rfl

/-- The values of a match name the fields of the template, in order. -/
theorem map_fst_of_extract {p : Pattern} {line : List CodePoint} {extracted : List (Text × Text)}
    (matching : p.extract line = some extracted) :
    extracted.map Prod.fst = p.template.fieldNames := by
  obtain ⟨segments, split, -, rfl⟩ := Token.runAll_eq_some_iff.mp matching
  exact Token.map_fst_values split

theorem nodup_of_extract {p : Pattern} {line : List CodePoint} {extracted : List (Text × Text)}
    (matching : p.extract line = some extracted) : (extracted.map Prod.fst).Nodup := by
  rw [map_fst_of_extract matching]
  exact (Token.wellFormed_iff.mp p.template.wellFormed_tokens).2.2.1

/-- The match of a pattern lays what the pattern extracts over its defaults. -/
theorem entries_matchOf {p : Pattern} {line : List CodePoint} {extracted : List (Text × Text)}
    (matching : p.extract line = some extracted) :
    (p.matchOf extracted).values.entries = OrderedMap.overlay p.defaults.entries extracted :=
  OrderedMap.entries_insertAll (nodup_of_extract matching)

end Pattern

/-- A hit of one of some patterns that precedes all of them that match the line. -/
structure IsBest (patterns : List Pattern) (line : List CodePoint) (hit : Hit) : Prop where
  member : hit.1 ∈ patterns
  matching : hit.1.extract line = some hit.2
  precedes : ∀ q ∈ patterns, q.extract line ≠ none → hit.1.Precedes q

/-- The winner so far: nothing if no pattern matches, and the best hit otherwise. -/
def IsWinner (patterns : List Pattern) (line : List CodePoint) : Option Hit → Prop
  | none => ∀ p ∈ patterns, p.extract line = none
  | some hit => IsBest patterns line hit

/-- A best hit stays best beside one more pattern that it precedes, if that one matches at all. -/
theorem IsBest.append {seen : List Pattern} {line : List CodePoint} {hit : Hit} {p : Pattern}
    (best : IsBest seen line hit) (precedes : p.extract line ≠ none → hit.1.Precedes p) :
    IsBest (seen ++ [p]) line hit := by
  refine ⟨List.mem_append_left _ best.member, best.matching, ?_⟩
  rw [List.forall_mem_append, List.forall_mem_singleton]
  exact ⟨best.precedes, precedes⟩

/-- Comparing the winner with one more pattern gives the winner among one pattern more. -/
theorem isWinner_better {seen : List Pattern} {line : List CodePoint} {best : Option Hit}
    {p : Pattern}
    (won : IsWinner seen line best) : IsWinner (seen ++ [p]) line (better line best p) := by
  unfold better
  cases matching : p.extract line with
  | none =>
    cases best with
    | none =>
      have missed : ∀ q ∈ [p], q.extract line = none := List.forall_mem_singleton.mpr matching
      exact List.forall_mem_append.mpr ⟨won, missed⟩
    | some hit => exact won.append fun succeeds => absurd matching succeeds
  | some extracted =>
    have added : p ∈ seen ++ [p] := List.mem_append_right _ (List.mem_singleton.mpr rfl)
    cases best with
    | none =>
      refine ⟨added, matching, ?_⟩
      rw [List.forall_mem_append, List.forall_mem_singleton]
      refine ⟨?_, fun _ => p.precedes_refl⟩
      intro q earlier succeeds
      exact absurd (won q earlier) succeeds
    | some hit =>
      by_cases wins : p.outranks hit.1 = true
      · simp only [wins, if_true]
        refine ⟨added, matching, ?_⟩
        rw [List.forall_mem_append, List.forall_mem_singleton]
        refine ⟨?_, fun _ => p.precedes_refl⟩
        intro q earlier succeeds
        exact (Pattern.precedes_of_outranks wins).trans (won.precedes q earlier succeeds)
      · simp only [wins, Bool.false_eq_true, if_false]
        refine won.append fun _ => ?_
        rw [Pattern.precedes_iff_outranks]
        exact Bool.eq_false_iff.mpr wins

/-- Comparing patterns one by one gives the winner among them and those before. -/
theorem isWinner_foldl {seen patterns : List Pattern} {line : List CodePoint} {best : Option Hit}
    (won : IsWinner seen line best) :
    IsWinner (seen ++ patterns) line (patterns.foldl (better line) best) := by
  induction patterns generalizing seen best with
  | nil => rwa [List.append_nil]
  | cons p rest ih =>
    -- the patterns seen so far grow by the one that is compared
    rw [List.append_cons, List.foldl_cons]
    exact ih (isWinner_better won)

theorem isWinner_winner? (patterns : List Pattern) (line : List CodePoint) :
    IsWinner patterns line (winner? patterns line) := by
  have start : IsWinner [] line none := fun _ member => nomatch member
  exact isWinner_foldl start

/-- Only the patterns that match the line matter to who wins. -/
theorem IsWinner.congr {patterns others : List Pattern} {line : List CodePoint} {best : Option Hit}
    (same : ∀ p, p.extract line ≠ none → (p ∈ patterns ↔ p ∈ others))
    (won : IsWinner patterns line best) : IsWinner others line best := by
  cases best with
  | none =>
    intro p member
    by_contra matching
    exact matching (won p ((same p matching).mpr member))
  | some hit =>
    have matching : hit.1.extract line ≠ none := by simp [won.matching]
    refine ⟨(same hit.1 matching).mp won.member, won.matching, ?_⟩
    intro q member succeeds
    exact won.precedes q ((same q succeeds).mpr member) succeeds

/-- Among patterns with distinct UUIDs one wins at most. -/
theorem IsBest.unique {patterns : List Pattern} {line : List CodePoint} {hit other : Hit}
    (distinct : (patterns.map Pattern.uuid).Nodup) (best : IsBest patterns line hit)
    (bestOther : IsBest patterns line other) : hit = other := by
  have first : hit.1.Precedes other.1 :=
    best.precedes other.1 bestOther.member (by simp [bestOther.matching])
  have second : other.1.Precedes hit.1 :=
    bestOther.precedes hit.1 best.member (by simp [best.matching])
  have same : hit.1 = other.1 :=
    List.inj_on_of_nodup_map distinct best.member bestOther.member
      (Pattern.uuid_eq_of_precedes first second)
  have values : some hit.2 = some other.2 := by
    rw [← best.matching, same, bestOther.matching]
  exact Prod.ext same (Option.some.inj values)

namespace Library

/-- The winner among the patterns that are tried is the winner among all. -/
theorem isWinner_candidates (library : Library) (line : List CodePoint) :
    IsWinner library.patterns line (winner? ((Index.ofLibrary library).candidates line) line) := by
  refine IsWinner.congr ?_ (isWinner_winner? _ line)
  intro p matching
  obtain ⟨extracted, matching⟩ := Option.ne_none_iff_exists'.mp matching
  constructor
  · intro tried
    exact (Index.mem_candidates_iff.mp tried).1
  · intro member
    exact Index.mem_candidates_of_extract member matching

/-- A hit wins among the patterns that are tried exactly if it is the best of all. -/
theorem winner?_candidates_eq_some_iff {library : Library} {line : List CodePoint} {hit : Hit} :
    winner? ((Index.ofLibrary library).candidates line) line = some hit ↔
      IsBest library.patterns line hit := by
  have won := library.isWinner_candidates line
  constructor
  · intro found
    rwa [found] at won
  · intro best
    cases found : winner? ((Index.ofLibrary library).candidates line) line with
    | none =>
      rw [found] at won
      have matching := best.matching
      rw [won hit.1 best.member] at matching
      cases matching
    | some other =>
      rw [found] at won
      rw [IsBest.unique library.distinct won best]

theorem winner?_candidates_eq_none_iff {library : Library} {line : List CodePoint} :
    winner? ((Index.ofLibrary library).candidates line) line = none ↔
      ∀ p ∈ library.patterns, p.extract line = none := by
  have won := library.isWinner_candidates line
  constructor
  · intro missed
    rwa [missed] at won
  · intro unmatched
    cases found : winner? ((Index.ofLibrary library).candidates line) line with
    | none => rfl
    | some hit =>
      rw [found] at won
      have matching := won.matching
      rw [unmatched hit.1 won.member] at matching
      cases matching

/-- Libraries that have the same patterns among those that match a line make the same of it. -/
theorem match?_eq_of_matching {library other : Library} {line : List CodePoint}
    (same : ∀ p, p.extract line ≠ none → (p ∈ library.patterns ↔ p ∈ other.patterns)) :
    library.match? line = other.match? line := by
  have best : ∀ hit : Hit, IsWinner library.patterns line (some hit) ↔
      IsWinner other.patterns line (some hit) := by
    intro hit
    constructor
    · exact IsWinner.congr same
    · exact IsWinner.congr fun p matching => (same p matching).symm
  have winner : winner? ((Index.ofLibrary library).candidates line) line =
      winner? ((Index.ofLibrary other).candidates line) line := by
    ext hit
    rw [winner?_candidates_eq_some_iff, winner?_candidates_eq_some_iff]
    exact best hit
  rw [match?, match?, Index.match?, Index.match?, winner]

theorem match?_eq_none_iff {library : Library} {line : List CodePoint} :
    library.match? line = none ↔ ∀ p ∈ library.patterns, p.extract line = none := by
  rw [match?, Index.match?, Option.map_eq_none_iff, winner?_candidates_eq_none_iff]

/-- The match of a line is that of the best hit. -/
theorem match?_eq_some_iff {library : Library} {line : List CodePoint} {found : Match} :
    library.match? line = some found ↔
      ∃ hit, IsBest library.patterns line hit ∧ hit.1.matchOf hit.2 = found := by
  rw [match?, Index.match?, Option.map_eq_some_iff]
  simp only [winner?_candidates_eq_some_iff]

/-- A line has no match exactly if no pattern of the library matches it.  Otherwise its match is
that of the pattern that comes first among all that match: it bears the UUID, the name and the tags
of the pattern, and its values are the defaults of the pattern with the values of the fields laid
over them, in the order of the template.  Written UUIDs are compared as their numbers are. -/
theorem match?_iff_isBest (library : Library) (line : List CodePoint) :
    (library.match? line = none ↔ ∀ p ∈ library.patterns, p.extract line = none)
      ∧ (∀ found, library.match? line = some found ↔
        ∃ p extracted, IsBest library.patterns line (p, extracted)
          ∧ found.uuid = p.uuid ∧ found.name = p.name ∧ found.tags = p.tags
          ∧ found.values.entries = OrderedMap.overlay p.defaults.entries extracted)
      ∧ (∀ p : Pattern, ∀ extracted, p.extract line = some extracted →
        extracted.map Prod.fst = p.template.fieldNames ∧ p.template.fieldNames.Nodup)
      ∧ ∀ u v : Uuid, u.text < v.text ↔ u.value < v.value := by
  refine ⟨?_, ?_, ?_, fun _ _ => Uuid.text_lt_text_iff⟩
  · rw [match?, Index.match?, Option.map_eq_none_iff, winner?_candidates_eq_none_iff]
  · intro found
    rw [match?, Index.match?, Option.map_eq_some_iff]
    constructor
    · rintro ⟨⟨p, extracted⟩, won, rfl⟩
      have best := winner?_candidates_eq_some_iff.mp won
      exact ⟨p, extracted, best, rfl, rfl, rfl, Pattern.entries_matchOf best.matching⟩
    · rintro ⟨p, extracted, best, uuid, name, tags, values⟩
      refine ⟨(p, extracted), winner?_candidates_eq_some_iff.mpr best, ?_⟩
      rw [← Pattern.entries_matchOf best.matching] at values
      cases found with
      | mk u n v t =>
        cases v
        cases uuid
        cases name
        cases tags
        cases values
        rfl
  · intro p extracted matching
    exact ⟨Pattern.map_fst_of_extract matching,
      (Token.wellFormed_iff.mp p.template.wellFormed_tokens).2.2.1⟩

end Library

end LogTemplate
