import LogTemplate.Proofs.Validation

/-!
# Examples and matches

Validation runs an example against its own pattern alone; a line is matched against all patterns of
a library.  Main statement: what becomes of the example tells what the library makes of its line.
-/

namespace LogTemplate

namespace Library

/-- The library of one pattern. -/
def only (p : Pattern) : Library := ⟨[p], by simp⟩

theorem match?_only_eq_none_iff {p : Pattern} {line : List CodePoint} :
    (only p).match? line = none ↔ p.extract line = none := by
  rw [match?_eq_none_iff]
  exact List.forall_mem_singleton

/-- A line that a pattern of the library matches has a match, and the pattern that wins precedes all
that match the line. -/
theorem exists_isBest_of_extract {library : Library} {p : Pattern} {line : List CodePoint}
    (member : p ∈ library.patterns) (matching : p.extract line ≠ none) :
    ∃ hit, IsBest library.patterns line hit ∧ library.match? line = some (hit.1.matchOf hit.2) := by
  cases found : library.match? line with
  | none => exact absurd (match?_eq_none_iff.mp found p member) matching
  | some m =>
    obtain ⟨hit, best, rfl⟩ := match?_eq_some_iff.mp found
    exact ⟨hit, best, rfl⟩

/-- The pattern that wins is known by the UUID of the match. -/
theorem extract_of_match? {library : Library} {p : Pattern} {line : List CodePoint} {found : Match}
    (member : p ∈ library.patterns) (matched : library.match? line = some found)
    (own : found.uuid = p.uuid) :
    ∃ extracted, p.extract line = some extracted ∧ found = p.matchOf extracted := by
  obtain ⟨⟨q, extracted⟩, best, rfl⟩ := match?_eq_some_iff.mp matched
  obtain rfl : q = p := List.inj_on_of_nodup_map library.distinct best.member member own
  exact ⟨extracted, best.matching, rfl⟩

end Library

/-- The match of a pattern that confirms an example has the values that the example expects, laid
over the defaults. -/
theorem Pattern.Confirms.values_matchOf {p : Pattern} {e : Example} (confirms : p.Confirms e)
    {extracted : List (Text × Text)} (matching : p.extract e.line.toList = some extracted) :
    (p.matchOf extracted).values.agrees (p.defaults.override e.values) = true := by
  obtain ⟨found, again, expected⟩ := confirms.values
  obtain rfl : extracted = found := Option.some.inj (matching.symm.trans again)
  rw [OrderedMap.agrees_iff]
  intro key
  have laid : (p.matchOf extracted).values.get? key =
      (OrderedMap.lookup key extracted).or (p.defaults.get? key) :=
    OrderedMap.get?_insertAll (nodup_of_extract matching) key
  have wanted : (p.defaults.override e.values).get? key =
      (e.values.get? key).or (p.defaults.get? key) :=
    OrderedMap.get?_insertAll e.values.nodup key
  rw [laid, wanted, expected]

namespace Validation

/-- How an example of a pattern went tells of its line: whether the pattern alone matches it; if so,
that some pattern wins in the library, one with longer literals or with literals of the same length
and no greater UUID; and if the example passes and its own pattern wins, which values are found. -/
structure Outcome.TellsMatch (o : Outcome) (library : Library) (p : Pattern) (e : Example) :
    Prop where
  unmatched : o.verdict = .noMatch ↔ (Library.only p).match? e.line.toList = none
  outranked : o.verdict ≠ .noMatch → ∃ found, library.match? e.line.toList = some found
    ∧ ∃ q ∈ library.patterns, q.uuid = found.uuid
      ∧ p.template.literalLength ≤ q.template.literalLength
      ∧ (q.template.literalLength = p.template.literalLength → q.uuid.value ≤ p.uuid.value)
  values : o.verdict = .pass → ∀ found, library.match? e.line.toList = some found →
    found.uuid = p.uuid → found.values.agrees (p.defaults.override e.values) = true

/-- Validation and matching agree on every example of every pattern of a library. -/
theorem exists_tellsMatch (library : Library) {p : Pattern} (member : p ∈ library.patterns)
    {index : Nat} {e : Example} (given : p.examples[index]? = some e) :
    ∃ o, (ofPattern p)[index]? = some o ∧ o.TellsMatch library p e := by
  refine ⟨_, getElem?_ofPattern given, ?_, ?_, ?_⟩
  · rw [verdict_runExample_eq_noMatch_iff, Library.match?_only_eq_none_iff]
  · intro matched
    rw [Ne, verdict_runExample_eq_noMatch_iff] at matched
    obtain ⟨⟨q, extracted⟩, best, found⟩ := Library.exists_isBest_of_extract member matched
    have precedes : q.Precedes p := best.precedes p member matched
    rw [Pattern.precedes_iff] at precedes
    refine ⟨_, found, q, best.member, rfl, ?_, ?_⟩
    · omega
    · intro same
      omega
  · intro passed found matched own
    have confirms := verdict_runExample_eq_pass_iff.mp passed
    obtain ⟨extracted, matching, rfl⟩ := Library.extract_of_match? member matched own
    exact confirms.values_matchOf matching

/-- Anything that a user does. -/
def userPattern : Pattern where
  name := "USER"
  uuid := ⟨1, by decide⟩
  template :=
    ⟨"user @ANY:rest@", [.literal (Text.toList "user "), .field ⟨.any, "rest", {}⟩], by decide⟩
  defaults := {}
  tags := {}
  examples := []

/-- A line of a login, and the user in it. -/
def loginExample : Example := ⟨"user bob logged in", .ofList [("user", "bob")], none⟩

/-- The login of a user, with a default for the user. -/
def loginPattern : Pattern where
  name := "LOGIN"
  uuid := ⟨2, by decide⟩
  template := ⟨"user @STRING:user@ logged in",
    [.literal (Text.toList "user "), .field ⟨.string, "user", {}⟩,
    .literal (Text.toList " logged in")],
    by decide⟩
  defaults := .ofList [("user", "nobody"), ("event", "login")]
  tags := {}
  examples := [loginExample]

/-- The library of both patterns. -/
def userLibrary : Library := ⟨[userPattern, loginPattern], by decide⟩

/-- The example passes, its own pattern wins over another one, and the default is overridden. -/
theorem exists_tellsMatch_login :
    loginPattern ∈ userLibrary.patterns ∧ loginPattern.examples[0]? = some loginExample
      ∧ (∃ o, (ofPattern loginPattern)[0]? = some o
        ∧ o.TellsMatch userLibrary loginPattern loginExample)
      ∧ (ofPattern loginPattern).map Outcome.verdict = [.pass]
      ∧ (userLibrary.match? loginExample.line.toList).map Match.uuid = some loginPattern.uuid := by
  have member : loginPattern ∈ userLibrary.patterns := by simp [userLibrary]
  have given : loginPattern.examples[0]? = some loginExample := rfl
  exact ⟨member, given, exists_tellsMatch userLibrary member given, by decide, by decide⟩

end Validation

end LogTemplate
