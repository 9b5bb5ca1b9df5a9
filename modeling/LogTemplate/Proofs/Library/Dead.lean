import LogTemplate.Proofs.Library.Winner
import LogTemplate.Proofs.Template.Split

/-!
# Patterns that make no difference

A field takes its longest run and never gives a part of it back, so that a template matches no line
where a token needs what the field in front of it has always taken.  Main statement: a library makes
the same of every line with a pattern that has such a template as without it.
-/

namespace LogTemplate

/-- A field takes whatever the next token could start with: its class has the first character of
the literal; or it is free text, which ends with the line in front of a field; or it is a word in
front of a word or a number. -/
inductive Token.Starves : Token → Token → Prop
  | literal {f : Field} {c : CodePoint} {text : List CodePoint} :
      f.kind ≠ .any → f.kind.isRunChar c = true → Starves (.field f) (.literal (c :: text))
  | free {f g : Field} : f.kind = .any → Starves (.field f) (.field g)
  | word {f g : Field} :
      f.kind = .string → g.kind = .string ∨ g.kind = .number → Starves (.field f) (.field g)

/-- Somewhere in the template a field starves the token behind it. -/
def Template.IsDead (t : Template) : Prop :=
  ∃ front first second back, t.tokens = front ++ first :: second :: back ∧ first.Starves second

namespace Token

/-- Behind what a token takes there is nothing for one that it starves. -/
theorem not_takes_of_starves {first second : Token} {back : List Token}
    {segment next after : List CodePoint} (starves : first.Starves second)
    (takes : first.Takes (second :: back) segment (next ++ after)) :
    ¬ second.Takes back next after := by
  intro takesNext
  cases starves with
  | @literal f c text classed inside =>
    obtain ⟨-, -, -, run⟩ := takes
    obtain rfl : next = c :: text := takesNext
    have outside := run.stopsAt classed c (by simp)
    rw [inside] at outside
    cases outside
  | @free f g free =>
    obtain ⟨-, -, -, run⟩ := takes
    obtain ⟨filled, -, -, -⟩ := takesNext
    -- in front of a field nothing stops free text but the end of the line
    have ended : next ++ after = [] := by
      rw [free] at run
      exact run
    exact filled (List.append_eq_nil_iff.mp ended).1
  | @word f g word wordlike =>
    obtain ⟨-, -, -, run⟩ := takes
    obtain ⟨filled, -, -, runNext⟩ := takesNext
    rw [word] at run
    cases next with
    | nil => exact filled rfl
    | cons c next =>
      have inside := runNext.isWordChar_head wordlike c (by simp)
      have outside : Kind.isWordChar c = false := run.stopsAt (by decide) c (by simp)
      rw [inside] at outside
      cases outside

/-- Tokens of which one starves the next do not split any line. -/
theorem not_isSplit_of_starves {front back : List Token} {first second : Token}
    {segments : List (List CodePoint)} (starves : first.Starves second) :
    ¬ IsSplit (front ++ first :: second :: back) segments := by
  intro split
  obtain ⟨_, _, -, split⟩ := split.of_append
  obtain ⟨segment, _, -, takes, split⟩ := isSplit_cons.mp split
  obtain ⟨next, after, rfl, takesNext, -⟩ := isSplit_cons.mp split
  exact not_takes_of_starves starves takes takesNext

end Token

/-- A dead template matches no line. -/
theorem Template.run_of_isDead {t : Template} (dead : t.IsDead) (line : List CodePoint) :
    t.run line = none := by
  obtain ⟨front, first, second, back, tokens, starves⟩ := dead
  apply Option.eq_none_iff_forall_not_mem.mpr
  intro found ran
  obtain ⟨segments, split, -, -⟩ := Token.runAll_eq_some_iff.mp ran
  rw [tokens] at split
  exact Token.not_isSplit_of_starves starves split

/-- Two numbers side by side are not starved: the second one may bring its sign. -/
example : Token.runAll [.field ⟨.number, "a", {}⟩, .field ⟨.number, "b", {}⟩] (Text.toList "1-2") =
    some ([("a", "1"), ("b", "-2")] : List (Text × Text)) := by
  decide

/-! ## Dead patterns -/

/-- A pattern with a dead template matches no line, and no line has another match in a library for
which it is added to the patterns, wherever it is put among them. -/
theorem Pattern.no_match_of_isDead {p : Pattern} (dead : p.template.IsDead) :
    (∀ line, p.template.run line = none)
      ∧ ∀ library extended : Library,
        (∀ q, q ∈ extended.patterns ↔ q = p ∨ q ∈ library.patterns) →
          ∀ line, extended.match? line = library.match? line := by
  have unmatched := Template.run_of_isDead dead
  refine ⟨unmatched, ?_⟩
  intro library extended added line
  apply Library.match?_eq_of_matching
  intro q matching
  have other : q ≠ p := by
    rintro rfl
    exact matching (unmatched line)
  rw [added]
  exact or_iff_right other

/-- The pattern of hosts of one domain: the word takes the domain, too. -/
def hostPattern : Pattern where
  name := "HOST"
  uuid := ⟨0, by decide⟩
  template := ⟨"host @STRING:host@.example",
    [.literal (Text.toList "host "), .field ⟨.string, "host", {}⟩,
    .literal (Text.toList ".example")], by decide⟩
  defaults := {}
  tags := {}
  examples := []

/-- The domain behind the word is never found, and the pattern may as well be left out. -/
theorem no_match_of_isDead_host :
    hostPattern.template.IsDead
      ∧ hostPattern.template.run (Text.toList "host web.example") = none
      ∧ ∀ library extended : Library, library.add hostPattern = .ok extended →
        ∀ line, extended.match? line = library.match? line := by
  have dead : hostPattern.template.IsDead :=
    ⟨[.literal (Text.toList "host ")], .field ⟨.string, "host", {}⟩,
     .literal (Text.toList ".example"), [], rfl,
      .literal (by decide) (by decide)⟩
  obtain ⟨unmatched, unchanged⟩ := Pattern.no_match_of_isDead dead
  refine ⟨dead, unmatched _, ?_⟩
  intro library extended added line
  apply unchanged
  intro q
  rw [(Library.add_eq_ok_iff.mp added).2]
  simp [or_comm]

end LogTemplate
