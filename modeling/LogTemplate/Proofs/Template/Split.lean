import LogTemplate.Template
import LogTemplate.Proofs.Field.Bounds
import LogTemplate.Proofs.Field.Range
import LogTemplate.Proofs.Field.Run
import LogTemplate.Proofs.Template.WellFormed

/-!
# Lines split by the tokens of a template

A split of a line gives each token a segment, in order, so that nothing of the line is left over.
It is described without running anything: a literal takes its own text, and a field takes a run of
its kind that it admits.  Main statement: running the tokens finds the only split there is.
-/

namespace LogTemplate

/-- A bound on a well-formed field is short enough to be read. -/
theorem Field.short_of_get? {f : Field} (limit : Limit) {value : Int}
    (formed : f.wellFormed = true) (bound : f.bounds.get? limit = some value) :
    (toString value.natAbs).length ≤ Numeral.digitLimit := by
  simp only [wellFormed, Bool.and_eq_true, Bounds.readable, List.all_eq_true,
    decide_eq_true_eq] at formed
  exact formed.2 (limit, value) (Bounds.mem_entries.mpr bound)

/-- Whether a run keeps the bounds of a well-formed field can be told. -/
theorem Field.satisfied_isOk {f : Field} {stop : Option CodePoint} {value after : List CodePoint}
    (formed : f.wellFormed = true) (run : f.kind.IsRun stop value after) :
    ∃ kept, f.bounds.satisfied f.kind value = .ok kept := by
  cases kind : f.kind with
  | number =>
    rw [kind] at run
    exact ⟨_, Bounds.satisfied_number run.1 (fun _ bound => short_of_get? .min formed bound)
      fun _ bound => short_of_get? .max formed bound⟩
  | string => exact ⟨_, rfl⟩
  | ipv4 => exact ⟨_, rfl⟩
  | ipv6 => exact ⟨_, rfl⟩
  | timestamp => exact ⟨_, rfl⟩
  | any => exact ⟨_, rfl⟩

end LogTemplate

namespace LogTemplate.Token

/-- The character that ends free text in front of some tokens: the first one of a literal. -/
def stopChar? : List Token → Option CodePoint
  | .literal text :: _ => text.head?
  | _ => none

/-- What a token may take of a line, between the tokens `next` and the text `after`. -/
def Takes (next : List Token) (segment after : List CodePoint) : Token → Prop
  | .literal text => segment = text
  | .field f =>
    segment ≠ [] ∧ f.kind.isValid segment = true
      ∧ f.bounds.satisfied f.kind segment = .ok true ∧ f.kind.IsRun (stopChar? next) segment after

/-- Segments of a line, one for each token. -/
inductive IsSplit : List Token → List (List CodePoint) → Prop
  | nil : IsSplit [] []
  | cons {token : Token} {next : List Token} {segment : List CodePoint}
    {segments : List (List CodePoint)} :
      token.Takes next segment segments.flatten → IsSplit next segments →
      IsSplit (token :: next) (segment :: segments)

/-- The names of the fields with what they take, in order. -/
def values (tokens : List Token) (segments : List (List CodePoint)) : List (Text × Text) :=
  (tokens.zip segments).filterMap fun
    | (.literal _, _) => none
    | (.field f, segment) => some (f.name, Text.ofList segment)

@[simp] theorem values_nil : values [] [] = [] := rfl

@[simp] theorem values_literal (text segment : List CodePoint) (next : List Token)
    (segments : List (List CodePoint)) :
    values (.literal text :: next) (segment :: segments) = values next segments := rfl

@[simp] theorem values_field (f : Field) (segment : List CodePoint) (next : List Token)
    (segments : List (List CodePoint)) :
    values (.field f :: next) (segment :: segments) =
      (f.name, Text.ofList segment) :: values next segments := rfl

theorem isSplit_nil {segments : List (List CodePoint)} : IsSplit [] segments ↔ segments = [] := by
  constructor
  · intro split
    cases split
    rfl
  · rintro rfl
    exact .nil

theorem isSplit_cons {token : Token} {next : List Token} {all : List (List CodePoint)} :
    IsSplit (token :: next) all ↔
      ∃ segment segments, all = segment :: segments
        ∧ token.Takes next segment segments.flatten ∧ IsSplit next segments := by
  constructor
  · intro split
    cases split with
    | cons takes rest => exact ⟨_, _, rfl, takes, rest⟩
  · rintro ⟨segment, segments, rfl, takes, rest⟩
    exact .cons takes rest

/-- Tokens that others stand before split what these leave. -/
theorem IsSplit.of_append {front back : List Token} {all : List (List CodePoint)}
    (split : IsSplit (front ++ back) all) :
    ∃ before after, all = before ++ after ∧ IsSplit back after := by
  induction front generalizing all with
  | nil => exact ⟨[], all, rfl, split⟩
  | cons token front ih =>
    obtain ⟨segment, segments, rfl, -, rest⟩ := isSplit_cons.mp split
    obtain ⟨before, after, rfl, behind⟩ := ih rest
    exact ⟨segment :: before, after, rfl, behind⟩

/-- The names stand in a split as they stand in the template. -/
theorem map_fst_values {tokens : List Token} {segments : List (List CodePoint)}
    (split : IsSplit tokens segments) :
    (values tokens segments).map Prod.fst = fieldNames tokens := by
  induction split with
  | nil => rfl
  | @cons token next segment segments _ _ ih =>
    cases token with
    | literal text => simpa using ih
    | field f => simpa using ih

theorem stopBefore_eq (next : List Token) : stopBefore next = (stopChar? next).map ([·]) := by
  cases next with
  | nil => rfl
  | cons token rest =>
    cases token with
    | field f => rfl
    | literal text => cases text <;> rfl

/-- A field admits what is of its kind and keeps its bounds. -/
theorem admits_eq_true_iff {f : Field} {segment : List CodePoint} :
    f.admits segment = true ↔
      f.kind.isValid segment = true ∧ f.bounds.satisfied f.kind segment = .ok true := by
  unfold Field.admits
  rw [Bool.and_eq_true]
  cases f.bounds.satisfied f.kind segment with
  | ok kept => simp
  | error e => simp

/-- A literal is run by taking its text off the line. -/
theorem runAll_literal {text line : List CodePoint} {next : List Token}
    {found : List (Text × Text)} :
    runAll (.literal text :: next) line = some found ↔
      ∃ after, line = text ++ after ∧ runAll next after = some found := by
  simp only [runAll]
  cases dropped : Text.dropPrefix? text line with
  | none =>
    have absent : ∀ after, line ≠ text ++ after := by
      intro after equal
      rw [Text.dropPrefix?_eq_some_iff.mpr equal] at dropped
      cases dropped
    simp [absent]
  | some after =>
    rw [Text.dropPrefix?_eq_some_iff] at dropped
    subst dropped
    simp

/-- A field is run by taking off the line the run that it admits. -/
theorem runAll_field {f : Field} {line : List CodePoint} {next : List Token}
    {found : List (Text × Text)} :
    runAll (.field f :: next) line = some found ↔
      ∃ segment after rest, line = segment ++ after ∧ (Token.field f).Takes next segment after
        ∧ runAll next after = some rest ∧ found = (f.name, Text.ofList segment) :: rest := by
  simp only [runAll, stopBefore_eq]
  constructor
  · intro ran
    split at ran
    · cases ran
    · rename_i taken
      simp only [Bool.or_eq_true, List.isEmpty_iff, Bool.not_eq_eq_eq_not, Bool.not_true,
        not_or, Bool.not_eq_false] at taken
      obtain ⟨rest, restRan, rfl⟩ := Option.map_eq_some_iff.mp ran
      have front := Kind.run_prefix f.kind ((stopChar? next).map ([·])) line
      have whole := List.prefix_iff_eq_append.mp front
      obtain ⟨valid, kept⟩ := admits_eq_true_iff.mp taken.2
      exact ⟨_, _, rest, whole.symm, ⟨taken.1, valid, kept, Kind.isRun_run taken.1⟩, restRan, rfl⟩
  · rintro ⟨segment, after, rest, rfl, ⟨filled, valid, kept, run⟩, restRan, rfl⟩
    rw [(Kind.run_append_eq_iff filled).mpr run]
    have admitted : f.admits segment = true := admits_eq_true_iff.mpr ⟨valid, kept⟩
    simp [filled, admitted, restRan]

/-- Running tokens succeeds exactly on the lines that they split. -/
theorem runAll_eq_some_iff {tokens : List Token} {line : List CodePoint}
    {found : List (Text × Text)} :
    runAll tokens line = some found ↔
      ∃ segments, IsSplit tokens segments ∧ segments.flatten = line
        ∧ found = values tokens segments := by
  induction tokens generalizing line found with
  | nil =>
    cases line with
    | nil => simp [runAll, isSplit_nil, eq_comm]
    | cons c rest => simp [runAll, isSplit_nil]
  | cons token next ih =>
    cases token with
    | literal text =>
      rw [runAll_literal]
      constructor
      · rintro ⟨after, rfl, ran⟩
        obtain ⟨segments, split, rfl, rfl⟩ := ih.mp ran
        exact ⟨text :: segments, .cons rfl split, rfl, rfl⟩
      · rintro ⟨all, split, rfl, rfl⟩
        obtain ⟨segment, segments, rfl, rfl, rest⟩ := isSplit_cons.mp split
        exact ⟨segments.flatten, rfl, ih.mpr ⟨segments, rest, rfl, rfl⟩⟩
    | field f =>
      rw [runAll_field]
      constructor
      · rintro ⟨segment, after, rest, rfl, takes, ran, rfl⟩
        obtain ⟨segments, split, rfl, rfl⟩ := ih.mp ran
        exact ⟨segment :: segments, .cons takes split, rfl, rfl⟩
      · rintro ⟨all, split, rfl, rfl⟩
        obtain ⟨segment, segments, rfl, takes, rest⟩ := isSplit_cons.mp split
        exact ⟨segment, segments.flatten, values next segments, rfl, takes,
          ih.mpr ⟨segments, rest, rfl, rfl⟩, rfl⟩

/-- What a token takes is decided by the text it is taken from. -/
theorem takes_unique {token : Token} {next : List Token} {segment other after rest : List CodePoint}
    (takes : token.Takes next segment after) (takesOther : token.Takes next other rest)
    (equal : segment ++ after = other ++ rest) : segment = other := by
  cases token with
  | literal text => rw [takes, takesOther]
  | field f =>
    obtain ⟨filled, -, -, run⟩ := takes
    obtain ⟨filledOther, -, -, runOther⟩ := takesOther
    rw [← Kind.run_append_eq_iff filled] at run
    rw [← Kind.run_append_eq_iff filledOther] at runOther
    rw [← run, equal, runOther]

theorem isSplit_unique {tokens : List Token} {first second : List (List CodePoint)}
    (split : IsSplit tokens first) (other : IsSplit tokens second)
    (equal : first.flatten = second.flatten) : first = second := by
  induction split generalizing second with
  | nil => exact (isSplit_nil.mp other).symm
  | @cons token next segment segments takes _ ih =>
    obtain ⟨segment', segments', rfl, takes', rest⟩ := isSplit_cons.mp other
    simp only [List.flatten_cons] at equal
    obtain rfl := takes_unique takes takes' equal
    rw [ih rest (List.append_cancel_left equal)]

theorem flatten_ne_nil_of_isSplit {tokens : List Token} {segments : List (List CodePoint)}
    (formed : wellFormed tokens = true) (split : IsSplit tokens segments) :
    segments.flatten ≠ [] := by
  obtain ⟨filled, apart, -, -⟩ := wellFormed_iff.mp formed
  cases split with
  | nil => exact absurd rfl filled
  | @cons token next segment segments takes _ =>
    have taken : segment ≠ [] := by
      cases token with
      | literal text =>
        obtain rfl : segment = text := takes
        exact (literalsApart_literal.mp apart).1
      | field f => exact takes.1
    simp [taken]

end LogTemplate.Token

namespace LogTemplate.Template

/-- A template matches a line exactly if its tokens split the line, in one way only, and then gives
the fields what they take; each name is given once, and nothing matches the empty line.  No bounds
are too long to be compared with what a field could take. -/
theorem run_iff_isSplit (t : Template) (line : List CodePoint) :
    (∀ found, t.run line = some found ↔
      ∃ segments, Token.IsSplit t.tokens segments ∧ segments.flatten = line
        ∧ found = Token.values t.tokens segments)
      ∧ (∀ first second, Token.IsSplit t.tokens first → Token.IsSplit t.tokens second →
        first.flatten = line → second.flatten = line → first = second)
      ∧ (∀ found, t.run line = some found → (found.map Prod.fst).Nodup)
      ∧ t.run [] = none
      ∧ ∀ f, .field f ∈ t.tokens → ∀ stop value after, f.kind.IsRun stop value after →
        ∃ kept, f.bounds.satisfied f.kind value = .ok kept := by
  have formed := t.wellFormed_tokens
  refine ⟨fun _ => Token.runAll_eq_some_iff, ?_, ?_, ?_, ?_⟩
  · rintro first second split other rfl same
    exact Token.isSplit_unique split other same.symm
  · intro found ran
    obtain ⟨segments, split, -, rfl⟩ := Token.runAll_eq_some_iff.mp ran
    rw [Token.map_fst_values split]
    exact (Token.wellFormed_iff.mp formed).2.2.1
  · apply Option.eq_none_iff_forall_not_mem.mpr
    intro found ran
    obtain ⟨segments, split, empty, -⟩ := Token.runAll_eq_some_iff.mp ran
    exact Token.flatten_ne_nil_of_isSplit formed split empty
  · intro f member stop value after run
    exact Field.satisfied_isOk ((Token.wellFormed_iff.mp formed).2.2.2 f member) run

end LogTemplate.Template
