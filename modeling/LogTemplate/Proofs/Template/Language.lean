import LogTemplate.Template
import LogTemplate.Proofs.Template.Refusal

/-!
# The language of templates

A documented template is a row of characters, doubled signs and fields, the whole of each body
spelling a field, with no name twice.  Every documented template is accepted; beyond them, a body
may end in a line feed.  Main statement: what is accepted, which refusals are for a repeated name,
and that the line feed is the only difference from the documented language.
-/

namespace LogTemplate.Template

open Token (Spells)

/-- A text of the language: not empty, and made of pieces that spell tokens with no name twice. -/
def IsTemplate (makes : List CodePoint → Field → Prop) (s : List CodePoint) : Prop :=
  s ≠ [] ∧ ∃ pieces tokens, s = Piece.textAll pieces ∧ Spells makes pieces tokens
    ∧ (Token.fieldNames tokens).Nodup

/-- A text whose first fault is a field with the name of an earlier one. -/
def RepeatsName (makes : List CodePoint → Field → Prop) (s : List CodePoint) : Prop :=
  ∃ front tokens body f rest, s = Piece.textAll front ++ .char '@' :: (body ++ .char '@' :: rest)
    ∧ Spells makes front tokens ∧ (Token.fieldNames tokens).Nodup ∧ makes body f
    ∧ f.name ∈ Token.fieldNames tokens

/-- A text whose first fault is a field with a line feed behind its name. -/
def HasStrayLineFeed (s : List CodePoint) : Prop :=
  ∃ front tokens body f rest,
    s = Piece.textAll front ++ .char '@' :: (body ++ .char '\n' :: .char '@' :: rest)
    ∧ Spells Field.BodySpells front tokens ∧ (Token.fieldNames tokens).Nodup
    ∧ Field.BodySpells body f

/-- Reading a text does what the documentation tells: it succeeds on the documented templates, and
refuses all else, for a repeated name exactly where that is the first fault. -/
def ReadAsDocumented (source : Text) : Prop :=
  ((∃ t, compile source = .ok t) ↔ IsTemplate Field.BodySpells source.toList)
    ∧ ∀ e, compile source = .error e →
      (e.category = .duplicateField ↔ RepeatsName Field.BodySpells source.toList)

/-! ## What is accepted -/

theorem exists_compile_iff {source : Text} :
    (∃ t, compile source = .ok t) ↔ ∃ tokens, Token.parse source.toList = .ok tokens := by
  constructor
  · rintro ⟨t, read⟩
    obtain rfl := compile_eq_ok_iff.mp read
    exact ⟨t.tokens, t.parsed⟩
  · rintro ⟨tokens, parsed⟩
    obtain ⟨t, read, -⟩ := compile_of_parse parsed
    exact ⟨t, read⟩

/-- Reading succeeds on the texts of the language, in which a line feed may end a body. -/
theorem exists_compile_iff_isTemplate {source : Text} :
    (∃ t, compile source = .ok t) ↔ IsTemplate Field.BodyAccepted source.toList := by
  rw [exists_compile_iff]
  constructor
  · rintro ⟨tokens, parsed⟩
    obtain ⟨filled, pieces, same, spelt, distinct⟩ := Token.parse_eq_ok_iff.mp parsed
    exact ⟨filled, pieces, tokens, same, spelt, distinct⟩
  · rintro ⟨filled, pieces, tokens, same, spelt, distinct⟩
    exact ⟨tokens, Token.parse_eq_ok_iff.mpr ⟨filled, pieces, same, spelt, distinct⟩⟩

/-- A refusal is for a repeated name exactly where a field repeats one and all before it is well. -/
theorem category_iff_repeatsName {source : Text} {e : TemplateError}
    (refused : compile source = .error e) :
    e.category = .duplicateField ↔ RepeatsName Field.BodyAccepted source.toList := by
  rw [compile_eq_error_iff] at refused
  generalize source.toList = s at refused
  by_cases filled : s = []
  · subst filled
    cases refused
    constructor
    · intro repeated
      cases repeated
    · rintro ⟨front, _, _, _, _, same, -⟩
      simp at same
  constructor
  · intro repeated
    obtain ⟨front, tokens, p, fault, -⟩ := (Token.parse_eq_error_iff filled).mp refused
    obtain ⟨body, f, rfl, accepted, taken⟩ :=
      Token.exists_repeated_of_refusal fault.refused repeated
    obtain ⟨back, cut⟩ := fault.split
    obtain ⟨behind, rfl, cuts⟩ := (Piece.cut_eq_iff.mp cut).of_append
    obtain ⟨rest, rfl, -⟩ := cuts.of_body
    exact ⟨front, tokens, body, f, rest, rfl, fault.spelt, Token.fresh_nil_iff.mp fault.fresh,
      accepted, by simpa using taken⟩
  · rintro ⟨front, tokens, body, f, rest, rfl, spelt, distinct, accepted, taken⟩
    obtain ⟨plain, free⟩ := Token.plain_of_bodyAccepted body f accepted
    have cut := spelt.cut_field Token.plain_of_bodyAccepted plain free rest
    have again : Token.parse (Piece.textAll front ++ .char '@' :: (body ++ .char '@' :: rest)) =
        .error ⟨.repeatedName f.name, (Piece.textAll front).length⟩ := by
      refine (Token.parse_eq_error_iff filled).mpr ⟨front, tokens, .body body, ?_, rfl⟩
      exact ⟨⟨_, cut⟩, spelt, Token.fresh_nil_iff.mpr distinct,
        Token.refusal?_body_eq_some_iff.mpr (.inr ⟨f, accepted, by simpa using taken, rfl⟩)⟩
    obtain rfl := Except.error.inj (again.symm.trans refused)
    rfl

/-! ## The stray line feed -/

theorem isTemplate_of_documented {s : List CodePoint} (documented : IsTemplate Field.BodySpells s) :
    IsTemplate Field.BodyAccepted s := by
  obtain ⟨filled, pieces, tokens, same, spelt, distinct⟩ := documented
  exact ⟨filled, pieces, tokens, same, spelt.mono fun _ _ => .inl, distinct⟩

theorem repeatsName_of_documented {s : List CodePoint}
    (documented : RepeatsName Field.BodySpells s) :
    RepeatsName Field.BodyAccepted s := by
  obtain ⟨front, tokens, body, f, rest, same, spelt, distinct, made, taken⟩ := documented
  exact ⟨front, tokens, body, f, rest, same, spelt.mono fun _ _ => .inl, distinct, .inl made,
    taken⟩

/-- Accepted pieces are documented ones, or documented up to a first body that a line feed ends. -/
theorem documented_or_stray {pieces : List Piece} {tokens : List Token}
    (spelt : Spells Field.BodyAccepted pieces tokens) :
    Spells Field.BodySpells pieces tokens ∨
      ∃ front first body f back, pieces = front ++ .body (body ++ [.char '\n']) :: back
        ∧ Spells Field.BodySpells front first ∧ Field.BodySpells body f
        ∧ Token.fieldNames first <+: Token.fieldNames tokens := by
  induction spelt with
  | nil => exact .inl .nil
  | @plain c _ _ different _ ih =>
    rcases ih with documented | ⟨front, first, body, f, back, rfl, spelt, stray, names⟩
    · exact .inl (.plain different documented)
    · exact .inr ⟨.plain c :: front, Token.consChar c first, body, f, back, rfl,
        .plain different spelt, stray, by simpa using names⟩
  | doubled _ ih =>
    rcases ih with documented | ⟨front, first, body, f, back, rfl, spelt, stray, names⟩
    · exact .inl (.doubled documented)
    · exact .inr ⟨.doubled :: front, Token.consChar '@' first, body, f, back, rfl,
        .doubled spelt, stray, by simpa using names⟩
  | @body s g pieces _ accepted _ ih =>
    rcases accepted with whole | ⟨line, rfl, stray⟩
    · rcases ih with documented | ⟨front, first, body, f, back, rfl, spelt, stray, names⟩
      · exact .inl (.body whole documented)
      · refine .inr ⟨.body s :: front, .field g :: first, body, f, back, rfl, .body whole spelt,
          stray, ?_⟩
        simpa using names
    · exact .inr ⟨[], [], line, g, pieces, rfl, .nil, stray, by simp⟩

/-- A first body that a line feed ends is a stray line feed of the text. -/
theorem hasStrayLineFeed_of_stray {pieces front back : List Piece} {tokens first : List Token}
    {body : List CodePoint} {f : Field}
    (same : pieces = front ++ .body (body ++ [.char '\n']) :: back) (rest : List CodePoint)
    (spelt : Spells Field.BodySpells front first) (stray : Field.BodySpells body f)
    (names : Token.fieldNames first <+: Token.fieldNames tokens)
    (distinct : (Token.fieldNames tokens).Nodup) :
    HasStrayLineFeed (Piece.textAll pieces ++ rest) := by
  refine ⟨front, first, body, f, Piece.textAll back ++ rest, ?_, spelt,
    names.sublist.nodup distinct, stray⟩
  simp [same, Piece.text]

theorem documented_of_isTemplate {s : List CodePoint} (accepted : IsTemplate Field.BodyAccepted s)
    (clean : ¬ HasStrayLineFeed s) : IsTemplate Field.BodySpells s := by
  obtain ⟨filled, pieces, tokens, rfl, spelt, distinct⟩ := accepted
  rcases documented_or_stray spelt with documented | ⟨front, first, body, f, back, same, spelt,
    stray, names⟩
  · exact ⟨filled, pieces, tokens, rfl, documented, distinct⟩
  · have found := hasStrayLineFeed_of_stray same [] spelt stray names distinct
    rw [List.append_nil] at found
    exact absurd found clean

theorem documented_of_repeatsName {s : List CodePoint} (accepted : RepeatsName Field.BodyAccepted s)
    (clean : ¬ HasStrayLineFeed s) : RepeatsName Field.BodySpells s := by
  obtain ⟨front, tokens, body, f, rest, rfl, spelt, distinct, made, taken⟩ := accepted
  rcases documented_or_stray spelt with documented | ⟨before, first, inner, g, back, same, spelt,
    stray, names⟩
  · rcases made with whole | ⟨line, rfl, stray⟩
    · exact ⟨front, tokens, body, f, rest, rfl, documented, distinct, whole, taken⟩
    · refine absurd ⟨front, tokens, line, f, rest, ?_, documented, distinct, stray⟩ clean
      simp
  · exact absurd (hasStrayLineFeed_of_stray same _ spelt stray names distinct) clean

theorem plain_of_bodySpells (s : List CodePoint) (f : Field) (spelt : Field.BodySpells s f) :
    s ≠ [] ∧ .char '@' ∉ s :=
  Token.plain_of_bodyAccepted s f (.inl spelt)

/-- A body that a line feed ends is no body of a documented piece. -/
theorem stray_not_mem {pieces : List Piece} {tokens : List Token}
    (spelt : Spells Field.BodySpells pieces tokens) (body : List CodePoint) :
    .body (body ++ [.char '\n']) ∉ pieces := by
  intro member
  obtain ⟨f, made⟩ := spelt.makes_of_mem member
  exact Field.getLast?_of_bodySpells made (by simp)

/-- Where a stray line feed is found in a text that has been cut. -/
theorem cut_of_hasStrayLineFeed {s : List CodePoint} (found : HasStrayLineFeed s) :
    ∃ front tokens body back, Piece.cut none s = front ++ .body (body ++ [.char '\n']) :: back
      ∧ Spells Field.BodySpells front tokens ∧ (Token.fieldNames tokens).Nodup := by
  obtain ⟨front, tokens, body, f, rest, rfl, spelt, distinct, stray⟩ := found
  have free : .char '@' ∉ body ++ [.char '\n'] := by simp [Field.at_not_mem_of_bodySpells stray]
  have cut := spelt.cut_field plain_of_bodySpells (by simp) free rest
  refine ⟨front, tokens, body, Piece.cut none rest, ?_, spelt, distinct⟩
  simpa using cut

theorem not_isTemplate_of_hasStrayLineFeed {s : List CodePoint} (found : HasStrayLineFeed s) :
    ¬ IsTemplate Field.BodySpells s := by
  rintro ⟨-, pieces, tokens, rfl, spelt, -⟩
  obtain ⟨front, _, body, back, cut, -, -⟩ := cut_of_hasStrayLineFeed found
  have same := spelt.cut_textAll_append plain_of_bodySpells []
  simp only [List.append_nil, Piece.cut] at same
  rw [same] at cut
  refine stray_not_mem spelt body ?_
  simp [cut]

theorem not_repeatsName_of_hasStrayLineFeed {s : List CodePoint} (found : HasStrayLineFeed s) :
    ¬ RepeatsName Field.BodySpells s := by
  rintro ⟨front, tokens, body, f, rest, rfl, spelt, distinct, made, taken⟩
  obtain ⟨other, others, line, back, cut, otherSpelt, otherDistinct⟩ :=
    cut_of_hasStrayLineFeed found
  obtain ⟨filled, free⟩ := plain_of_bodySpells body f made
  rw [spelt.cut_field plain_of_bodySpells filled free] at cut
  have unlike : body ≠ line ++ [.char '\n'] := by
    rintro rfl
    exact Field.getLast?_of_bodySpells made (by simp)
  -- the two fields cannot be one; whichever comes later has the other one before it
  rcases List.append_eq_append_iff.mp cut with ⟨between, rfl, rest⟩ | ⟨between, rfl, rest⟩
  · cases between with
    | nil => simp [unlike] at rest
    | cons p between =>
      obtain ⟨rfl, -⟩ := List.cons.inj rest
      obtain ⟨before, after, beforeSpelt, afterSpelt, names⟩ := otherSpelt.of_append
      obtain rfl := beforeSpelt.unique Field.bodySpells_unique spelt
      cases afterSpelt with
      | @body _ g _ _ madeAgain _ =>
        obtain rfl := Field.bodySpells_unique body f g made madeAgain
        rw [names, List.nodup_append] at otherDistinct
        exact otherDistinct.2.2 f.name taken f.name (by simp) rfl
  · cases between with
    | nil => simp [Ne.symm unlike] at rest
    | cons p between =>
      obtain ⟨rfl, -⟩ := List.cons.inj rest
      exact stray_not_mem spelt line (by simp)

/-- What is read departs from the documentation where a stray line feed is the first fault, unless
the text is refused for another one that is no repeated name. -/
theorem readAsDocumented_iff {source : Text} :
    ReadAsDocumented source ↔
      (HasStrayLineFeed source.toList →
        ∃ e, compile source = .error e ∧ e.category = .syntactic) := by
  cases read : compile source with
  | ok t =>
    have accepted := exists_compile_iff_isTemplate.mp ⟨t, read⟩
    constructor
    · rintro ⟨success, -⟩ found
      exact absurd (success.mp ⟨t, read⟩) (not_isTemplate_of_hasStrayLineFeed found)
    · intro refused
      refine ⟨⟨fun _ => documented_of_isTemplate accepted ?_, fun _ => ⟨t, read⟩⟩, ?_⟩
      · intro found
        obtain ⟨e, same, -⟩ := refused found
        cases same
      · intro e same
        rw [read] at same
        cases same
  | error e =>
    have category := category_iff_repeatsName read
    have unaccepted : ¬ IsTemplate Field.BodySpells source.toList := by
      intro documented
      obtain ⟨t, success⟩ := exists_compile_iff_isTemplate.mpr (isTemplate_of_documented documented)
      rw [read] at success
      cases success
    have failed : ¬ ∃ t, compile source = .ok t := by
      rintro ⟨t, success⟩
      rw [read] at success
      cases success
    constructor
    · rintro ⟨-, documented⟩ found
      refine ⟨e, rfl, ?_⟩
      cases repeated : e.category with
      | syntactic => rfl
      | duplicateField =>
        exact absurd ((documented e read).mp repeated) (not_repeatsName_of_hasStrayLineFeed found)
    · intro refused
      refine ⟨⟨fun success => absurd success failed, fun d => absurd d unaccepted⟩, ?_⟩
      intro e' same
      rw [read] at same
      cases same
      constructor
      · intro repeated
        refine documented_of_repeatsName (category.mp repeated) ?_
        intro found
        obtain ⟨_, same, syntactic⟩ := refused found
        cases same
        rw [repeated] at syntactic
        cases syntactic
      · exact fun documented => category.mpr (repeatsName_of_documented documented)

/-- A text is refused for its syntax exactly if it is outside the language and repeats no name
first. -/
theorem refused_syntactic_iff {source : Text} :
    (∃ e, compile source = .error e ∧ e.category = .syntactic) ↔
      ¬ (IsTemplate Field.BodyAccepted source.toList
        ∨ RepeatsName Field.BodyAccepted source.toList) := by
  rw [← exists_compile_iff_isTemplate]
  cases read : compile source with
  | ok t => simp
  | error e =>
    rw [← category_iff_repeatsName read]
    cases category : e.category with
    | syntactic => simp [category]
    | duplicateField => simp [category]

/-- The language that is read: fields whose bodies spell them, perhaps before a line feed, in a text
whose first fault tells why it is refused.  It departs from the documented one exactly on the texts
in which a stray line feed is the first fault and that, if line feeds are allowed, have no fault
left or repeat a name first. -/
theorem compile_language (source : Text) :
    ((∃ t, compile source = .ok t) ↔ IsTemplate Field.BodyAccepted source.toList)
      ∧ (∀ e, compile source = .error e →
        (e.category = .duplicateField ↔ RepeatsName Field.BodyAccepted source.toList))
      ∧ (ReadAsDocumented source ↔
        ¬ (HasStrayLineFeed source.toList ∧ (IsTemplate Field.BodyAccepted source.toList
          ∨ RepeatsName Field.BodyAccepted source.toList))) := by
  refine ⟨exists_compile_iff_isTemplate, fun _ => category_iff_repeatsName, ?_⟩
  rw [readAsDocumented_iff, refused_syntactic_iff, not_and]

/-- A field with a line feed behind its name is read, against the documentation. -/
theorem not_readAsDocumented_lineFeed : ¬ ReadAsDocumented "@ANY:a\n@" := by
  rw [readAsDocumented_iff]
  intro refused
  have spelt : Field.BodySpells (Kind.any.name.toList ++ .char ':' :: [.char 'a'])
      ⟨.any, Text.ofList [.char 'a'], {}⟩ := .plain (by decide)
  have stray : HasStrayLineFeed (Text.toList "@ANY:a\n@") :=
    ⟨[], [], Text.toList "ANY:a", ⟨.any, "a", {}⟩, [], by decide, .nil, List.nodup_nil, spelt⟩
  obtain ⟨e, error, -⟩ := refused stray
  rw [compile_eq_error_iff] at error
  have read : Token.parse (Text.toList "@ANY:a\n@") = .ok [.field ⟨.any, "a", {}⟩] := by decide
  rw [read] at error
  cases error

end LogTemplate.Template
