import LogTemplate.Template
import LogTemplate.Proofs.Template.Refusal

/-!
# Where a template is refused

A refused text is in order up to the sign that its error names.  Main statement: nothing behind the
field that this sign opens matters to the error; all texts that start in the same way have it.
-/

namespace LogTemplate.Template

open Token (Spells)

/-- A text is read as tokens: as none if it is empty, and otherwise as those of a template. -/
def IsReadAs (text : List CodePoint) (tokens : List Token) : Prop :=
  text = [] ∧ tokens = [] ∨ ∃ t, compile (Text.ofList text) = .ok t ∧ t.tokens = tokens

/-- The text of pieces is read as the tokens that they spell, if no name stands twice. -/
theorem isReadAs_textAll {pieces : List Piece} {tokens : List Token}
    (spelt : Spells Field.BodyAccepted pieces tokens)
    (distinct : (Token.fieldNames tokens).Nodup) : IsReadAs (Piece.textAll pieces) tokens := by
  by_cases empty : Piece.textAll pieces = []
  · cases pieces with
    | nil =>
      cases spelt
      exact .inl ⟨rfl, rfl⟩
    | cons p pieces => simp [p.text_ne_nil] at empty
  · refine .inr (compile_of_parse ?_)
    rw [Text.toList_ofList, Token.parse_eq_ok_iff]
    exact ⟨empty, pieces, rfl, spelt, distinct⟩

/-- An error of a text names a sign, and the text in front of the sign is empty or a template.
Either nothing closes the sign, which is the error then; or every text that starts as this one does,
up to the sign that closes the field, has the same error. -/
def IsLeftmost (source : Text) (e : TemplateError) : Prop :=
  ∃ front after, source.toList = front ++ .char '@' :: after ∧ front.length = e.position
    ∧ (∃ tokens, IsReadAs front tokens)
    ∧ (.char '@' ∉ after ∧ e.cause = .unterminated
      ∨ ∃ body rest, after = body ++ .char '@' :: rest ∧ .char '@' ∉ body ∧ e.cause ≠ .unterminated
        ∧ ∀ other : Text, front ++ .char '@' :: (body ++ [.char '@']) <+: other.toList →
          compile other = .error e)

/-- A field that is the first fault of a text is that of every text which starts with it. -/
theorem compile_of_isFirstFault {pieces front : List Piece} {tokens : List Token}
    {body : List CodePoint} {e : TemplateError}
    (fault : Token.IsFirstFault [] pieces front tokens (.body body) e.cause)
    (place : e.position = (Piece.textAll front).length) (filled : body ≠ [])
    (free : .char '@' ∉ body) {other : Text}
    (starts : Piece.textAll front ++ .char '@' :: (body ++ [.char '@']) <+: other.toList) :
    compile other = .error e := by
  obtain ⟨more, same⟩ := starts
  have shape : other.toList = Piece.textAll front ++ .char '@' :: (body ++ .char '@' :: more) := by
    simp [← same]
  have cut := fault.spelt.cut_field Token.plain_of_bodyAccepted filled free more
  rw [compile_eq_error_iff, shape, Token.parse_eq_error_iff (by simp)]
  exact ⟨front, tokens, _, ⟨⟨_, cut⟩, fault.spelt, fault.fresh, fault.refused⟩, place⟩

/-- The error of a text that is not empty is the leftmost one. -/
theorem isLeftmost_of_compile {source : Text} {e : TemplateError} (filled : source ≠ "")
    (refused : compile source = .error e) : IsLeftmost source e := by
  rw [compile_eq_error_iff,
    Token.parse_eq_error_iff (Text.toList_eq_nil_iff.not.mpr filled)] at refused
  obtain ⟨front, tokens, p, fault, place⟩ := refused
  have read := isReadAs_textAll fault.spelt (Token.fresh_nil_iff.mp fault.fresh)
  obtain ⟨back, cut⟩ := fault.split
  obtain ⟨behind, whole, cuts⟩ := (Piece.cut_eq_iff.mp cut).of_append
  cases p with
  | plain c => cases fault.refused
  | doubled => cases fault.refused
  | unclosed =>
    obtain ⟨after, rfl, free⟩ := cuts.of_unclosed
    have cause : e.cause = .unterminated := (Option.some.inj fault.refused).symm
    exact ⟨_, after, whole, place.symm, ⟨tokens, read⟩, .inl ⟨free, cause⟩⟩
  | body body =>
    obtain ⟨rest, rfl, filled, free⟩ := cuts.of_body
    have closed : e.cause ≠ .unterminated := by
      intro cause
      have refused := fault.refused
      rw [cause] at refused
      cases Token.eq_unclosed_of_refusal refused
    refine ⟨_, _, whole, place.symm, ⟨tokens, read⟩, .inr ⟨body, rest, rfl, free, closed, ?_⟩⟩
    intro other starts
    exact compile_of_isFirstFault fault place filled free starts

/-- The second field that repeats a name is refused, with a doubled sign and another field in front
of it and whatever behind it. -/
theorem isLeftmost_repeated :
    ("a@@@STRING:x@@NUMBER:x@ @" : Text) ≠ ""
      ∧ compile "a@@@STRING:x@@NUMBER:x@ @" = .error ⟨.repeatedName "x", 13⟩
      ∧ IsLeftmost "a@@@STRING:x@@NUMBER:x@ @" ⟨.repeatedName "x", 13⟩ := by
  have filled : ("a@@@STRING:x@@NUMBER:x@ @" : Text) ≠ "" := by decide
  have refused : compile "a@@@STRING:x@@NUMBER:x@ @" = .error ⟨.repeatedName "x", 13⟩ := by
    rw [compile_eq_error_iff]
    decide
  exact ⟨filled, refused, isLeftmost_of_compile filled refused⟩

end LogTemplate.Template
