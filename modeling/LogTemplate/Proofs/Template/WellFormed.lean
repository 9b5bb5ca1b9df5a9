import LogTemplate.Proofs.Template.Spelling
import LogTemplate.Template

/-!
# Well-formed tokens

Tokens are well formed if there are some, no literal is empty or stands beside another, no name
stands twice, and every field could stand in a template.  Main statement: what a text is read as is
well formed.
-/

namespace LogTemplate.Token

/-- Whether the tokens start with a literal. -/
def startsLiteral : List Token → Bool
  | .literal _ :: _ => true
  | _ => false

/-- A character put before tokens that start with no literal is a literal of its own. -/
theorem consChar_of_not_startsLiteral {c : CodePoint} {tokens : List Token}
    (apart : startsLiteral tokens = false) : consChar c tokens = .literal [c] :: tokens := by
  cases tokens with
  | nil => rfl
  | cons token rest =>
    cases token with
    | literal text => cases apart
    | field f => rfl

theorem literalsApart_literal {text : List CodePoint} {rest : List Token} :
    literalsApart (.literal text :: rest) = true ↔
      text ≠ [] ∧ startsLiteral rest = false ∧ literalsApart rest = true := by
  cases rest with
  | nil => simp [literalsApart, startsLiteral]
  | cons token rest => cases token <;> simp [literalsApart, startsLiteral]

/-- A character before tokens lies in a literal that is not empty and stands apart. -/
theorem literalsApart_consChar {c : CodePoint} {tokens : List Token}
    (apart : literalsApart tokens = true) : literalsApart (consChar c tokens) = true := by
  cases starts : startsLiteral tokens with
  | false =>
    rw [consChar_of_not_startsLiteral starts, literalsApart_literal]
    exact ⟨by simp, starts, apart⟩
  | true =>
    cases tokens with
    | nil => cases starts
    | cons token rest =>
      cases token with
      | literal text =>
        rw [consChar, literalsApart_literal]
        exact ⟨by simp, (literalsApart_literal.mp apart).2⟩
      | field f => cases starts

/-- Tokens are well formed by their literals, their names and their fields. -/
theorem wellFormed_iff {tokens : List Token} :
    wellFormed tokens = true ↔
      tokens ≠ [] ∧ literalsApart tokens = true ∧ (fieldNames tokens).Nodup
        ∧ ∀ f, .field f ∈ tokens → f.wellFormed = true := by
  simp only [wellFormed, Bool.and_eq_true, decide_eq_true_eq, List.all_eq_true, and_assoc,
    Bool.not_eq_true', List.isEmpty_eq_false_iff]
  refine and_congr_right fun _ => and_congr_right fun _ => and_congr_right fun _ => ?_
  constructor
  · intro all f member
    exact all (.field f) member
  · intro all token member
    cases token with
    | literal text => rfl
    | field f => exact all f member

/-! ## Reading gives well-formed tokens -/

theorem field_mem_consChar {c : CodePoint} {tokens : List Token} {f : Field}
    (member : .field f ∈ consChar c tokens) : .field f ∈ tokens := by
  cases tokens with
  | nil => simp [consChar] at member
  | cons token rest => cases token <;> simpa [consChar] using member

/-- Spelt tokens have their literals apart and their fields well formed. -/
theorem formed_of_spells {pieces : List Piece} {tokens : List Token}
    (spelt : Spells Field.BodyAccepted pieces tokens) :
    literalsApart tokens = true ∧ ∀ f, .field f ∈ tokens → f.wellFormed = true := by
  induction spelt with
  | nil => exact ⟨rfl, by simp⟩
  | plain _ _ ih =>
    exact ⟨literalsApart_consChar ih.1, fun f member => ih.2 f (field_mem_consChar member)⟩
  | doubled _ ih =>
    exact ⟨literalsApart_consChar ih.1, fun f member => ih.2 f (field_mem_consChar member)⟩
  | @body s g _ _ accepted _ ih =>
    refine ⟨ih.1, ?_⟩
    intro f member
    rcases List.mem_cons.mp member with same | later
    · cases same
      rcases accepted with spelt | ⟨line, -, spelt⟩
      · exact Field.wellFormed_of_bodySpells spelt
      · exact Field.wellFormed_of_bodySpells spelt
    · exact ih.2 f later

theorem ne_nil_of_spells {makes : List CodePoint → Field → Prop} {pieces : List Piece}
    {tokens : List Token} (spelt : Spells makes pieces tokens) (filled : pieces ≠ []) :
    tokens ≠ [] := by
  cases spelt with
  | nil => exact absurd rfl filled
  | plain => exact consChar_ne_nil _ _
  | doubled => exact consChar_ne_nil _ _
  | body => simp

/-- What a text is read as is well formed. -/
theorem wellFormed_of_parse {s : List CodePoint} {tokens : List Token}
    (parsed : parse s = .ok tokens) : wellFormed tokens = true := by
  obtain ⟨filled, pieces, rfl, spelt, distinct⟩ := parse_eq_ok_iff.mp parsed
  have pieced : pieces ≠ [] := by
    rintro rfl
    exact filled rfl
  obtain ⟨apart, formed⟩ := formed_of_spells spelt
  exact wellFormed_iff.mpr ⟨ne_nil_of_spells spelt pieced, apart, distinct, formed⟩

end LogTemplate.Token

namespace LogTemplate.Template

theorem wellFormed_tokens (t : Template) : Token.wellFormed t.tokens = true :=
  Token.wellFormed_of_parse t.parsed

end LogTemplate.Template
