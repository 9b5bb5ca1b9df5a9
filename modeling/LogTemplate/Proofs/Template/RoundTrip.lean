import Mathlib.Algebra.Ring.Nat
import LogTemplate.Proofs.Template.WellFormed

/-!
# Written templates

Well-formed tokens have a written form, which is read as these tokens; and what any text is read as
is well formed.  So reading and writing are inverse to each other, up to the spelling of a text.
-/

namespace LogTemplate.Token

/-- The piece that writes a character of a literal. -/
def pieceOf (c : CodePoint) : Piece := if c = '@' then .doubled else .plain c

/-- The pieces that write a token. -/
def pieces : Token → List Piece
  | .literal text => text.map pieceOf
  | .field f => [.body f.body]

theorem render_eq_textAll (token : Token) : token.render = Piece.textAll token.pieces := by
  cases token with
  | literal text =>
    simp only [render, pieces, Piece.textAll, List.flatMap_map]
    congr 1
    funext c
    by_cases sign : c = '@' <;> simp [pieceOf, sign, Piece.text]
  | field f => simp [render, pieces, Field.render_eq, Piece.text]

theorem renderAll_eq_textAll (tokens : List Token) :
    renderAll tokens = Piece.textAll (tokens.flatMap pieces) := by
  induction tokens with
  | nil => rfl
  | cons token rest ih =>
    have head : renderAll (token :: rest) = token.render ++ renderAll rest := rfl
    rw [head, render_eq_textAll, ih, List.flatMap_cons, Piece.textAll_append]

theorem spells_pieceOf {makes : List CodePoint → Field → Prop} {c : CodePoint} {pieces : List Piece}
    {tokens : List Token} (spelt : Spells makes pieces tokens) :
    Spells makes (pieceOf c :: pieces) (consChar c tokens) := by
  unfold pieceOf
  split
  · rename_i sign
    subst sign
    exact .doubled spelt
  · rename_i different
    exact .plain different spelt

/-- The pieces that write a literal spell it in front of tokens that start with no literal. -/
theorem spells_literal {makes : List CodePoint → Field → Prop} {text : List CodePoint}
    {pieces : List Piece} {tokens : List Token} (filled : text ≠ [])
    (apart : startsLiteral tokens = false) (spelt : Spells makes pieces tokens) :
    Spells makes (text.map pieceOf ++ pieces) (.literal text :: tokens) := by
  induction text with
  | nil => exact absurd rfl filled
  | cons c rest ih =>
    cases rest with
    | nil =>
      have single := spells_pieceOf (c := c) spelt
      rwa [consChar_of_not_startsLiteral apart] at single
    | cons d rest => exact spells_pieceOf (ih (by simp))

/-- Well-formed tokens are spelt by the pieces that write them. -/
theorem spells_pieces {tokens : List Token} (apart : literalsApart tokens = true)
    (formed : ∀ f, .field f ∈ tokens → f.wellFormed = true) :
    Spells Field.BodyAccepted (tokens.flatMap pieces) tokens := by
  induction tokens with
  | nil => exact .nil
  | cons token rest ih =>
    have later : ∀ f, .field f ∈ rest → f.wellFormed = true := fun f member =>
      formed f (by simp [member])
    cases token with
    | literal text =>
      obtain ⟨filled, starts, apart⟩ := literalsApart_literal.mp apart
      exact spells_literal filled starts (ih apart later)
    | field f =>
      have spelt : Field.BodySpells f.body f := Field.bodySpells_body (formed f (by simp))
      have accepted : Field.BodyAccepted f.body f := .inl spelt
      exact .body accepted (ih apart later)

/-- The written form of well-formed tokens is read as these tokens. -/
theorem parse_renderAll {tokens : List Token} (formed : wellFormed tokens = true) :
    parse (renderAll tokens) = .ok tokens := by
  obtain ⟨filled, apart, distinct, fields⟩ := wellFormed_iff.mp formed
  have spelt := spells_pieces apart fields
  refine parse_eq_ok_iff.mpr ⟨?_, _, renderAll_eq_textAll tokens, spelt, distinct⟩
  rw [renderAll_eq_textAll]
  intro empty
  have none : tokens.flatMap pieces = [] := by
    cases written : tokens.flatMap pieces with
    | nil => rfl
    | cons p rest =>
      rw [written, Piece.textAll_cons, List.append_eq_nil_iff] at empty
      exact absurd empty.1 p.text_ne_nil
  rw [none] at spelt
  cases spelt
  exact filled rfl

end LogTemplate.Token

namespace LogTemplate

/-- Bounds are listed in the order of the names of their limits. -/
theorem Bounds.ascending_entries (bounds : Bounds) :
    (bounds.entries.map fun entry => entry.1.name).Pairwise (· < ·) := by
  have listed : bounds.entries.map (fun entry => entry.1.name) =
      (bounds.entries.map Prod.fst).map Limit.name := by
    rw [List.map_map]
    rfl
  rw [listed, map_fst_entries, List.pairwise_map]
  exact List.Pairwise.filter _ (by decide)

theorem Token.fixedLength_eq_sum (tokens : List Token) :
    fixedLength tokens = (tokens.map literalLength).sum := by
  induction tokens with
  | nil => rfl
  | cons token rest ih => rw [fixedLength, ih, List.map_cons, List.sum_cons]

namespace Template

theorem compile_renderAll {tokens : List Token} (formed : Token.wellFormed tokens = true) :
    ∃ t, compile (Text.ofList (Token.renderAll tokens)) = .ok t ∧ t.tokens = tokens := by
  have parsed : Token.parse (Text.ofList (Token.renderAll tokens)).toList = .ok tokens := by
    rw [Text.toList_ofList, Token.parse_renderAll formed]
  exact compile_of_parse parsed

/-- Reading and writing are inverse to each other.  The written form of well-formed tokens is read
as these tokens; and every text that is read gives well-formed tokens, with the bounds of each
field in the order of their names, which their written form gives again. -/
theorem compile_render_inverse :
    (∀ tokens, Token.wellFormed tokens = true →
      ∃ t, compile (Text.ofList (Token.renderAll tokens)) = .ok t ∧ t.tokens = tokens)
      ∧ ∀ source t, compile source = .ok t →
        Token.wellFormed t.tokens = true
          ∧ (∀ f, .field f ∈ t.tokens →
            (f.bounds.entries.map fun entry => entry.1.name).Pairwise (· < ·))
          ∧ t.literalLength = (t.tokens.map Token.literalLength).sum
          ∧ ∃ u, compile (Text.ofList (Token.renderAll t.tokens)) = .ok u
            ∧ u.tokens = t.tokens := by
  refine ⟨fun _ => compile_renderAll, ?_⟩
  intro source t _
  exact ⟨t.wellFormed_tokens, fun f _ => f.bounds.ascending_entries,
    Token.fixedLength_eq_sum t.tokens, compile_renderAll t.wellFormed_tokens⟩

end Template

end LogTemplate
