import Mathlib.Data.List.Nodup
import LogTemplate.Proofs.Template.Leftmost

/-!
# Templates put together

Two templates one behind the other are again one, if they share no name of a field.  Main statement:
its tokens are those of the two, where literals that meet become one; and templates that share a
name are refused together at the first field of the second one that has a name of the first.
-/

namespace LogTemplate

namespace Token

/-- Tokens followed by others.  A literal at the end and one at the start become one. -/
def join : List Token → List Token → List Token
  | [], more => more
  | [.literal text], .literal other :: more => .literal (text ++ other) :: more
  | token :: rest, more => token :: join rest more

@[simp] theorem join_nil (more : List Token) : join [] more = more := by
  rw [join]

@[simp] theorem join_field (f : Field) (rest more : List Token) :
    join (.field f :: rest) more = .field f :: join rest more := by
  simp [join]

/-- A character in front of tokens stays there. -/
theorem join_consChar (c : CodePoint) (tokens more : List Token) :
    join (consChar c tokens) more = consChar c (join tokens more) := by
  cases tokens with
  | nil =>
    cases more with
    | nil => rfl
    | cons token more => cases token <;> simp [consChar, join]
  | cons token rest =>
    cases token with
    | field f => simp [consChar, join]
    | literal text =>
      cases rest with
      | cons next rest => simp [consChar, join]
      | nil =>
        cases more with
        | nil => rfl
        | cons token more => cases token <;> simp [consChar, join]

/-- Joining loses no field and moves none. -/
theorem fieldNames_join (tokens more : List Token) :
    fieldNames (join tokens more) = fieldNames tokens ++ fieldNames more := by
  fun_induction join tokens more with
  | case1 => simp
  | case2 => simp
  | case3 token rest more _ ih => cases token <;> simp [ih]

/-- Joining loses no character of a literal. -/
theorem fixedLength_join (tokens more : List Token) :
    fixedLength (join tokens more) = fixedLength tokens + fixedLength more := by
  fun_induction join tokens more with
  | case1 => simp [fixedLength]
  | case2 => simp [fixedLength, literalLength]; omega
  | case3 token rest more _ ih => simp [fixedLength, ih]; omega

variable {makes : List CodePoint → Field → Prop} {pieces : List Piece} {tokens : List Token}

/-- Pieces one behind the other spell the tokens that both spell, joined. -/
theorem Spells.append {more : List Piece} {others : List Token}
    (spelt : Spells makes pieces tokens) (behind : Spells makes more others) :
    Spells makes (pieces ++ more) (join tokens others) := by
  induction spelt with
  | nil => simpa using behind
  | plain different _ ih =>
    rw [join_consChar]
    exact .plain different ih
  | doubled _ ih =>
    rw [join_consChar]
    exact .doubled ih
  | body made _ ih =>
    rw [join_field]
    exact .body made ih

theorem fixedLength_consChar (c : CodePoint) (tokens : List Token) :
    fixedLength (consChar c tokens) = fixedLength tokens + 1 := by
  cases tokens with
  | nil => rfl
  | cons token rest =>
    cases token with
    | literal text =>
      simp only [consChar, fixedLength, literalLength, List.length_cons]
      omega
    | field f =>
      simp only [consChar, fixedLength, literalLength, List.length_cons, List.length_nil]
      omega

/-- Pieces that leave tokens as they are, when put behind the text of these, are none. -/
theorem Spells.eq_nil_of_join {more : List Token} (spelt : Spells makes pieces more)
    (same : join tokens more = tokens) : pieces = [] := by
  have length := fixedLength_join tokens more
  have names := fieldNames_join tokens more
  rw [same] at length names
  cases spelt with
  | nil => rfl
  | plain => simp [fixedLength_consChar] at length
  | doubled => simp [fixedLength_consChar] at length
  | body => simp at names

theorem consChar_append_field (c : CodePoint) (before after : List Token) (f : Field) :
    consChar c (before ++ .field f :: after) = consChar c before ++ .field f :: after := by
  cases before with
  | nil => rfl
  | cons token rest => cases token <;> rfl

/-- Of the fields with one of some names there is a first one. -/
theorem Spells.exists_first (spelt : Spells makes pieces tokens) {names : List Text}
    (shared : ¬ names.Disjoint (fieldNames tokens)) :
    ∃ front s back before f after, pieces = front ++ .body s :: back
      ∧ tokens = before ++ .field f :: after ∧ Spells makes front before ∧ makes s f
      ∧ f.name ∈ names ∧ names.Disjoint (fieldNames before) := by
  induction spelt with
  | nil => simp at shared
  | @plain c _ _ different _ ih =>
    obtain ⟨front, s, back, before, f, after, rfl, rfl, spelt, made, member, apart⟩ :=
      ih (by simpa using shared)
    exact ⟨.plain c :: front, s, back, consChar c before, f, after, rfl,
      consChar_append_field c before after f, .plain different spelt, made, member,
      by simpa using apart⟩
  | doubled _ ih =>
    obtain ⟨front, s, back, before, f, after, rfl, rfl, spelt, made, member, apart⟩ :=
      ih (by simpa using shared)
    exact ⟨.doubled :: front, s, back, consChar '@' before, f, after, rfl,
      consChar_append_field '@' before after f, .doubled spelt, made, member,
      by simpa using apart⟩
  | @body s f pieces tokens made _ ih =>
    by_cases member : f.name ∈ names
    · exact ⟨[], s, pieces, [], f, tokens, rfl, rfl, .nil, made, member, by simp⟩
    · have later : ¬ names.Disjoint (fieldNames tokens) := by
        intro apart
        apply shared
        simp [member, apart]
      obtain ⟨front, s', back, before, g, after, rfl, rfl, spelt, madeLater, taken, apart⟩ :=
        ih later
      exact ⟨.body s :: front, s', back, .field f :: before, g, after, rfl, rfl,
        .body made spelt, madeLater, taken, by simp [member, apart]⟩

/-- Tokens have only one first field with one of some names. -/
theorem eq_of_append_field {names : List Text} {before other after later : List Token}
    {f g : Field} (same : before ++ .field f :: after = other ++ .field g :: later)
    (taken : f.name ∈ names) (apart : names.Disjoint (fieldNames before))
    (takenToo : g.name ∈ names) (apartToo : names.Disjoint (fieldNames other)) :
    before = other ∧ f = g := by
  induction before generalizing other with
  | nil =>
    cases other with
    | nil => simp_all
    | cons token other =>
      obtain ⟨rfl, -⟩ := List.cons.inj same
      exact absurd (by simp) (apartToo taken)
  | cons token before ih =>
    cases other with
    | nil =>
      obtain ⟨rfl, -⟩ := List.cons.inj same
      exact absurd (by simp) (apart takenToo)
    | cons token' other =>
      obtain ⟨rfl, behind⟩ := List.cons.inj same
      have smaller : ∀ rest, names.Disjoint (fieldNames (token :: rest)) →
          names.Disjoint (fieldNames rest) := by
        intro rest apart
        cases token with
        | literal => simpa using apart
        | field => exact List.disjoint_of_disjoint_cons_right (by simpa using apart)
      obtain ⟨rfl, rfl⟩ := ih behind (smaller _ apart) (smaller _ apartToo)
      exact ⟨rfl, rfl⟩

end Token

namespace Template

open Token (Spells)

/-- A template is made of pieces that spell its tokens. -/
theorem exists_pieces (t : Template) :
    ∃ pieces, t.source.toList = Piece.textAll pieces
      ∧ Spells Field.BodyAccepted pieces t.tokens ∧ t.fieldNames.Nodup :=
  (Token.parse_eq_ok_iff.mp t.parsed).2

/-- The first field of a template that has one of some names, and the place of the sign that opens
it: the text in front of the sign is read as the tokens in front of the field. -/
def IsFirstField (t : Template) (names : List Text) (f : Field) (place : Nat) : Prop :=
  ∃ front rest before after, t.source.toList = front ++ .char '@' :: rest ∧ front.length = place
    ∧ IsReadAs front before ∧ t.tokens = before ++ .field f :: after ∧ f.name ∈ names
    ∧ names.Disjoint (Token.fieldNames before)

theorem IsReadAs.exists_pieces {text : List CodePoint} {tokens : List Token}
    (read : IsReadAs text tokens) :
    ∃ pieces, text = Piece.textAll pieces ∧ Spells Field.BodyAccepted pieces tokens := by
  rcases read with ⟨rfl, rfl⟩ | ⟨t, read, rfl⟩
  · exact ⟨[], rfl, .nil⟩
  · obtain ⟨pieces, same, spelt, -⟩ := t.exists_pieces
    rw [compile_eq_ok_iff.mp read, Text.toList_ofList] at same
    exact ⟨pieces, same, spelt⟩

/-- No text and a longer one that starts with it are read as the same tokens. -/
theorem IsReadAs.eq_of_prefix {text other : List CodePoint} {tokens : List Token}
    (read : IsReadAs text tokens) (again : IsReadAs other tokens) (starts : text <+: other) :
    text = other := by
  obtain ⟨rest, rfl⟩ := starts
  obtain ⟨pieces, rfl, spelt⟩ := read.exists_pieces
  obtain ⟨more, same, speltMore⟩ := again.exists_pieces
  have cut := spelt.cut_textAll_append Token.plain_of_bodyAccepted rest
  have cutMore := speltMore.cut_textAll_append Token.plain_of_bodyAccepted []
  rw [List.append_nil, ← same, cut, Piece.cut, List.append_nil] at cutMore
  subst cutMore
  obtain ⟨_, others, _, behind, -⟩ := speltMore.of_append
  have functional : ∀ s f g, Field.BodyAccepted s f → Field.BodyAccepted s g → f = g :=
    fun _ _ _ first second => Field.bodyAccepted_unique first second
  have joined := (spelt.append behind).unique functional speltMore
  rw [behind.eq_nil_of_join joined] at same
  simpa using same.symm

/-- Only one field is the first, and it has only one place. -/
theorem IsFirstField.unique {t : Template} {names : List Text} {f g : Field} {place other : Nat}
    (first : t.IsFirstField names f place) (again : t.IsFirstField names g other) :
    g = f ∧ other = place := by
  obtain ⟨front, rest, before, after, text, rfl, read, tokens, taken, apart⟩ := first
  obtain ⟨front', rest', before', after', text', rfl, read', tokens', taken', apart'⟩ := again
  have both := tokens.symm.trans tokens'
  obtain ⟨rfl, same⟩ := Token.eq_of_append_field both taken apart taken' apart'
  refine ⟨same.symm, ?_⟩
  rcases List.prefix_or_prefix_of_prefix ⟨_, text.symm⟩ ⟨_, text'.symm⟩ with starts | starts
  · rw [read.eq_of_prefix read' starts]
  · rw [read'.eq_of_prefix read starts]

/-- Templates that share no name are read one behind the other as their tokens, joined. -/
theorem compile_append_of_disjoint {s t : Template}
    (apart : s.fieldNames.Disjoint t.fieldNames) :
    ∃ u, compile (s.source ++ t.source) = .ok u ∧ u.tokens = Token.join s.tokens t.tokens := by
  obtain ⟨pieces, text, spelt, distinct⟩ := s.exists_pieces
  obtain ⟨more, textMore, speltMore, distinctMore⟩ := t.exists_pieces
  refine compile_of_parse (Token.parse_eq_ok_iff.mpr ⟨?_, pieces ++ more, ?_, ?_, ?_⟩)
  · rw [Text.toList_append]
    exact List.append_ne_nil_of_left_ne_nil (Token.parse_eq_ok_iff.mp s.parsed).1 _
  · rw [Text.toList_append, text, textMore, Piece.textAll_append]
  · exact spelt.append speltMore
  · rw [Token.fieldNames_join]
    exact distinct.append distinctMore apart

/-- Templates that share a name are refused one behind the other, at the first field of the second
one that has a name of the first. -/
theorem compile_append_of_not_disjoint {s t : Template}
    (shared : ¬ s.fieldNames.Disjoint t.fieldNames) :
    ∃ f place, t.IsFirstField s.fieldNames f place
      ∧ compile (s.source ++ t.source) =
        .error ⟨.repeatedName f.name, s.source.length + place⟩ := by
  obtain ⟨pieces, text, spelt, distinct⟩ := s.exists_pieces
  obtain ⟨more, textMore, speltMore, distinctMore⟩ := t.exists_pieces
  obtain ⟨front, body, back, before, f, after, rfl, tokens, speltFront, accepted, taken, apart⟩ :=
    speltMore.exists_first shared
  have names : t.fieldNames = Token.fieldNames before ++ f.name :: Token.fieldNames after := by
    simp [fieldNames, tokens, Token.fieldNames, Token.fieldName?]
  have distinctFront : (Token.fieldNames before).Nodup := by
    rw [names, List.nodup_append] at distinctMore
    exact distinctMore.1
  refine ⟨f, (Piece.textAll front).length, ?_, ?_⟩
  · refine ⟨Piece.textAll front, body ++ .char '@' :: Piece.textAll back, before, after, ?_, rfl,
      isReadAs_textAll speltFront distinctFront, tokens, taken, apart⟩
    simp [textMore, Piece.text]
  · obtain ⟨filled, free⟩ := Token.plain_of_bodyAccepted body f accepted
    have fresh : Token.Fresh [] (Token.fieldNames (Token.join s.tokens before)) := by
      rw [Token.fresh_nil_iff, Token.fieldNames_join]
      exact distinct.append distinctFront apart
    have held : f.name ∈ (Token.fieldNames (Token.join s.tokens before)).reverse ++ [] := by
      rw [Token.fieldNames_join]
      simp [show f.name ∈ Token.fieldNames s.tokens from taken]
    have fault : Token.IsFirstFault [] (pieces ++ front ++ .body body :: back) (pieces ++ front)
        (Token.join s.tokens before) (.body body) (.repeatedName f.name) :=
      ⟨⟨back, rfl⟩, spelt.append speltFront, fresh,
        Token.refusal?_body_eq_some_iff.mpr (.inr ⟨f, accepted, held, rfl⟩)⟩
    refine compile_of_isFirstFault fault ?_ filled free ?_
    · simp [Text.length, text]
    · refine ⟨Piece.textAll back, ?_⟩
      simp [Text.toList_append, text, textMore, Piece.text]

/-- Reading goes along with putting templates one behind the other.  If they share no name of a
field, the whole is a template: its tokens are those of the first and then those of the second,
literals that meet being one, and the lengths of literals and the names of fields add up.  If they
do share a name, the whole is refused for it, at the first field of the second template whose name
the first one has. -/
theorem compile_append (s t : Template) :
    (s.fieldNames.Disjoint t.fieldNames →
      ∃ u, compile (s.source ++ t.source) = .ok u
        ∧ u.tokens = Token.join s.tokens t.tokens
        ∧ u.literalLength = s.literalLength + t.literalLength
        ∧ u.fieldNames = s.fieldNames ++ t.fieldNames)
      ∧ (¬ s.fieldNames.Disjoint t.fieldNames →
        ∃ f place e, (∀ g other, t.IsFirstField s.fieldNames g other ↔ g = f ∧ other = place)
          ∧ compile (s.source ++ t.source) = .error e
          ∧ e.category = .duplicateField ∧ e.cause = .repeatedName f.name
          ∧ e.position = s.source.length + place) := by
  constructor
  · intro apart
    obtain ⟨u, read, tokens⟩ := compile_append_of_disjoint apart
    refine ⟨u, read, tokens, ?_, ?_⟩
    · rw [literalLength, tokens, Token.fixedLength_join, literalLength, literalLength]
    · rw [fieldNames, tokens, Token.fieldNames_join, fieldNames, fieldNames]
  · intro shared
    obtain ⟨f, place, first, refused⟩ := compile_append_of_not_disjoint shared
    refine ⟨f, place, _, fun g other => ⟨first.unique, ?_⟩, refused, rfl, rfl, rfl⟩
    rintro ⟨rfl, rfl⟩
    exact first

end Template

end LogTemplate
