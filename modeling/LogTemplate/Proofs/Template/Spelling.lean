import LogTemplate.Proofs.Field.Spelling
import LogTemplate.Proofs.Template.Piece

/-!
# What the pieces of a template spell

Pieces spell tokens: a character or a doubled sign goes into a literal, and a body makes a field.
Main statements: a text is read as tokens exactly if its pieces spell them with no name twice; it is
refused for a repeated name exactly if a field repeats a name of the pieces before it.
-/

namespace LogTemplate.Token

/-- Pieces spell tokens, where `makes` tells which bodies make which fields. -/
inductive Spells (makes : List CodePoint → Field → Prop) : List Piece → List Token → Prop
  | nil : Spells makes [] []
  | plain {c : CodePoint} {pieces : List Piece} {tokens : List Token} :
      c ≠ '@' → Spells makes pieces tokens → Spells makes (.plain c :: pieces) (consChar c tokens)
  | doubled {pieces : List Piece} {tokens : List Token} :
      Spells makes pieces tokens → Spells makes (.doubled :: pieces) (consChar '@' tokens)
  | body {s : List CodePoint} {f : Field} {pieces : List Piece} {tokens : List Token} :
      makes s f → Spells makes pieces tokens →
      Spells makes (.body s :: pieces) (.field f :: tokens)

variable {makes : List CodePoint → Field → Prop} {pieces : List Piece} {tokens : List Token}

/-! ## Spelling alone -/

theorem Spells.mono {wider : List CodePoint → Field → Prop} (le : ∀ s f, makes s f → wider s f)
    (spelt : Spells makes pieces tokens) : Spells wider pieces tokens := by
  induction spelt with
  | nil => exact .nil
  | plain different _ ih => exact .plain different ih
  | doubled _ ih => exact .doubled ih
  | body made _ ih => exact .body (le _ _ made) ih

theorem Spells.makes_of_mem (spelt : Spells makes pieces tokens) {s : List CodePoint}
    (member : .body s ∈ pieces) : ∃ f, makes s f := by
  induction spelt with
  | nil => cases member
  | plain _ _ ih => exact ih (by simpa using member)
  | doubled _ ih => exact ih (by simpa using member)
  | @body s' f _ _ made _ ih =>
    rcases List.mem_cons.mp member with same | later
    · cases same
      exact ⟨f, made⟩
    · exact ih later

theorem Spells.unique (functional : ∀ s f g, makes s f → makes s g → f = g)
    (spelt : Spells makes pieces tokens) {other : List Token} (again : Spells makes pieces other) :
    tokens = other := by
  induction spelt generalizing other with
  | nil =>
    cases again
    rfl
  | plain _ _ ih =>
    cases again with
    | plain _ rest => rw [ih rest]
  | doubled _ ih =>
    cases again with
    | doubled rest => rw [ih rest]
  | body made _ ih =>
    cases again with
    | body madeAgain rest => rw [functional _ _ _ made madeAgain, ih rest]

/-- Pieces in two parts spell tokens whose fields are those of the one part and of the other. -/
theorem Spells.of_append {front back : List Piece} (spelt : Spells makes (front ++ back) tokens) :
    ∃ first second, Spells makes front first ∧ Spells makes back second
      ∧ fieldNames tokens = fieldNames first ++ fieldNames second := by
  induction front generalizing tokens with
  | nil => exact ⟨[], tokens, .nil, spelt, rfl⟩
  | cons p front ih =>
    cases spelt with
    | @plain c _ _ different rest =>
      obtain ⟨first, second, spelt, more, names⟩ := ih rest
      exact ⟨consChar c first, second, .plain different spelt, more, by simpa using names⟩
    | doubled rest =>
      obtain ⟨first, second, spelt, more, names⟩ := ih rest
      exact ⟨consChar '@' first, second, .doubled spelt, more, by simpa using names⟩
    | @body s f _ _ made rest =>
      obtain ⟨first, second, spelt, more, names⟩ := ih rest
      exact ⟨.field f :: first, second, .body made spelt, more, by simpa using names⟩

/-- Pieces are whole if no body holds a sign or nothing. -/
theorem Spells.whole (plain : ∀ s f, makes s f → s ≠ [] ∧ .char '@' ∉ s)
    (spelt : Spells makes pieces tokens) : ∀ p ∈ pieces, p.IsWhole := by
  induction spelt with
  | nil => simp
  | plain different _ ih => simpa using ⟨different, ih⟩
  | doubled _ ih => simpa using ⟨trivial, ih⟩
  | body made _ ih => simpa using ⟨plain _ _ made, ih⟩

/-- A text that pieces make up is cut into them, whatever follows it. -/
theorem Spells.cut_textAll_append (plain : ∀ s f, makes s f → s ≠ [] ∧ .char '@' ∉ s)
    (spelt : Spells makes pieces tokens) (rest : List CodePoint) :
    Piece.cut none (Piece.textAll pieces ++ rest) = pieces ++ Piece.cut none rest :=
  Piece.cut_textAll_append (spelt.whole plain) rest

/-- A text in which a field stands behind pieces is cut into these pieces, the body of the field,
and what follows. -/
theorem Spells.cut_field (plain : ∀ s f, makes s f → s ≠ [] ∧ .char '@' ∉ s)
    (spelt : Spells makes pieces tokens) {body : List CodePoint} (filled : body ≠ [])
    (free : .char '@' ∉ body) (rest : List CodePoint) :
    Piece.cut none (Piece.textAll pieces ++ .char '@' :: (body ++ .char '@' :: rest)) =
      pieces ++ .body body :: Piece.cut none rest := by
  have whole : (Piece.body body).IsWhole := ⟨filled, free⟩
  have cut := Piece.cut_text_append whole rest
  rw [spelt.cut_textAll_append plain]
  simpa [Piece.text] using cut

/-- Pieces that spell tokens are all of the text that they are cut from. -/
theorem Spells.eq_textAll (spelt : Spells makes pieces tokens) {s : List CodePoint}
    (cuts : Piece.Cuts s pieces) : s = Piece.textAll pieces := by
  induction cuts generalizing tokens with
  | nil => rfl
  | @cons p _ pieces _ _ ih =>
    have spelt : Spells makes ([p] ++ pieces) tokens := spelt
    obtain ⟨_, _, _, rest, -⟩ := spelt.of_append
    rw [ih rest, Piece.textAll_cons]
  | unclosed => cases spelt

theorem plain_of_bodyAccepted (s : List CodePoint) (f : Field) (accepted : Field.BodyAccepted s f) :
    s ≠ [] ∧ .char '@' ∉ s :=
  ⟨Field.ne_nil_of_bodyAccepted accepted, Field.at_not_mem_of_bodyAccepted accepted⟩

/-! ## Reading pieces -/

/-- Names are fresh: none stands twice, and none has been taken. -/
def Fresh (seen names : List Text) : Prop := names.Nodup ∧ ∀ name ∈ names, name ∉ seen

theorem fresh_cons {seen : List Text} {name : Text} {names : List Text} :
    Fresh seen (name :: names) ↔ name ∉ seen ∧ Fresh (name :: seen) names := by
  unfold Fresh
  rw [List.nodup_cons]
  constructor
  · rintro ⟨⟨once, distinct⟩, free⟩
    refine ⟨free name (by simp), distinct, ?_⟩
    intro other member taken
    rcases List.mem_cons.mp taken with rfl | seenBefore
    · exact once member
    · exact free other (by simp [member]) seenBefore
  · rintro ⟨free, distinct, later⟩
    refine ⟨⟨fun member => later name member (by simp), distinct⟩, ?_⟩
    intro other member taken
    rcases List.mem_cons.mp member with rfl | inRest
    · exact free taken
    · exact later other inRest (by simp [taken])

theorem fresh_nil_right {seen : List Text} : Fresh seen [] := ⟨List.nodup_nil, by simp⟩

theorem fresh_nil_iff {names : List Text} : Fresh [] names ↔ names.Nodup := by
  simp [Fresh]

/-- A field is read off its body if the body is accepted and its name is fresh. -/
theorem ofPieces_body_eq_ok_iff {position : Nat} {seen : List Text} {s : List CodePoint} :
    ofPieces position seen (.body s :: pieces) = .ok tokens ↔
      ∃ f rest, Field.BodyAccepted s f ∧ f.name ∉ seen
        ∧ ofPieces (position + s.length + 2) (f.name :: seen) pieces = .ok rest
        ∧ tokens = .field f :: rest := by
  rw [ofPieces]
  constructor
  · intro success
    split at success
    · cases success
    rename_i f read
    split at success
    · cases success
    rename_i free
    obtain ⟨rest, later, same⟩ := bind_eq_ok_iff.mp success
    exact ⟨f, rest, Field.read_eq_ok_iff.mp read, by simpa using free, later,
      (Except.ok.inj same).symm⟩
  · rintro ⟨f, rest, accepted, free, later, rfl⟩
    simp [Field.read_eq_ok_iff.mpr accepted, free, later, pure, Except.pure, bind, Except.bind]

/-- Pieces are read exactly if they spell tokens with fresh names. -/
theorem ofPieces_eq_ok_iff {s : List CodePoint} (cuts : Piece.Cuts s pieces) {position : Nat}
    {seen : List Text} :
    ofPieces position seen pieces = .ok tokens ↔
      Spells Field.BodyAccepted pieces tokens ∧ Fresh seen (fieldNames tokens) := by
  induction cuts generalizing position seen tokens with
  | nil =>
    constructor
    · intro success
      cases success
      exact ⟨.nil, fresh_nil_right⟩
    · rintro ⟨spelt, -⟩
      cases spelt
      rfl
  | @cons p rest pieces whole _ ih =>
    cases p with
    | plain c =>
      rw [ofPieces, bind_eq_ok_iff]
      constructor
      · rintro ⟨tokens, success, same⟩
        obtain rfl := Except.ok.inj same
        obtain ⟨spelt, fresh⟩ := ih.mp success
        exact ⟨.plain whole spelt, by simpa using fresh⟩
      · rintro ⟨spelt, fresh⟩
        cases spelt with
        | @plain _ _ tokens _ spelt => exact ⟨tokens, ih.mpr ⟨spelt, by simpa using fresh⟩, rfl⟩
    | doubled =>
      rw [ofPieces, bind_eq_ok_iff]
      constructor
      · rintro ⟨tokens, success, same⟩
        obtain rfl := Except.ok.inj same
        obtain ⟨spelt, fresh⟩ := ih.mp success
        exact ⟨.doubled spelt, by simpa using fresh⟩
      · rintro ⟨spelt, fresh⟩
        cases spelt with
        | @doubled _ tokens spelt => exact ⟨tokens, ih.mpr ⟨spelt, by simpa using fresh⟩, rfl⟩
    | body text =>
      rw [ofPieces_body_eq_ok_iff]
      constructor
      · rintro ⟨f, tokens, accepted, free, success, rfl⟩
        obtain ⟨spelt, fresh⟩ := ih.mp success
        exact ⟨.body accepted spelt, fresh_cons.mpr ⟨free, fresh⟩⟩
      · rintro ⟨spelt, fresh⟩
        cases spelt with
        | @body _ f _ tokens accepted spelt =>
          obtain ⟨free, fresh⟩ := fresh_cons.mp fresh
          exact ⟨f, tokens, accepted, free, ih.mpr ⟨spelt, fresh⟩, rfl⟩
    | unclosed => exact absurd whole id
  | unclosed =>
    constructor
    · intro success
      cases success
    · rintro ⟨spelt, -⟩
      cases spelt

/-- A text is read as tokens exactly if it is not empty and made of pieces that spell them, with no
name twice. -/
theorem parse_eq_ok_iff {s : List CodePoint} :
    parse s = .ok tokens ↔
      s ≠ [] ∧ ∃ pieces, s = Piece.textAll pieces ∧ Spells Field.BodyAccepted pieces tokens
        ∧ (fieldNames tokens).Nodup := by
  have cuts := Piece.cut_eq_iff.mp (rfl : Piece.cut none s = Piece.cut none s)
  unfold parse
  constructor
  · intro success
    split at success
    · cases success
    rename_i filled
    obtain ⟨spelt, fresh⟩ := (ofPieces_eq_ok_iff cuts).mp success
    exact ⟨by simpa using filled, Piece.cut none s, spelt.eq_textAll cuts, spelt,
      fresh_nil_iff.mp fresh⟩
  · rintro ⟨filled, pieces, rfl, spelt, distinct⟩
    have same := spelt.cut_textAll_append plain_of_bodyAccepted []
    simp only [List.append_nil, Piece.cut] at same
    rw [same] at cuts ⊢
    rw [if_neg (by simpa using filled)]
    exact (ofPieces_eq_ok_iff cuts).mpr ⟨spelt, fresh_nil_iff.mpr distinct⟩

end LogTemplate.Token
