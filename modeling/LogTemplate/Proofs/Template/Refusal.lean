import LogTemplate.Proofs.Template.Spelling

/-!
# Refused templates

Why and where a template is refused.  Main statement: the error is that of the first piece that
cannot be read, at the place where this piece starts.
-/

namespace LogTemplate

/-! ## Bodies -/

/-- The causes that lie in the body of a field. -/
def TemplateError.Cause.isOfBody : TemplateError.Cause → Bool
  | .emptyTemplate => false
  | .unterminated => false
  | .repeatedName _ => false
  | _ => true

theorem TemplateError.Cause.category_of_isOfBody {cause : TemplateError.Cause}
    (ofBody : cause.isOfBody = true) : cause.category = .syntactic := by
  cases cause with
  | repeatedName name => cases ofBody
  | _ => rfl

namespace Field

theorem isOfBody_of_readBound {kind : Kind} {bounds : Bounds} {item : List CodePoint}
    {cause : TemplateError.Cause} (refused : readBound kind bounds item = .error cause) :
    cause.isOfBody = true := by
  unfold readBound at refused
  dsimp only at refused
  split at refused
  · cases refused
    rfl
  split at refused
  · cases refused
    rfl
  split at refused
  · cases refused
    rfl
  split at refused
  · cases refused
    rfl
  split at refused
  · cases refused
    rfl
  split at refused
  · cases refused
    rfl
  · cases refused

theorem isOfBody_of_foldlM_readBound {kind : Kind} {items : List (List CodePoint)} {bounds : Bounds}
    {cause : TemplateError.Cause}
    (refused : items.foldlM (readBound kind) bounds = .error cause) :
    cause.isOfBody = true := by
  induction items generalizing bounds with
  | nil => cases refused
  | cons item rest ih =>
    rw [List.foldlM_cons, bind_eq_error_iff] at refused
    rcases refused with first | ⟨more, -, later⟩
    · exact isOfBody_of_readBound first
    · exact ih later

theorem isOfBody_of_checkCrossing {bounds : Bounds} {cause : TemplateError.Cause}
    (refused : checkCrossing bounds = .error cause) : cause.isOfBody = true := by
  unfold checkCrossing at refused
  split at refused
  · cases refused
    rfl
  split at refused
  · cases refused
    rfl
  · cases refused

theorem isOfBody_of_readBounds {kind : Kind} {text : Option (List CodePoint)}
    {cause : TemplateError.Cause} (refused : readBounds kind text = .error cause) :
    cause.isOfBody = true := by
  unfold readBounds at refused
  split at refused
  · cases refused
  rename_i text
  split at refused
  · cases refused
  rcases bind_eq_error_iff.mp refused with items | ⟨bounds, -, crossed⟩
  · exact isOfBody_of_foldlM_readBound items
  · exact isOfBody_of_checkCrossing crossed

/-- What cannot be read as a field is refused for what stands in it. -/
theorem isOfBody_of_read {body : List CodePoint} {cause : TemplateError.Cause}
    (refused : read body = .error cause) : cause.isOfBody = true := by
  unfold read at refused
  split at refused
  · cases refused
    rfl
  split at refused
  · cases refused
    rfl
  rcases bind_eq_error_iff.mp refused with bounds | ⟨found, -, made⟩
  · exact isOfBody_of_readBounds bounds
  · cases made

end Field

/-- Why a piece cannot be read behind fields with the names in `seen`, if it cannot. -/
def Piece.refusal? (seen : List Text) : Piece → Option TemplateError.Cause
  | .plain _ => none
  | .doubled => none
  | .unclosed => some .unterminated
  | .body s =>
    match Field.read s with
    | .error cause => some cause
    | .ok f => if f.name ∈ seen then some (.repeatedName f.name) else none

namespace Token

variable {pieces : List Piece} {tokens : List Token}

/-! ## Pieces -/

/-- Why pieces that start with a body are refused: for the body, for the name of its field, or for
what follows. -/
theorem ofPieces_body_eq_error_iff {position : Nat} {seen : List Text} {s : List CodePoint}
    {e : TemplateError} :
    ofPieces position seen (.body s :: pieces) = .error e ↔
      (∃ cause, Field.read s = .error cause ∧ e = ⟨cause, position⟩)
        ∨ ∃ f, Field.BodyAccepted s f ∧
          ((f.name ∈ seen ∧ e = ⟨.repeatedName f.name, position⟩)
            ∨ (f.name ∉ seen
              ∧ ofPieces (position + s.length + 2) (f.name :: seen) pieces = .error e)) := by
  simp only [← Field.read_eq_ok_iff]
  rw [ofPieces]
  cases read : Field.read s with
  | error cause => simp [eq_comm]
  | ok f =>
    by_cases taken : f.name ∈ seen
    · simp [taken, eq_comm]
    · simp only [List.contains_iff_mem, taken, if_false]
      rw [bind_eq_error_iff]
      simp [pure, Except.pure, taken]

/-- A body is refused for what stands in it or for the name of its field. -/
theorem refusal?_body_eq_some_iff {seen : List Text} {s : List CodePoint}
    {cause : TemplateError.Cause} :
    (Piece.body s).refusal? seen = some cause ↔
      Field.read s = .error cause
        ∨ ∃ f, Field.BodyAccepted s f ∧ f.name ∈ seen ∧ cause = .repeatedName f.name := by
  simp only [← Field.read_eq_ok_iff]
  rw [Piece.refusal?]
  cases read : Field.read s with
  | error reason => simp
  | ok f => simp [eq_comm]

/-- A sign is refused that nothing closes, or a body. -/
theorem refusal?_cases {seen : List Text} {p : Piece} {cause : TemplateError.Cause}
    (refused : p.refusal? seen = some cause) :
    p = .unclosed ∧ cause = .unterminated
      ∨ ∃ s, p = .body s ∧ (Field.read s = .error cause
        ∨ ∃ f, Field.BodyAccepted s f ∧ f.name ∈ seen ∧ cause = .repeatedName f.name) := by
  cases p with
  | plain c => cases refused
  | doubled => cases refused
  | unclosed =>
    cases refused
    exact .inl ⟨rfl, rfl⟩
  | body s => exact .inr ⟨s, rfl, refusal?_body_eq_some_iff.mp refused⟩

/-- Only a field whose name is taken is refused for a repeated name. -/
theorem exists_repeated_of_refusal {seen : List Text} {p : Piece} {cause : TemplateError.Cause}
    (refused : p.refusal? seen = some cause) (repeated : cause.category = .duplicateField) :
    ∃ s f, p = .body s ∧ Field.BodyAccepted s f ∧ f.name ∈ seen := by
  rcases refusal?_cases refused with ⟨-, rfl⟩ | ⟨s, rfl, read | ⟨f, accepted, taken, -⟩⟩
  · cases repeated
  · rw [TemplateError.Cause.category_of_isOfBody (Field.isOfBody_of_read read)] at repeated
    cases repeated
  · exact ⟨s, f, rfl, accepted, taken⟩

/-- Only a sign that nothing closes is refused for that. -/
theorem eq_unclosed_of_refusal {seen : List Text} {p : Piece}
    (refused : p.refusal? seen = some .unterminated) : p = .unclosed := by
  rcases refusal?_cases refused with ⟨rfl, -⟩ | ⟨s, rfl, read | ⟨f, -, -, cause⟩⟩
  · rfl
  · cases Field.isOfBody_of_read read
  · cases cause

/-- A piece that cannot be read is what is refused, whatever follows it. -/
theorem ofPieces_of_refusal {position : Nat} {seen : List Text} {p : Piece}
    {cause : TemplateError.Cause} (refused : p.refusal? seen = some cause) (back : List Piece) :
    ofPieces position seen (p :: back) = .error ⟨cause, position⟩ := by
  rcases refusal?_cases refused with ⟨rfl, rfl⟩ | ⟨s, rfl, read | ⟨f, accepted, taken, rfl⟩⟩
  · rfl
  · exact ofPieces_body_eq_error_iff.mpr (.inl ⟨cause, read, rfl⟩)
  · exact ofPieces_body_eq_error_iff.mpr (.inr ⟨f, accepted, .inl ⟨taken, rfl⟩⟩)

/-- What is refused behind pieces that can be read is refused with them in front. -/
theorem ofPieces_append_eq_error {front back : List Piece} (position : Nat) {seen : List Text}
    {e : TemplateError} (spelt : Spells Field.BodyAccepted front tokens)
    (fresh : Fresh seen (fieldNames tokens))
    (refused : ofPieces (position + (Piece.textAll front).length)
      ((fieldNames tokens).reverse ++ seen) back = .error e) :
    ofPieces position seen (front ++ back) = .error e := by
  induction spelt generalizing position seen with
  | nil => simpa using refused
  | plain _ _ ih =>
    have later := ih (position + 1) (by simpa using fresh)
      (by simpa [Piece.text, Nat.add_assoc, Nat.add_comm 1] using refused)
    rw [List.cons_append, ofPieces, later]
    rfl
  | doubled _ ih =>
    have later := ih (position + 2) (by simpa using fresh)
      (by simpa [Piece.text, Nat.add_assoc, Nat.add_comm 2] using refused)
    rw [List.cons_append, ofPieces, later]
    rfl
  | @body s f pieces tokens accepted _ ih =>
    obtain ⟨free, fresh⟩ := fresh_cons.mp fresh
    have length : position + (Piece.textAll (.body s :: pieces)).length =
        position + s.length + 2 + (Piece.textAll pieces).length := by
      simp [Piece.text]
      omega
    rw [length] at refused
    rw [List.cons_append, ofPieces_body_eq_error_iff]
    refine .inr ⟨f, accepted, .inr ⟨free, ih _ fresh ?_⟩⟩
    simpa using refused

/-- The first piece that cannot be read: those in `front` spell tokens with fresh names, and it
comes behind them. -/
structure IsFirstFault (seen : List Text) (pieces front : List Piece) (tokens : List Token)
    (p : Piece) (cause : TemplateError.Cause) : Prop where
  split : ∃ back, pieces = front ++ p :: back
  spelt : Spells Field.BodyAccepted front tokens
  fresh : Fresh seen (fieldNames tokens)
  refused : p.refusal? ((fieldNames tokens).reverse ++ seen) = some cause

/-- A piece that cannot be read is the first fault if nothing is in front of it. -/
theorem IsFirstFault.head {seen : List Text} {p : Piece} {cause : TemplateError.Cause}
    (refused : p.refusal? seen = some cause) : IsFirstFault seen (p :: pieces) [] [] p cause :=
  ⟨⟨pieces, rfl⟩, .nil, fresh_nil_right, refused⟩

/-- A character in front of pieces is not the first fault of them. -/
theorem IsFirstFault.plain {seen : List Text} {front : List Piece} {p : Piece} {c : CodePoint}
    {cause : TemplateError.Cause} (different : c ≠ '@')
    (fault : IsFirstFault seen pieces front tokens p cause) :
    IsFirstFault seen (.plain c :: pieces) (.plain c :: front) (consChar c tokens) p cause := by
  obtain ⟨⟨back, rfl⟩, spelt, fresh, refused⟩ := fault
  exact ⟨⟨back, rfl⟩, .plain different spelt, by simpa using fresh, by simpa using refused⟩

theorem IsFirstFault.doubled {seen : List Text} {front : List Piece} {p : Piece}
    {cause : TemplateError.Cause} (fault : IsFirstFault seen pieces front tokens p cause) :
    IsFirstFault seen (.doubled :: pieces) (.doubled :: front) (consChar '@' tokens) p cause := by
  obtain ⟨⟨back, rfl⟩, spelt, fresh, refused⟩ := fault
  exact ⟨⟨back, rfl⟩, .doubled spelt, by simpa using fresh, by simpa using refused⟩

/-- A field that is read leaves its name to those behind it. -/
theorem IsFirstFault.body {seen : List Text} {front : List Piece} {p : Piece} {s : List CodePoint}
    {f : Field} {cause : TemplateError.Cause} (accepted : Field.BodyAccepted s f)
    (free : f.name ∉ seen) (fault : IsFirstFault (f.name :: seen) pieces front tokens p cause) :
    IsFirstFault seen (.body s :: pieces) (.body s :: front) (.field f :: tokens) p cause := by
  obtain ⟨⟨back, rfl⟩, spelt, fresh, refused⟩ := fault
  exact ⟨⟨back, rfl⟩, .body accepted spelt, fresh_cons.mpr ⟨free, fresh⟩, by simpa using refused⟩

/-- Pieces are refused at the first one that cannot be read. -/
theorem ofPieces_eq_error_iff {s : List CodePoint} (cuts : Piece.Cuts s pieces) {position : Nat}
    {seen : List Text} {e : TemplateError} :
    ofPieces position seen pieces = .error e ↔
      ∃ front tokens p, IsFirstFault seen pieces front tokens p e.cause
        ∧ e.position = position + (Piece.textAll front).length := by
  constructor
  · intro refused
    induction cuts generalizing position seen with
    | nil => cases refused
    | @cons p rest pieces whole _ ih =>
      cases p with
      | plain c =>
        rw [ofPieces, bind_eq_error_iff] at refused
        rcases refused with later | ⟨_, -, made⟩
        · obtain ⟨front, tokens, p, fault, place⟩ := ih later
          exact ⟨_, _, p, fault.plain whole, by simp [place, Piece.text]; omega⟩
        · cases made
      | doubled =>
        rw [ofPieces, bind_eq_error_iff] at refused
        rcases refused with later | ⟨_, -, made⟩
        · obtain ⟨front, tokens, p, fault, place⟩ := ih later
          exact ⟨_, _, p, fault.doubled, by simp [place, Piece.text]; omega⟩
        · cases made
      | body text =>
        rw [ofPieces_body_eq_error_iff] at refused
        rcases refused with ⟨cause, read, rfl⟩ | ⟨f, accepted, ⟨taken, rfl⟩ | ⟨free, later⟩⟩
        · exact ⟨[], [], _, .head (refusal?_body_eq_some_iff.mpr (.inl read)), rfl⟩
        · have fault := refusal?_body_eq_some_iff.mpr (.inr ⟨f, accepted, taken, rfl⟩)
          exact ⟨[], [], _, .head fault, rfl⟩
        · obtain ⟨front, tokens, p, fault, place⟩ := ih later
          exact ⟨_, _, p, fault.body accepted free, by simp [place, Piece.text]; omega⟩
      | unclosed => exact absurd whole id
    | unclosed =>
      cases refused
      exact ⟨[], [], .unclosed, .head rfl, rfl⟩
  · rintro ⟨front, tokens, p, ⟨⟨back, rfl⟩, spelt, fresh, refused⟩, place⟩
    rw [ofPieces_append_eq_error position spelt fresh (ofPieces_of_refusal refused back), ← place]

/-- A text that is not empty is refused at the first of its pieces that cannot be read. -/
theorem parse_eq_error_iff {s : List CodePoint} {e : TemplateError} (filled : s ≠ []) :
    parse s = .error e ↔
      ∃ front tokens p, IsFirstFault [] (Piece.cut none s) front tokens p e.cause
        ∧ e.position = (Piece.textAll front).length := by
  have cuts := Piece.cut_eq_iff.mp (rfl : Piece.cut none s = Piece.cut none s)
  rw [parse, if_neg (by simpa using filled), ofPieces_eq_error_iff cuts]
  simp only [Nat.zero_add]

end Token

end LogTemplate
