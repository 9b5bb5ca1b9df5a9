import LogTemplate.Field.Admission
import LogTemplate.Template.Parse

/-!
# Templates

A template is a text together with the tokens it was read as.
-/

namespace LogTemplate

/-- A text that reads as a template, and its tokens. -/
structure Template where
  source : Text
  tokens : List Token
  parsed : Token.parse source.toList = .ok tokens

namespace Template

/-- Reads a template. -/
def compile (source : Text) : Except TemplateError Template :=
  match h : Token.parse source.toList with
  | .ok tokens => .ok ⟨source, tokens, h⟩
  | .error e => .error e

theorem ext_source {s t : Template} (h : s.source = t.source) : s = t := by
  cases s with
  | mk a ta pa =>
    cases t with
    | mk b tb pb =>
      cases h
      have : ta = tb := by simpa [pa] using pb
      cases this
      rfl

instance : DecidableEq Template := fun s t =>
  match decEq s.source t.source with
  | isTrue h => isTrue (ext_source h)
  | isFalse h => isFalse fun e => h (congrArg source e)

theorem compile_eq_ok_iff {source : Text} {t : Template} :
    compile source = .ok t ↔ t.source = source := by
  unfold compile
  constructor
  · intro h
    split at h
    · cases h; rfl
    · cases h
  · rintro rfl
    split
    · exact congrArg Except.ok (ext_source rfl)
    · rename_i e he
      rw [t.parsed] at he
      cases he

theorem compile_eq_error_iff {source : Text} {e : TemplateError} :
    compile source = .error e ↔ Token.parse source.toList = .error e := by
  unfold compile
  split
  · rename_i parsed
    simp [parsed]
  · rename_i parsed
    simp [parsed]

/-- What is read as tokens is a template with these tokens. -/
theorem compile_of_parse {source : Text} {tokens : List Token}
    (parsed : Token.parse source.toList = .ok tokens) :
    ∃ t, compile source = .ok t ∧ t.tokens = tokens :=
  ⟨⟨source, tokens, parsed⟩, compile_eq_ok_iff.mpr rfl, rfl⟩

/-- How many characters of a line the literals fix. -/
def literalLength (t : Template) : Nat := Token.fixedLength t.tokens

/-- The literal that the template starts with. -/
def leadingLiteral? (t : Template) : Option (List CodePoint) :=
  match t.tokens with
  | .literal text :: _ => some text
  | _ => none

/-- The names of the fields, in order. -/
def fieldNames (t : Template) : List Text := Token.fieldNames t.tokens

end Template

/-! ## Running a template over a line

The tokens are tried from left to right without going back: a literal has to stand where it is due,
and a field takes its longest run, which has to be admitted and not empty.  The whole line has to be
used up. -/

/-- What ends free text: the first character of a literal that follows at once. -/
def Token.stopBefore : List Token → Option (List CodePoint)
  | .literal (c :: _) :: _ => some [c]
  | _ => none

/-- The values of the fields, in order, if the tokens use up the line. -/
def Token.runAll : List Token → List CodePoint → Option (List (Text × Text))
  | [], [] => some []
  | [], _ :: _ => none
  | .literal text :: rest, line =>
    match Text.dropPrefix? text line with
    | none => none
    | some after => runAll rest after
  | .field f :: rest, line =>
    let value := f.kind.run (stopBefore rest) line
    if value.isEmpty || !f.admits value then none
    else (runAll rest (line.drop value.length)).map ((f.name, Text.ofList value) :: ·)

/-- The values of the fields, in order, if the template matches the whole line. -/
def Template.run (t : Template) (line : List CodePoint) : Option (List (Text × Text)) :=
  Token.runAll t.tokens line

end LogTemplate
