import LogTemplate.Numeral

/-!
# Errors in YAML texts
-/

namespace LogTemplate.Yaml

/-- Why a text is refused. -/
inductive Error where
  /-- The text is no YAML, or holds what no document holds: more than one document, a mapping whose
  key is no text, a document that contains itself. -/
  | malformed
  /-- An escape stands for no character. -/
  | noCharacter (code : Nat)
  /-- The version in a directive is too long to be read. -/
  | numeral (error : Numeral.Error)
  /-- Lists and mappings are nested too deep. -/
  | tooDeep
  deriving DecidableEq, Repr

end LogTemplate.Yaml
