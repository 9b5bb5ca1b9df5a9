/-!
# Texts

A text is a list of code points.  Most of them are characters.  A character beyond the first
sixteen bits can be written as two halves, and where one half stands without the other it is a code
point that is no character: a text may hold it, but no file, no database and no response can.  Main
statements: texts are ordered by their code points, and a text has characters exactly if no half in
it stands alone.
-/

namespace LogTemplate

/-- What a text is made of. -/
inductive CodePoint where
  | char (c : Char)
  /-- A half that stands alone.  The first halves come before the second ones. -/
  | lone (half : Fin 2048)
  deriving DecidableEq, Repr, Inhabited

namespace CodePoint

instance : Coe Char CodePoint := ⟨char⟩

/-- The number of a code point. -/
def toNat : CodePoint → Nat
  | char c => c.toNat
  | lone half => 0xD800 + half

/-- The code point of a number. -/
def ofNat (n : Nat) : CodePoint :=
  if h : 0xD800 ≤ n ∧ n < 0xE000 then lone ⟨n - 0xD800, by omega⟩ else char (Char.ofNat n)

@[simp] theorem toNat_char (c : Char) : (char c).toNat = c.toNat := rfl

theorem ofNat_toNat (c : CodePoint) : ofNat c.toNat = c := by
  cases c with
  | lone half =>
    have within : 0xD800 ≤ 0xD800 + half.val ∧ 0xD800 + half.val < 0xE000 := by omega
    have same : 0xD800 + half.val - 0xD800 = half.val := by omega
    simp only [toNat, ofNat, dif_pos within, same]
  | char c =>
    have valid : c.toNat < 0xD800 ∨ 0xDFFF < c.toNat ∧ c.toNat < 0x110000 := c.valid
    have outside : ¬ (0xD800 ≤ c.toNat ∧ c.toNat < 0xE000) := by omega
    rw [toNat, ofNat, dif_neg outside, Char.ofNat_toNat]

theorem toNat_inj {c d : CodePoint} : c.toNat = d.toNat ↔ c = d :=
  ⟨fun same => by rw [← ofNat_toNat c, same, ofNat_toNat], congrArg toNat⟩

instance : LT CodePoint := ⟨fun c d => c.toNat < d.toNat⟩

theorem lt_iff {c d : CodePoint} : c < d ↔ c.toNat < d.toNat := .rfl

instance (c d : CodePoint) : Decidable (c < d) := inferInstanceAs (Decidable (c.toNat < d.toNat))

instance : LE CodePoint := ⟨fun c d => c.toNat ≤ d.toNat⟩

instance (c d : CodePoint) : Decidable (c ≤ d) := inferInstanceAs (Decidable (c.toNat ≤ d.toNat))

instance : Std.Irrefl (α := CodePoint) (· < ·) := ⟨fun c => Nat.lt_irrefl c.toNat⟩

instance : Std.Asymm (α := CodePoint) (· < ·) := ⟨fun _ _ => Nat.lt_asymm⟩

instance : Std.Trichotomous (α := CodePoint) (· < ·) :=
  ⟨fun _ _ above below => toNat_inj.mp (Nat.le_antisymm (Nat.le_of_not_lt below)
    (Nat.le_of_not_lt above))⟩

instance : Trans (α := CodePoint) (· < ·) (· < ·) (· < ·) := ⟨Nat.lt_trans⟩

/-- Whether a code point is a character. -/
def isChar : CodePoint → Bool
  | char _ => true
  | lone _ => false

/-- Whether a code point is an ASCII digit. -/
def isDigit : CodePoint → Bool
  | char c => c.isDigit
  | lone _ => false

/-- Whether a code point is an ASCII letter or digit. -/
def isAlphanum : CodePoint → Bool
  | char c => c.isAlphanum
  | lone _ => false

/-- Whether a code point is an ASCII letter. -/
def isAlpha : CodePoint → Bool
  | char c => c.isAlpha
  | lone _ => false

/-- A code point with an ASCII letter in lower case. -/
def toLower : CodePoint → CodePoint
  | char c => char c.toLower
  | lone half => lone half

theorem toNat_lt (c : CodePoint) : c.toNat < 0x110000 := by
  cases c with
  | char c =>
    have valid : c.toNat < 0xD800 ∨ 0xDFFF < c.toNat ∧ c.toNat < 0x110000 := c.valid
    rw [toNat_char]
    omega
  | lone half => simp only [toNat]; omega

theorem isChar_iff_toNat {c : CodePoint} :
    c.isChar = true ↔ c.toNat < 0xD800 ∨ 0xDFFF < c.toNat := by
  cases c with
  | char c =>
    have valid : c.toNat < 0xD800 ∨ 0xDFFF < c.toNat ∧ c.toNat < 0x110000 := c.valid
    rw [toNat_char]
    exact iff_of_true rfl (by omega)
  | lone half => exact iff_of_false Bool.false_ne_true (by simp only [toNat]; omega)

theorem isDigit_iff_toNat {c : CodePoint} : c.isDigit = true ↔ 0x30 ≤ c.toNat ∧ c.toNat ≤ 0x39 := by
  cases c with
  | char c => exact Char.isDigit_iff_toNat
  | lone half => exact iff_of_false Bool.false_ne_true (by simp only [toNat]; omega)

theorem isAlphanum_of_isAlpha {c : CodePoint} (letter : c.isAlpha = true) :
    c.isAlphanum = true := by
  cases c with
  | char c => exact Bool.or_eq_true_iff.mpr (.inl letter)
  | lone half => cases letter

theorem isAlphanum_of_isDigit {c : CodePoint} (digit : c.isDigit = true) :
    c.isAlphanum = true := by
  cases c with
  | char c => exact Bool.or_eq_true_iff.mpr (.inr digit)
  | lone half => cases digit

end CodePoint

/-- A text. -/
structure Text where ofList ::
  toList : List CodePoint
  deriving DecidableEq, Repr, Inhabited

namespace Text

/-- The text of characters. -/
@[coe] def ofString (s : String) : Text := ⟨s.toList.map .char⟩

instance : Coe String Text := ⟨ofString⟩

/-- How many code points a text has. -/
def length (s : Text) : Nat := s.toList.length

/-- Whether a text is empty. -/
def isEmpty (s : Text) : Bool := s.toList.isEmpty

/-- One text behind another one. -/
protected def append (s t : Text) : Text := ⟨s.toList ++ t.toList⟩

instance : Append Text := ⟨Text.append⟩

/-- Texts with another text between them. -/
def intercalate (between : Text) (texts : List Text) : Text :=
  ⟨between.toList.intercalate (texts.map toList)⟩

theorem toList_ofList (s : List CodePoint) : (ofList s).toList = s := rfl

theorem ofList_toList (s : Text) : ofList s.toList = s := rfl

theorem toList_append (s t : Text) : (s ++ t).toList = s.toList ++ t.toList := rfl

@[simp] theorem toList_ofString (s : String) : (ofString s).toList = s.toList.map .char := rfl

theorem toList_inj {s t : Text} : s.toList = t.toList ↔ s = t :=
  ⟨fun same => by cases s; cases t; cases same; rfl, congrArg toList⟩

theorem toList_eq_nil_iff {s : Text} : s.toList = [] ↔ s = "" :=
  @toList_inj s ""

@[simp] theorem ofString_inj {s t : String} : (s : Text) = t ↔ s = t := by
  refine ⟨fun same => ?_, congrArg ofString⟩
  have chars : s.toList.map CodePoint.char = t.toList.map CodePoint.char := congrArg toList same
  rw [← String.toList_inj]
  exact List.map_inj_right (fun _ _ => CodePoint.char.inj) |>.mp chars

/-! ## Order -/

instance : LT Text := ⟨fun s t => s.toList < t.toList⟩

instance : LE Text := ⟨fun s t => s.toList ≤ t.toList⟩

instance (s t : Text) : Decidable (s < t) := inferInstanceAs (Decidable (s.toList < t.toList))

instance (s t : Text) : Decidable (s ≤ t) := inferInstanceAs (Decidable (s.toList ≤ t.toList))

theorem lt_iff {s t : Text} : s < t ↔ s.toList < t.toList := .rfl

protected theorem not_lt {s t : Text} : ¬ s < t ↔ t ≤ s := List.not_lt

protected theorem lt_irrefl (s : Text) : ¬ s < s := List.lt_irrefl s.toList

protected theorem lt_trans {s t u : Text} : s < t → t < u → s < u := List.lt_trans

protected theorem le_total (s t : Text) : s ≤ t ∨ t ≤ s := List.le_total s.toList t.toList

protected theorem le_antisymm {s t : Text} (below : s ≤ t) (above : t ≤ s) : s = t :=
  toList_inj.mp (List.le_antisymm below above)

protected theorem le_trans {s t u : Text} (first : s ≤ t) (second : t ≤ u) : s ≤ u := by
  rw [← Text.not_lt] at first second ⊢
  intro before
  rcases Text.le_total s t with below | below
  · rcases Decidable.em (s < t) with less | least
    · exact second (Text.lt_trans before less)
    · exact second (Text.le_antisymm below (Text.not_lt.mp least) ▸ before)
  · exact second (Text.le_antisymm (Text.not_lt.mp first) below ▸ before)

/-! ## Halves that stand alone -/

/-- Halves that stand alone in a text: the first one, where it stands, and how many stand there. -/
structure Stray where
  half : Fin 2048
  position : Nat
  count : Nat
  deriving DecidableEq, Repr

/-- The characters of a text behind some code points, or the first halves that stand alone. -/
def charsFrom (position : Nat) : List CodePoint → Except Stray (List Char)
  | [] => .ok []
  | .char c :: rest => (charsFrom (position + 1) rest).map (c :: ·)
  | .lone half :: rest => .error ⟨half, position, 1 + (rest.takeWhile (!·.isChar)).length⟩

/-- The characters of a text, or the first halves that stand alone. -/
def chars (s : List CodePoint) : Except Stray (List Char) := charsFrom 0 s

theorem charsFrom_eq_ok_iff {position : Nat} {s : List CodePoint} {found : List Char} :
    charsFrom position s = .ok found ↔ s = found.map .char := by
  induction s generalizing position found with
  | nil =>
    rw [charsFrom, Except.ok.injEq]
    exact ⟨fun same => same ▸ rfl, fun same => (List.map_eq_nil_iff.mp same.symm).symm⟩
  | cons c rest ih =>
    cases c with
    | lone half =>
      refine iff_of_false (fun failed => nomatch failed) fun same => ?_
      cases found with
      | nil => cases same
      | cons d found => cases same
    | char c =>
      rw [charsFrom]
      cases found with
      | nil =>
        refine iff_of_false (fun empty => ?_) nofun
        cases later : charsFrom (position + 1) rest <;> rw [later] at empty <;> cases empty
      | cons d found =>
        rw [List.map_cons, List.cons.injEq, ← @ih (position + 1)]
        cases later : charsFrom (position + 1) rest with
        | error e => exact iff_of_false nofun fun h => nomatch h.2
        | ok found' => simp [Except.map]

theorem chars_eq_ok_iff {s : List CodePoint} {found : List Char} :
    chars s = .ok found ↔ s = found.map .char := charsFrom_eq_ok_iff

/-- The first halves that stand alone in a text. -/
def stray? (s : List CodePoint) : Option Stray :=
  match chars s with
  | .ok _ => none
  | .error stray => some stray

/-- Whether no half in a text stands alone. -/
def isWhole (s : List CodePoint) : Bool := s.all CodePoint.isChar

theorem isWhole_map_char (s : List Char) : isWhole (s.map .char) = true := by
  rw [isWhole, List.all_map]
  exact List.all_eq_true.mpr fun _ _ => rfl

theorem exists_chars_of_isWhole {s : List CodePoint} (whole : isWhole s = true) :
    ∃ found : List Char, s = found.map .char := by
  induction s with
  | nil => exact ⟨[], rfl⟩
  | cons c rest ih =>
    obtain ⟨first, others⟩ := Bool.and_eq_true_iff.mp whole
    obtain ⟨found, rfl⟩ := ih others
    cases c with
    | char c => exact ⟨c :: found, rfl⟩
    | lone half => cases first

theorem exists_string_of_isWhole {s : Text} (whole : isWhole s.toList = true) :
    ∃ found : String, s = found := by
  obtain ⟨found, same⟩ := exists_chars_of_isWhole whole
  exact ⟨.ofList found, toList_inj.mp (by rw [same, toList_ofString, String.toList_ofList])⟩

theorem stray?_eq_none_iff {s : List CodePoint} : stray? s = none ↔ isWhole s = true := by
  rw [stray?]
  cases found : chars s with
  | ok text =>
    rw [chars_eq_ok_iff.mp found]
    exact iff_of_true rfl (isWhole_map_char text)
  | error stray =>
    refine iff_of_false nofun fun whole => ?_
    obtain ⟨text, same⟩ := exists_chars_of_isWhole whole
    cases found.symm.trans (chars_eq_ok_iff.mpr same)

theorem isWhole_iff {s : List CodePoint} : isWhole s = true ↔ ∀ c ∈ s, c.isChar = true :=
  List.all_eq_true

theorem isWhole_append (s t : List CodePoint) : isWhole (s ++ t) = (isWhole s && isWhole t) :=
  List.all_append

/-- The characters of a text, if no half in it stands alone. -/
def string? (s : Text) : Option String := (chars s.toList).toOption.map String.ofList

theorem string?_ofString (s : String) : (s : Text).string? = some s := by
  rw [string?, chars_eq_ok_iff.mpr (toList_ofString s)]
  exact congrArg some String.ofList_toList

end Text

end LogTemplate
