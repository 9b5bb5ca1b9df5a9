import LogTemplate.Json.Reader
import LogTemplate.Proofs.Numeral
import LogTemplate.Proofs.Text.Split

/-!
# The language of JSON

Which texts are values, and which documents they denote, said without any reading.  A value comes
with what it asks of a reader, which may refuse integers that are too long and collections that are
nested too deep.  Main statement: a text of a value holds no control characters but white space.
-/

namespace LogTemplate.Json

open LogTemplate.Text

/-! ## What a text asks of a reader -/

/-- What a text asks of a reader: the digits of the integers in it, and how deep the lists and
mappings in it are nested. -/
structure Demand where
  integers : List (List CodePoint) := []
  depth : Nat := 0

namespace Demand

/-- What two texts ask for together. -/
def join (a b : Demand) : Demand := ⟨a.integers ++ b.integers, max a.depth b.depth⟩

/-- What some texts ask for together. -/
def all (demands : List Demand) : Demand := demands.foldr join {}

/-- What a list or a mapping asks for, around what is in it. -/
def nested (inside : Demand) : Demand := { inside with depth := inside.depth + 1 }

end Demand

/-! ## White space -/

/-- Nothing but white space. -/
def AreSpaces (s : List CodePoint) : Prop := ∀ c ∈ s, isSpace c = true

/-- A text, and what stands on both sides of it up to the next marks. -/
structure Piece where
  before : List CodePoint := []
  body : List CodePoint
  behind : List CodePoint := []

namespace Piece

/-- The text with what stands around it. -/
def text (p : Piece) : List CodePoint := p.before ++ (p.body ++ p.behind)

/-- There is nothing but white space around the text. -/
def IsSpaced (p : Piece) : Prop := AreSpaces p.before ∧ AreSpaces p.behind

end Piece

/-! ## Strings -/

/-- How a part of a string is written: a character as it is, unless it is a mark, a backslash or a
control character; a short escape; or sixteen bits in four hexadecimal digits. -/
inductive SpellsUnit : List CodePoint → Unit16 → Prop
  | char {c : CodePoint} (unmarked : c ≠ '"') (plain : c ≠ '\\') (printed : 0x20 ≤ c.toNat) :
    SpellsUnit [c] (.char c)
  | short {e c : CodePoint} (stands : shortEscape? e = some c) : SpellsUnit ['\\', e] (.char c)
  | code {digits : List CodePoint} {n : Nat} (four : digits.length = 4)
    (number : hexNumber? digits = some n) : SpellsUnit (.char '\\' :: .char 'u' :: digits) (.code n)

/-- How the parts of a string are written, one after the other. -/
inductive SpellsUnits : List CodePoint → List Unit16 → Prop
  | nil : SpellsUnits [] []
  | cons {s t : List CodePoint} {u : Unit16} {units : List Unit16} (first : SpellsUnit s u)
    (others : SpellsUnits t units) : SpellsUnits (s ++ t) (u :: units)

/-- How a string is written, marks included. -/
def SpellsString (s : List CodePoint) (value : Text) : Prop :=
  ∃ inside units, s = .char '"' :: (inside ++ [.char '"']) ∧ SpellsUnits inside units
    ∧ value = Text.ofList (joinUnits units)

/-! ## Numbers -/

/-- An exponent as it is written: a letter, a sign or none, and digits. -/
structure Exponent where
  letter : CodePoint
  sign : List CodePoint
  digits : List CodePoint
  known : letter = 'e' ∨ letter = 'E'
  signed : sign = [] ∨ sign = [.char '+'] ∨ sign = [.char '-']
  plain : ∀ c ∈ digits, c.isDigit = true
  filled : digits ≠ []

namespace Exponent

/-- The text of an exponent. -/
def text (e : Exponent) : List CodePoint := e.letter :: (e.sign ++ e.digits)

/-- The power of ten that an exponent denotes. -/
def value (e : Exponent) : Int :=
  if e.sign = [.char '-'] then -(decimalNumber e.digits : Int) else decimalNumber e.digits

end Exponent

/-- A number as it is written: a minus sign or none, digits where no zero stands before others, the
digits behind a point if there is one, and an exponent or none. -/
structure Number where
  negative : Bool
  whole : List CodePoint
  fraction : List CodePoint
  exponent : Option Exponent
  plain : ∀ c ∈ whole ++ fraction, c.isDigit = true
  led : whole = [.char '0'] ∨ ∃ first others, whole = first :: others ∧ first ≠ '0'

namespace Number

/-- The text of the fraction with its point. -/
def fractionText (n : Number) : List CodePoint :=
  if n.fraction.isEmpty then [] else .char '.' :: n.fraction

/-- The text of the exponent, if there is one. -/
def exponentText (n : Number) : List CodePoint := (n.exponent.map Exponent.text).getD []

/-- The text of a number without its sign. -/
def unsigned (n : Number) : List CodePoint := n.whole ++ (n.fractionText ++ n.exponentText)

/-- The text of a number. -/
def text (n : Number) : List CodePoint := if n.negative then .char '-' :: n.unsigned else n.unsigned

/-- Whether there is neither a fraction nor an exponent. -/
def isInteger (n : Number) : Bool := n.fraction.isEmpty && n.exponent.isNone

/-- What a number denotes: an integer, or the floating-point number that is nearest. -/
def document (n : Number) : Document :=
  let digits := decimalNumber (n.whole ++ n.fraction)
  if n.isInteger then .int (if n.negative then -(digits : Int) else digits)
  else
    let power := (n.exponent.map Exponent.value).getD 0
    .float (.ofScientific n.negative digits (power - n.fraction.length))

/-- What a number asks of a reader: to take its digits, if it is an integer. -/
def demand (n : Number) : Demand where
  integers := if n.isInteger then [n.whole] else []

end Number

/-! ## Values -/

/-- A value as it is written, what it denotes, and what it asks of a reader. -/
structure Item where
  piece : Piece
  document : Document
  demand : Demand

/-- The text of a value with what stands around it. -/
def Item.text (item : Item) : List CodePoint := item.piece.text

/-- An entry of a mapping as it is written, with the key that its name denotes. -/
structure Member where
  name : Piece
  key : Text
  value : Item

namespace Member

/-- The text of an entry. -/
def text (m : Member) : List CodePoint := m.name.text ++ .char ':' :: m.value.text

/-- What an entry denotes. -/
def entry (m : Member) : Text × Document := (m.key, m.value.document)

/-- What an entry asks of a reader. -/
def demand (m : Member) : Demand := m.value.demand

end Member

/-- The texts of things with commas between them. -/
def listed {α : Type} (text : α → List CodePoint) (l : List α) : List CodePoint :=
  [.char ','].intercalate (l.map text)

/-- How a value is written.  Of entries with the same key the first gives the place and the last
the value. -/
inductive Denotes : List CodePoint → Document → Demand → Prop
  | word {word : List CodePoint} {value : Document} (known : (word, value) ∈ words) :
    Denotes word value {}
  | number (n : Number) : Denotes n.text n.document n.demand
  | text {s : List CodePoint} {value : Text} (string : SpellsString s value) :
    Denotes s (.text value) {}
  | noItems {blank : List CodePoint} (spaces : AreSpaces blank) :
    Denotes (.char '[' :: (blank ++ [.char ']'])) (.list []) (.nested {})
  | list {items : List Item} (filled : items ≠ [])
    (spaced : ∀ item ∈ items, item.piece.IsSpaced)
    (each : ∀ item ∈ items, Denotes item.piece.body item.document item.demand) :
    Denotes (.char '[' :: (listed Item.text items ++ [.char ']'])) (.list (items.map Item.document))
      (Demand.all (items.map Item.demand)).nested
  | noEntries {blank : List CodePoint} (spaces : AreSpaces blank) :
    Denotes (.char '\x7b' :: (blank ++ [.char '\x7d'])) (.mapping []) (.nested {})
  | mapping {members : List Member} (filled : members ≠ [])
    (spaced : ∀ m ∈ members, m.name.IsSpaced ∧ m.value.piece.IsSpaced)
    (names : ∀ m ∈ members, SpellsString m.name.body m.key)
    (each : ∀ m ∈ members, Denotes m.value.piece.body m.value.document m.value.demand) :
    Denotes (.char '\x7b' :: (listed Member.text members ++ [.char '\x7d']))
      (.mapping (OrderedMap.ofList (members.map Member.entry)).entries)
      (Demand.all (members.map Member.demand)).nested

/-- How a document is written: as a value, with white space around it or not. -/
def IsTextOf (s : List CodePoint) (d : Document) (demand : Demand) : Prop :=
  ∃ p : Piece, p.IsSpaced ∧ s = p.text ∧ Denotes p.body d demand

theorem listed_singleton {α : Type} (text : α → List CodePoint) (a : α) :
    listed text [a] = text a :=
  List.intercalate_singleton

theorem listed_cons_cons {α : Type} (text : α → List CodePoint) (a b : α) (l : List α) :
    listed text (a :: b :: l) = text a ++ .char ',' :: listed text (b :: l) := by
  rw [listed, List.map_cons, List.map_cons, List.intercalate_cons_cons, List.append_assoc,
    List.singleton_append, listed, List.map_cons]

theorem listed_cons {α : Type} (text : α → List CodePoint) (a : α) (l : List α) :
    ∃ behind, listed text (a :: l) = text a ++ behind := by
  cases l with
  | nil => exact ⟨[], by rw [listed_singleton, List.append_nil]⟩
  | cons b l => exact ⟨_, listed_cons_cons text a b l⟩

/-- An object stands between braces. -/
theorem Denotes.exists_braces {s : List CodePoint} {d : Document} {demand : Demand}
    {entries : List (Text × Document)} (denotes : Denotes s d demand)
    (mapping : d = .mapping entries) :
    ∃ inside, s = .char '\x7b' :: (inside ++ [.char '\x7d']) := by
  cases denotes with
  | word known =>
    subst mapping
    simp [words] at known
  | number n =>
    rw [Number.document] at mapping
    split at mapping <;> cases mapping
  | text string => cases mapping
  | noItems spaces => cases mapping
  | list filled spaced each => cases mapping
  | noEntries spaces => exact ⟨_, rfl⟩
  | mapping filled spaced names each => exact ⟨_, rfl⟩

/-! ## The characters of a text -/

/-- No control character stands in a text, unless it is white space. -/
def IsLegible (s : List CodePoint) : Prop := ∀ c ∈ s, isSpace c = true ∨ 0x20 ≤ c.toNat

instance (s : List CodePoint) : Decidable (IsLegible s) := List.decidableBAll _ s

theorem isLegible_append {s t : List CodePoint} : IsLegible (s ++ t) ↔ IsLegible s ∧ IsLegible t :=
  List.forall_mem_append

theorem isLegible_cons {c : CodePoint} {s : List CodePoint} :
    IsLegible (c :: s) ↔ (isSpace c = true ∨ 0x20 ≤ c.toNat) ∧ IsLegible s :=
  List.forall_mem_cons

theorem AreSpaces.isLegible {blank : List CodePoint} (spaces : AreSpaces blank) : IsLegible blank :=
  fun c member => .inl (spaces c member)

theorem Piece.IsSpaced.isLegible {p : Piece} (spaced : p.IsSpaced) (body : IsLegible p.body) :
    IsLegible p.text :=
  isLegible_append.mpr ⟨spaced.1.isLegible, isLegible_append.mpr ⟨body, spaced.2.isLegible⟩⟩

theorem isLegible_of_isDigit {digits : List CodePoint} (plain : ∀ c ∈ digits, c.isDigit = true) :
    IsLegible digits := by
  intro c member
  have digit := (CodePoint.isDigit_iff_toNat (c := c)).mp (plain c member)
  have low : '0'.toNat = 48 := rfl
  exact .inr (by omega)

/-- The digits of a number in base sixteen are letters and digits. -/
theorem isLegible_of_hexNumber? {digits : List CodePoint} {n : Nat}
    (number : hexNumber? digits = some n) : IsLegible digits := by
  have key : ∀ start, digits.foldlM (fun n c => (hexValue? c).map (16 * n + ·)) start = some n →
      IsLegible digits := by
    clear number
    induction digits with
    | nil => exact fun _ _ => by decide
    | cons c digits ih =>
      intro start number
      rw [List.foldlM_cons, Option.bind_eq_bind, Option.bind_eq_some_iff] at number
      obtain ⟨next, here, later⟩ := number
      obtain ⟨value, digit, -⟩ := Option.map_eq_some_iff.mp here
      have range := toNat_of_hexValue? digit
      exact isLegible_cons.mpr ⟨.inr (by omega), ih next later⟩
  exact key 0 number

theorem SpellsUnit.isLegible {s : List CodePoint} {u : Unit16} (spells : SpellsUnit s u) :
    IsLegible s := by
  cases spells with
  | char unmarked plain printed => exact isLegible_cons.mpr ⟨.inr printed, by decide⟩
  | @short e c stands =>
    have low : ∀ n : Fin 0x20, shortEscape? (CodePoint.ofNat n) = none := by decide
    have printed : 0x20 ≤ e.toNat := by
      by_contra control
      have none := low ⟨e.toNat, Nat.lt_of_not_le control⟩
      rw [CodePoint.ofNat_toNat, stands] at none
      cases none
    exact isLegible_cons.mpr ⟨by decide, isLegible_cons.mpr ⟨.inr printed, by decide⟩⟩
  | code four number =>
    exact isLegible_append (s := [.char '\\', .char 'u']).mpr
      ⟨by decide, isLegible_of_hexNumber? number⟩

theorem SpellsUnits.isLegible {s : List CodePoint} {units : List Unit16}
    (spells : SpellsUnits s units) : IsLegible s := by
  induction spells with
  | nil => decide
  | cons first others ih => exact isLegible_append.mpr ⟨first.isLegible, ih⟩

theorem isLegible_of_spellsString {s : List CodePoint} {value : Text}
    (spells : SpellsString s value) : IsLegible s := by
  obtain ⟨inside, units, rfl, spelled, -⟩ := spells
  exact isLegible_cons.mpr ⟨by decide, isLegible_append.mpr ⟨spelled.isLegible, by decide⟩⟩

theorem Exponent.isLegible (e : Exponent) : IsLegible e.text := by
  refine isLegible_cons.mpr ⟨?_, isLegible_append.mpr ⟨?_, isLegible_of_isDigit e.plain⟩⟩
  · rcases e.known with letter | letter <;> rw [letter] <;> decide
  · rcases e.signed with sign | sign | sign <;> rw [sign] <;> decide

theorem Number.isLegible (n : Number) : IsLegible n.text := by
  have digits := isLegible_append.mp (isLegible_of_isDigit n.plain)
  have fraction : IsLegible n.fractionText := by
    unfold fractionText
    split
    · decide
    · exact isLegible_cons.mpr ⟨by decide, digits.2⟩
  have exponent : IsLegible n.exponentText := by
    unfold exponentText
    cases n.exponent with
    | none => exact (by decide : IsLegible [])
    | some e => exact e.isLegible
  have unsigned : IsLegible n.unsigned :=
    isLegible_append.mpr ⟨digits.1, isLegible_append.mpr ⟨fraction, exponent⟩⟩
  unfold text
  split
  · exact isLegible_cons.mpr ⟨by decide, unsigned⟩
  · exact unsigned

theorem isLegible_word {word : List CodePoint} {value : Document} (known : (word, value) ∈ words) :
    IsLegible word := by
  simp only [words, List.mem_cons, Prod.mk.injEq, List.not_mem_nil, or_false] at known
  rcases known with h | h | h | h | h | h <;> rw [h.1] <;> decide

theorem isLegible_listed {α : Type} {text : α → List CodePoint} {l : List α}
    (each : ∀ a ∈ l, IsLegible (text a)) : IsLegible (listed text l) := by
  intro c member
  rcases mem_of_mem_intercalate member with comma | ⟨part, known, inside⟩
  · rw [List.mem_singleton.mp comma]
    decide
  · obtain ⟨a, here, rfl⟩ := List.mem_map.mp known
    exact each a here c inside

/-- The text of a value holds no control characters but white space. -/
theorem Denotes.isLegible {s : List CodePoint} {d : Document} {demand : Demand}
    (denotes : Denotes s d demand) : IsLegible s := by
  have bracketed :
    ∀ {opening closing : CodePoint} {inside : List CodePoint}, IsLegible [opening, closing] →
      IsLegible inside → IsLegible (opening :: (inside ++ [closing])) := by
    intro opening closing inside outer inner
    rw [isLegible_cons] at outer ⊢
    exact ⟨outer.1, isLegible_append.mpr ⟨inner, outer.2⟩⟩
  induction denotes with
  | word known => exact isLegible_word known
  | number n => exact n.isLegible
  | text string => exact isLegible_of_spellsString string
  | noItems spaces => exact bracketed (by decide) spaces.isLegible
  | list filled spaced each ih =>
    exact bracketed (by decide) (isLegible_listed fun item member =>
      (spaced item member).isLegible (ih item member))
  | noEntries spaces => exact bracketed (by decide) spaces.isLegible
  | mapping filled spaced names each ih =>
    refine bracketed (by decide) (isLegible_listed fun m member => ?_)
    have name := (spaced m member).1.isLegible (isLegible_of_spellsString (names m member))
    have value := (spaced m member).2.isLegible (ih m member)
    exact isLegible_append.mpr ⟨name, isLegible_cons.mpr ⟨by decide, value⟩⟩

end LogTemplate.Json
