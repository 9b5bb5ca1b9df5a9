import LogTemplate.Json.Writer
import LogTemplate.Proofs.Json.Grammar
import Mathlib.Data.List.Basic

/-!
# JSON strings and integers, written

Main statements: what is written for a string, in whatever style, is a text of it, and so is what is
written for an integer.
-/

namespace LogTemplate.Text

theorem hexValue?_hexDigit {value : Nat} (small : value < 16) :
    hexValue? (hexDigit value) = some value := by
  have all : ∀ v : Fin 16, hexValue? (hexDigit v) = some v.val := by decide
  exact all ⟨value, small⟩

theorem hexNumber?_hexDigits {count value : Nat} (fits : value < 16 ^ count) :
    hexNumber? (hexDigits count value) = some value := by
  induction count generalizing value with
  | zero =>
    obtain rfl : value = 0 := by omega
    rfl
  | succ count ih =>
    rw [Nat.pow_succ] at fits
    have high : hexNumber? (hexDigits count (value / 16)) = some (value / 16) := ih (by omega)
    have whole : 16 * (value / 16) + value % 16 = value := by omega
    rw [hexNumber?] at high ⊢
    rw [hexDigits, List.foldlM_append, high]
    simp [hexValue?_hexDigit (Nat.mod_lt value (by decide : 0 < 16)), whole]

end LogTemplate.Text

namespace LogTemplate.Json

open LogTemplate.Text

/-! ## Strings -/

/-- Whether a character is written by its code. -/
def isCoded (style : Style) (c : CodePoint) : Bool :=
  !(c == '"' || c == '\\' || c == '\n' || c == '\r' || c == '\t' || c == '\x0c' || c == '\x08')
    && (c.toNat < 0x20 || style.asciiOnly && 0x7F ≤ c.toNat)

/-- The codes of a character: two, if it is beyond the first sixteen bits. -/
def codesOf (c : CodePoint) : List Nat :=
  if c.toNat < 0x10000 then [c.toNat]
  else [0xD800 + (c.toNat - 0x10000) / 0x400, 0xDC00 + (c.toNat - 0x10000) % 0x400]

/-- The parts as which a written character is read. -/
def unitsOf (style : Style) (c : CodePoint) : List Unit16 :=
  if isCoded style c then (codesOf c).map .code else [.char c]

theorem charEscape_eq (c : CodePoint) : charEscape c = (codesOf c).flatMap codeEscape := by
  simp only [charEscape, codesOf]
  split
  · rw [List.flatMap_singleton]
  · rw [List.flatMap_cons, List.flatMap_singleton]

theorem lt_of_mem_codesOf {c : CodePoint} {n : Nat} (member : n ∈ codesOf c) : n < 16 ^ 4 := by
  have valid := c.toNat_lt
  unfold codesOf at member
  split at member
  · rw [List.mem_singleton] at member
    omega
  · simp only [List.mem_cons, List.not_mem_nil, or_false] at member
    omega

theorem spellsUnit_codeEscape {n : Nat} (fits : n < 16 ^ 4) :
    SpellsUnit (codeEscape n) (.code n) :=
  .code (length_hexDigits 4 n) (hexNumber?_hexDigits fits)

theorem SpellsUnit.units {s : List CodePoint} {u : Unit16} (spells : SpellsUnit s u) :
    SpellsUnits s [u] := by
  have alone := SpellsUnits.cons spells .nil
  rwa [List.append_nil] at alone

theorem SpellsUnits.append {s t : List CodePoint} {units others : List Unit16}
    (first : SpellsUnits s units) (second : SpellsUnits t others) :
    SpellsUnits (s ++ t) (units ++ others) := by
  induction first with
  | nil => exact second
  | cons here _ ih =>
    rw [List.append_assoc, List.cons_append]
    exact .cons here ih

theorem SpellsUnits.flatMap {α : Type} {text : α → List CodePoint} {units : α → List Unit16}
    {l : List α} (each : ∀ a ∈ l, SpellsUnits (text a) (units a)) :
    SpellsUnits (l.flatMap text) (l.flatMap units) := by
  induction l with
  | nil => exact .nil
  | cons a l ih =>
    rw [List.forall_mem_cons] at each
    rw [List.flatMap_cons, List.flatMap_cons]
    exact each.1.append (ih each.2)

theorem spellsUnits_charEscape (c : CodePoint) :
    SpellsUnits (charEscape c) ((codesOf c).map .code) := by
  have each : ∀ n ∈ codesOf c, SpellsUnits (codeEscape n) [.code n] := fun n member =>
    (spellsUnit_codeEscape (lt_of_mem_codesOf member)).units
  rw [charEscape_eq, List.map_eq_flatMap]
  exact .flatMap each

/-- A character is written as its parts. -/
theorem spellsUnits_writeChar (style : Style) (c : CodePoint) :
    SpellsUnits (writeChar style c) (unitsOf style c) := by
  have short : ∀ {e}, shortEscape? e = some c → isCoded style c = false →
      SpellsUnits ['\\', e] (unitsOf style c) := by
    intro e stands plain
    rw [unitsOf, plain]
    exact (SpellsUnit.short stands).units
  unfold writeChar
  by_cases quoted : c = '"' ∨ c = '\\'
  · rw [if_pos (by simpa using quoted)]
    rcases quoted with rfl | rfl <;> exact short rfl rfl
  rw [if_neg (by simpa using quoted)]
  rw [not_or] at quoted
  by_cases feed : c = '\n'
  · subst feed
    exact short rfl rfl
  rw [if_neg feed]
  by_cases carriage : c = '\r'
  · subst carriage
    exact short rfl rfl
  rw [if_neg carriage]
  by_cases tab : c = '\t'
  · subst tab
    exact short rfl rfl
  rw [if_neg tab]
  by_cases form : c = '\x0c'
  · subst form
    exact short rfl rfl
  rw [if_neg form]
  by_cases back : c = '\x08'
  · subst back
    exact short rfl rfl
  rw [if_neg back]
  have coded : isCoded style c =
      (decide (c.toNat < 0x20) || style.asciiOnly && decide (0x7F ≤ c.toNat)) := by
    simp [isCoded, quoted, feed, carriage, tab, form, back]
  by_cases control : c.toNat < 0x20
  · rw [if_pos control, unitsOf, if_pos (by simp [coded, control])]
    exact spellsUnits_charEscape c
  rw [if_neg control]
  by_cases beyond : (style.asciiOnly && decide (0x7F ≤ c.toNat)) = true
  · rw [if_pos beyond, unitsOf, if_pos (by simp [coded, beyond])]
    exact spellsUnits_charEscape c
  have plain : ¬ isCoded style c = true := by
    rw [coded, Bool.or_eq_true, decide_eq_true_eq, not_or]
    exact ⟨control, beyond⟩
  rw [if_neg beyond, unitsOf, if_neg plain]
  exact (SpellsUnit.char quoted.1 quoted.2 (Nat.le_of_not_lt control)).units

/-- Whether a number is that of the first half of a character. -/
def IsFirstHalf (n : Nat) : Prop := 0xD800 ≤ n ∧ n < 0xDC00

/-- Whether a number is that of the second half of a character. -/
def IsSecondHalf (n : Nat) : Prop := 0xDC00 ≤ n ∧ n < 0xE000

instance (n : Nat) : Decidable (IsFirstHalf n) := inferInstanceAs (Decidable (_ ∧ _))

instance (n : Nat) : Decidable (IsSecondHalf n) := inferInstanceAs (Decidable (_ ∧ _))

theorem joinUnits_code {n : Nat} {units : List Unit16}
    (apart : IsFirstHalf n → ∀ low rest, units = .code low :: rest → ¬ IsSecondHalf low) :
    joinUnits (.code n :: units) = CodePoint.ofNat n :: joinUnits units := by
  match units with
  | [] => simp [joinUnits]
  | .char c :: rest => simp [joinUnits]
  | .code low :: rest =>
    rw [joinUnits, if_neg]
    intro halves
    simp only [Bool.and_eq_true, decide_eq_true_eq] at halves
    obtain ⟨⟨⟨first, below⟩, second⟩, last⟩ := halves
    exact apart ⟨first, below⟩ low rest rfl ⟨second, last⟩

/-- The parts of a character are joined to it again, unless it is a half and a part behind it
completes it. -/
theorem joinUnits_unitsOf {style : Style} {c : CodePoint} {units : List Unit16}
    (apart : style.asciiOnly = true → IsFirstHalf c.toNat → ∀ low rest, units = .code low :: rest →
      ¬ IsSecondHalf low) :
    joinUnits (unitsOf style c ++ units) = c :: joinUnits units := by
  unfold unitsOf
  split
  · rename_i coded
    have below := c.toNat_lt
    unfold codesOf
    split
    · rw [List.map_singleton, List.singleton_append, joinUnits_code, CodePoint.ofNat_toNat]
      intro half
      refine apart ?_ half
      simp only [isCoded, Bool.and_eq_true, Bool.or_eq_true, decide_eq_true_eq] at coded
      obtain ⟨first, -⟩ := half
      exact coded.2.elim (fun control => by omega) And.left
    · rename_i far
      have halves : 0x10000 + (0xD800 + (c.toNat - 0x10000) / 0x400 - 0xD800) * 0x400
          + (0xDC00 + (c.toNat - 0x10000) % 0x400 - 0xDC00) = c.toNat := by omega
      simp only [List.map_cons, List.map_nil, List.cons_append, List.nil_append]
      rw [joinUnits, if_pos (by simp; omega), halves, CodePoint.ofNat_toNat]
  · simp [joinUnits]

/-- The parts of a character start with a second half only if it is one. -/
theorem isSecondHalf_of_unitsOf {style : Style} {c : CodePoint} {units rest : List Unit16}
    {low : Nat}
    (starts : unitsOf style c ++ units = .code low :: rest) (second : IsSecondHalf low) :
    IsSecondHalf c.toNat := by
  have below := c.toNat_lt
  obtain ⟨least, most⟩ := second
  unfold unitsOf codesOf at starts
  split at starts
  · split at starts
    · obtain rfl := Unit16.code.inj (List.cons.inj starts).1
      exact ⟨least, most⟩
    · have high := Unit16.code.inj (List.cons.inj starts).1
      omega
  · cases (List.cons.inj starts).1

/-- No two halves that stand side by side make a character. -/
def IsUnjoined (s : List CodePoint) : Prop :=
  s.IsChain fun c d => ¬ (IsFirstHalf c.toNat ∧ IsSecondHalf d.toNat)

instance (s : List CodePoint) : Decidable (IsUnjoined s) :=
  inferInstanceAs (Decidable (s.IsChain _))

theorem isUnjoined_of_isWhole {s : List CodePoint} (whole : Text.isWhole s = true) :
    IsUnjoined s := by
  refine List.Pairwise.isChain (List.pairwise_of_forall_mem_list fun c member _ _ halves => ?_)
  obtain ⟨⟨first, below⟩, -⟩ := halves
  have char := CodePoint.isChar_iff_toNat.mp (Text.isWhole_iff.mp whole c member)
  omega

theorem joinUnits_flatMap {style : Style} {s : List CodePoint}
    (keeps : style.asciiOnly = true → IsUnjoined s) :
    joinUnits (s.flatMap (unitsOf style)) = s := by
  induction s with
  | nil => rfl
  | cons c s ih =>
    rw [List.flatMap_cons]
    cases s with
    | nil => exact joinUnits_unitsOf fun _ _ _ _ starts => nomatch starts
    | cons d s =>
      rw [joinUnits_unitsOf, ih fun ascii => (List.isChain_cons_cons.mp (keeps ascii)).2]
      intro ascii first low rest starts second
      rw [List.flatMap_cons] at starts
      exact (List.isChain_cons_cons.mp (keeps ascii)).1
        ⟨first, isSecondHalf_of_unitsOf starts second⟩

/-- A style keeps texts if it does not escape what is beyond ASCII, or no two halves in them make a
character. -/
def Style.Keeps (style : Style) (texts : List Text) : Prop :=
  style.asciiOnly = true → ∀ s ∈ texts, IsUnjoined s.toList

theorem Style.keeps_of_asciiOnly {style : Style} (beyond : style.asciiOnly = false)
    (texts : List Text) : style.Keeps texts :=
  fun ascii => Bool.noConfusion (beyond.symm.trans ascii)

theorem Style.Keeps.of_subset {style : Style} {texts others : List Text} (keeps : style.Keeps texts)
    (subset : others ⊆ texts) : style.Keeps others :=
  fun ascii s member => keeps ascii s (subset member)

/-- What is written for a string is a text of it. -/
theorem spellsString_write {style : Style} {s : Text} (keeps : style.Keeps [s]) :
    SpellsString (writeString style s.toList) s := by
  refine ⟨_, s.toList.flatMap (unitsOf style), rfl,
    .flatMap fun c _ => spellsUnits_writeChar style c, ?_⟩
  rw [joinUnits_flatMap fun ascii => keeps ascii s List.mem_cons_self, Text.ofList_toList]

/-! ## Integers -/

theorem head?_toDigits {n : Nat} (positive : 0 < n) :
    ∃ d rest, Nat.toDigits 10 n = d :: rest ∧ d ≠ '0' := by
  induction n using Nat.strongRecOn with
  | ind n ih =>
    rw [Nat.toDigits_eq_if (by decide)]
    split
    · refine ⟨_, _, rfl, ?_⟩
      rw [Ne, Nat.digitChar_eq_zero]
      omega
    · obtain ⟨d, rest, digits, first⟩ := ih (n / 10) (by omega) (by omega)
      exact ⟨d, rest ++ [(n % 10).digitChar], by rw [digits, List.cons_append], first⟩

/-- The digits of an integer, with a minus sign if it is negative. -/
def Number.ofInt (n : Int) : Number where
  negative := decide (n < 0)
  whole := Numeral.digitsOf n.natAbs
  fraction := []
  exponent := none
  plain c member := by
    rw [List.append_nil] at member
    exact Numeral.isDigit_of_mem_digitsOf member
  led := by
    rcases Nat.eq_zero_or_pos n.natAbs with zero | positive
    · exact .inl (by rw [zero]; rfl)
    · obtain ⟨d, rest, digits, first⟩ := head?_toDigits positive
      refine .inr ⟨d, rest.map .char, by rw [Numeral.digitsOf, digits, List.map_cons], ?_⟩
      exact fun same => first (CodePoint.char.inj same)

namespace Number

theorem text_ofInt (n : Int) : (ofInt n).text = Text.toList (toString n) := by
  have shown : Text.toList (toString n) = _ := Numeral.toList_decimal n
  rw [shown]
  simp [text, ofInt, unsigned, fractionText, exponentText]

theorem document_ofInt (n : Int) : (ofInt n).document = .int n := by
  have digits : decimalNumber (Numeral.digitsOf n.natAbs ++ []) = n.natAbs := by
    rw [List.append_nil, Numeral.decimalNumber_digitsOf]
  have value : (if decide (n < 0) = true then -(n.natAbs : Int) else n.natAbs) = n := by
    simp only [decide_eq_true_eq]
    split <;> omega
  have whole : (ofInt n).isInteger = true := rfl
  rw [document, if_pos whole]
  simp only [ofInt, digits, value]

theorem demand_ofInt (n : Int) :
    (ofInt n).demand = { integers := [Numeral.digitsOf n.natAbs] } := rfl

end Number

end LogTemplate.Json
