import Mathlib.Data.Int.Order.Basic
import Mathlib.Tactic.Ring
import LogTemplate.Field.Admission
import LogTemplate.Proofs.Numeral
import LogTemplate.Proofs.Refusing

/-!
# Numbers within bounds

A numeral may be as long as a line, and one that is longer than a bound is never converted.  Main
statement: bounds are checked exactly all the same, whatever the signs, the leading zeros and the
numbers of digits.
-/

namespace LogTemplate

namespace Text

/-- The first digit counts as often as the digits behind it allow. -/
theorem decimalNumber_cons (c : CodePoint) (digits : List CodePoint) :
    decimalNumber (c :: digits) =
      (c.toNat - 0x30) * 10 ^ digits.length + decimalNumber digits := by
  have key : ∀ start, digits.foldl (fun n d => 10 * n + (d.toNat - 0x30)) start =
      start * 10 ^ digits.length + decimalNumber digits := by
    induction digits with
    | nil => simp [decimalNumber]
    | cons d digits ih =>
      intro start
      have tail : decimalNumber (d :: digits) =
          (d.toNat - 0x30) * 10 ^ digits.length + decimalNumber digits := by
        rw [decimalNumber, List.foldl_cons, ih, Nat.mul_zero, Nat.zero_add]
      rw [List.foldl_cons, ih, tail, List.length_cons]
      ring
  rw [decimalNumber, List.foldl_cons, key, Nat.mul_zero, Nat.zero_add]

/-- Leading zeros do not count. -/
theorem decimalNumber_dropZeros (digits : List CodePoint) :
    decimalNumber (digits.dropWhile (· == CodePoint.char '0')) = decimalNumber digits := by
  induction digits with
  | nil => rfl
  | cons c digits ih =>
    by_cases zero : c = '0'
    · subst zero
      rw [List.dropWhile_cons_of_pos (by decide), ih, decimalNumber_cons]
      simp
    · rw [List.dropWhile_cons_of_neg (by simpa using zero)]

/-- A digit other than zero makes a number as long as the digits behind it are many. -/
theorem pow_le_decimalNumber {c : CodePoint} {digits : List CodePoint} (digit : c.isDigit = true)
    (leading : c ≠ '0') : 10 ^ digits.length ≤ decimalNumber (c :: digits) := by
  have positive : 0 < c.toNat - 0x30 := by
    rw [CodePoint.isDigit_iff_toNat] at digit
    have low : '0'.toNat = 48 := rfl
    have other : c.toNat ≠ '0'.toNat := fun same => leading (CodePoint.toNat_inj.mp same)
    omega
  rw [decimalNumber_cons]
  exact (Nat.le_mul_of_pos_left _ positive).trans (Nat.le_add_right _ _)

end Text

namespace Numeral

/-- A numeral as a field holds it: digits, at least one, with a minus sign before them or not. -/
def IsPlain (value : List CodePoint) : Prop :=
  ∃ digits, digits ≠ [] ∧ (∀ c ∈ digits, c.isDigit = true)
    ∧ (value = digits ∨ value = .char '-' :: digits)

/-- The integer that a numeral denotes, of however many digits. -/
def denoted : List CodePoint → Int
  | .char '-' :: digits => -(Text.decimalNumber digits : Int)
  | digits => Text.decimalNumber digits

theorem denoted_of_isDigit {digits : List CodePoint} (plain : ∀ c ∈ digits, c.isDigit = true) :
    denoted digits = Text.decimalNumber digits := by
  unfold denoted
  split
  · exact absurd (plain '-' List.mem_cons_self) (by decide)
  · rfl

/-- Digits without leading zeros denote more than a number that has fewer digits. -/
theorem lt_decimalNumber_of_length {digits : List CodePoint} {n : Nat}
    (plain : ∀ c ∈ digits, c.isDigit = true)
    (longer : (toString n).length < (digits.dropWhile (· == CodePoint.char '0')).length) :
    n < Text.decimalNumber digits := by
  rw [← Text.decimalNumber_dropZeros]
  cases kept : digits.dropWhile (· == CodePoint.char '0') with
  | nil =>
    rw [kept] at longer
    exact absurd longer (Nat.not_lt_zero _)
  | cons c rest =>
    have digit : c.isDigit = true := by
      refine plain c ((List.dropWhile_sublist (· == CodePoint.char '0')).mem ?_)
      rw [kept]
      exact List.mem_cons_self
    have leading : c ≠ '0' := by
      have first := List.head?_dropWhile_not (· == CodePoint.char '0') digits
      rw [kept] at first
      simpa using first
    have few : (toString n).length ≤ rest.length := by
      rw [kept, List.length_cons] at longer
      omega
    have small : n < 10 ^ (toString n).length := by
      rw [Nat.toString_eq_repr, ← Nat.length_repr_le_iff]
      exact Nat.length_repr_pos
    calc n < 10 ^ (toString n).length := small
      _ ≤ 10 ^ rest.length := Nat.pow_le_pow_right (by decide) few
      _ ≤ Text.decimalNumber (c :: rest) := Text.pow_le_decimalNumber digit leading

end Numeral

/-- An order as a number: negative, zero or positive. -/
def signOf : Ordering → Int
  | .lt => -1
  | .eq => 0
  | .gt => 1

theorem signOf_compare (a b : Int) : signOf (compare a b) = (a - b).sign := by
  rcases lt_trichotomy a b with below | rfl | above
  · rw [compare_lt_iff_lt.mpr below, Int.sign_eq_neg_one_of_neg (by omega)]
    rfl
  · rw [compare_eq_iff_eq.mpr rfl, Int.sub_self]
    rfl
  · rw [compare_gt_iff_gt.mpr above, Int.sign_eq_one_of_pos (by omega)]
    rfl

/-- The order of a numeral and a bound is found, and it is that of the integers. -/
theorem compareNumeral_eq {value : List CodePoint} {bound : Int} (numeral : Numeral.IsPlain value)
    (short : (toString bound.natAbs).length ≤ Numeral.digitLimit) :
    compareNumeral value bound = .ok (compare (Numeral.denoted value) bound) := by
  obtain ⟨digits, -, plain, shape⟩ := numeral
  have first : ∀ c ∈ digits.head?, (c == '-') = false := by
    intro c head
    have digit := plain c (List.mem_of_mem_head? head)
    rw [beq_eq_false_iff_ne]
    rintro rfl
    exact absurd digit (by decide)
  have unsigned : value.dropWhile (· == CodePoint.char '-') = digits := by
    rcases shape with rfl | rfl
    · exact Text.dropWhile_eq_self first
    · rw [List.dropWhile_cons_of_pos (by decide), Text.dropWhile_eq_self first]
  have signed : Numeral.denoted value =
      if value.head? == some (.char '-') then -(Text.decimalNumber digits : Int)
      else Text.decimalNumber digits := by
    rcases shape with rfl | rfl
    · rw [Numeral.denoted_of_isDigit plain, if_neg]
      intro minus
      exact absurd (first '-' (by simpa using minus)) (by decide)
    · rfl
  unfold compareNumeral
  simp only [unsigned]
  rw [signed]
  split
  · rename_i longer
    -- The number is farther from zero than the bound, on the side of its sign.
    have far := Numeral.lt_decimalNumber_of_length plain longer
    split
    · rw [compare_lt_iff_lt.mpr (by omega)]
    · rw [compare_gt_iff_gt.mpr (by omega)]
  · rename_i few
    have kept : ∀ c ∈ digits.dropWhile (· == CodePoint.char '0'), c.isDigit = true :=
        fun c member =>
      plain c ((List.dropWhile_sublist _).mem member)
    rw [← Text.decimalNumber_dropZeros]
    split
    · rename_i empty
      rw [List.isEmpty_iff.mp empty]
      rfl
    · rename_i filled
      have read := (Numeral.readDecimal_digits (by simpa using filled) kept (by omega)).1
      rw [read]
      rfl

namespace Bounds

variable {value : List CodePoint} {bound : Option Int}

theorem numeralFrom_eq (numeral : Numeral.IsPlain value)
    (short : ∀ low ∈ bound, (toString low.natAbs).length ≤ Numeral.digitLimit) :
    numeralFrom bound value = .ok (bound.all (· ≤ Numeral.denoted value)) := by
  cases bound with
  | none => rfl
  | some low =>
    rw [numeralFrom, compareNumeral_eq numeral (short low rfl), ok_bind]
    congr 1
    by_cases kept : low ≤ Numeral.denoted value
    · simp [kept, compare_lt_iff_lt]
    · simp [kept, compare_lt_iff_lt.mpr (not_le.mp kept)]

theorem numeralUpTo_eq (numeral : Numeral.IsPlain value)
    (short : ∀ high ∈ bound, (toString high.natAbs).length ≤ Numeral.digitLimit) :
    numeralUpTo bound value = .ok (bound.all (Numeral.denoted value ≤ ·)) := by
  cases bound with
  | none => rfl
  | some high =>
    rw [numeralUpTo, compareNumeral_eq numeral (short high rfl), ok_bind]
    congr 1
    by_cases kept : Numeral.denoted value ≤ high
    · simp [kept, compare_gt_iff_gt]
    · simp [kept, compare_gt_iff_gt.mpr (not_le.mp kept)]

/-- The bounds of a number are checked one by one. -/
theorem satisfied_number {b : Bounds} (numeral : Numeral.IsPlain value)
    (shortMin : ∀ low ∈ b.min, (toString low.natAbs).length ≤ Numeral.digitLimit)
    (shortMax : ∀ high ∈ b.max, (toString high.natAbs).length ≤ Numeral.digitLimit) :
    b.satisfied .number value =
      .ok (b.min.all (· ≤ Numeral.denoted value) && b.max.all (Numeral.denoted value ≤ ·)) := by
  rw [satisfied, numeralFrom_eq numeral shortMin, numeralUpTo_eq numeral shortMax, ok_bind]
  cases b.min.all (· ≤ Numeral.denoted value) <;> rfl

/-- The bounds of a number can always be checked, however many digits it has, if they themselves
have no more digits than a numeral may have.  It keeps them exactly if the integer that it denotes
lies between them, each of them there or not.  The comparison that this rests on gives the sign of
the difference. -/
theorem satisfied_number_iff_between (numeral : Numeral.IsPlain value) (b : Bounds)
    (shortMin : ∀ low ∈ b.min, (toString low.natAbs).length ≤ Numeral.digitLimit)
    (shortMax : ∀ high ∈ b.max, (toString high.natAbs).length ≤ Numeral.digitLimit) :
    (∃ kept, b.satisfied .number value = .ok kept
        ∧ (kept = true ↔ (∀ low ∈ b.min, low ≤ Numeral.denoted value)
          ∧ ∀ high ∈ b.max, Numeral.denoted value ≤ high))
      ∧ ∀ bound : Int, (toString bound.natAbs).length ≤ Numeral.digitLimit →
        (compareNumeral value bound).map signOf = .ok (Numeral.denoted value - bound).sign := by
  refine ⟨⟨_, satisfied_number numeral shortMin shortMax, ?_⟩, fun bound short => ?_⟩
  · rw [Bool.and_eq_true]
    cases b.min <;> cases b.max <;> simp
  · rw [compareNumeral_eq numeral short, ← signOf_compare]
    rfl

/-- Zero with a minus sign and many zeros lies between zero and zero. -/
theorem satisfied_number_iff_between_zero :
    Numeral.IsPlain (Text.toList "-000")
      ∧ ({ min := some 0, max := some 0 } : Bounds).satisfied .number (Text.toList "-000") =
        .ok true := by
  have numeral : Numeral.IsPlain (Text.toList "-000") :=
    ⟨Text.toList "000", by decide, Text.forall_mem_of_all (by decide), .inr rfl⟩
  obtain ⟨⟨kept, found, between⟩, -⟩ := satisfied_number_iff_between numeral
    { min := some 0, max := some 0 } (by decide) (by decide)
  exact ⟨numeral, found.trans (congrArg Except.ok (between.mpr (by decide)))⟩

end Bounds

end LogTemplate
